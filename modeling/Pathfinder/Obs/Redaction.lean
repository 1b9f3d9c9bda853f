import Mathlib.Data.List.DropRight
import Pathfinder.Library.Dictionary
import Pathfinder.Domain.IgnoringCase
import Pathfinder.Domain.PythonText

/-!
# Redaction

`obs/redaction.py`. A value refers to its mappings and lists by their identity, so that it may hold
itself; a heap says what is behind an identity. The checks that `urlsplit` makes of an authority
are a parameter.
-/
namespace Pathfinder
open Dictionaries

/-- `REDACTED`. -/
def redactedMark : Text := "[REDACTED]".toList

/-- `_MAX_DEPTH`. -/
def maxRedactionDepth : Nat := 8

/-! ## Sensitive keys -/

/-- `[a-z0-9]`. -/
def keyCharacter (c : Char) : Bool := ('a' ≤ c && c ≤ 'z') || ('0' ≤ c && c ≤ '9')

/-- `_KEY_SEPARATOR_PATTERN.sub("_", text)`; `behind` says that a separator has been read. -/
def joinKeyWords (behind : Bool) : Text → Text
  | [] => []
  | c :: rest =>
    if keyCharacter c then c :: joinKeyWords false rest
    else if behind then joinKeyWords true rest
    else '_' :: joinKeyWords true rest

/-- `text.strip("_")`. -/
def stripUnderscores (text : Text) : Text := (text.dropWhile (· = '_')).rdropWhile (· = '_')

/-- `_SENSITIVE_KEYS`. -/
def sensitiveKeys : List Text :=
  ["api_key", "apikey", "authorization", "bearer_token", "client_secret", "cookie", "credential",
    "credential_handle", "dashscope_api_key", "id_token", "qwen_workspace_id", "password", "passwd",
    "pf_qwen_workspace_id", "proxy_authorization", "refresh_token", "secret", "session",
    "session_token", "set_cookie", "signature", "signed_url", "token"].map String.toList

/-- `_SENSITIVE_SUFFIXES` behind their underscores. -/
def suffixNames : List Text :=
  ["access_token", "api_key", "cookie", "credential", "password", "refresh_token", "secret"].map
    String.toList

section Keys
variable (chars : CharacterTables)

/-- `_normalized_key`. -/
def normalizedKey (value : Text) : Text :=
  stripUnderscores (joinKeyWords false (casefold chars value))

/-- `_is_sensitive_key`. -/
def isSensitiveKey (value : Text) : Bool :=
  let normalized := normalizedKey chars value
  sensitiveKeys.contains normalized ||
    suffixNames.any fun name => ('_' :: name).isSuffixOf normalized

end Keys

/-! ## Strings -/

/-- `[^\s,;]`. -/
def credentialSign (chars : CharacterTables) (c : Char) : Bool :=
  !(chars.isSpace c || c = ',' || c = ';')

/-- `_BEARER_PATTERN` at a place: its group and the credential behind it. The spaces are all of the
whitespace, since no credential begins with it. -/
def bearerAt (chars : CharacterTables) (previous : Option Char) (text : Text) :
    Option (Text × Text) :=
  if previous.any chars.isWord = text.head?.any chars.isWord then none
  else match behindWord "bearer".toList text with
  | none => none
  | some rest =>
    let spaces := rest.takeWhile chars.isSpace
    let credential := (rest.dropWhile chars.isSpace).takeWhile (credentialSign chars)
    if spaces = [] ∨ credential = [] then none
    else some (text.take (6 + spaces.length), credential)

/-- `_BEARER_PATTERN.sub(r"\1[REDACTED]", text)`; `skip` more characters belong to the match
before. -/
def redactBearer (chars : CharacterTables) (previous : Option Char) : Nat → Text → Text
  | _, [] => []
  | skip + 1, c :: rest => redactBearer chars (some c) skip rest
  | 0, c :: rest =>
    match bearerAt chars previous (c :: rest) with
    | none => c :: redactBearer chars (some c) 0 rest
    | some (group, credential) =>
      group ++ redactedMark ++
        redactBearer chars (some c) (group.length + credential.length - 1) rest

/-- `SplitResult`. -/
structure SplitUrl where
  scheme : Text
  netloc : Text
  path : Text
  query : Text
  fragment : Text
  deriving DecidableEq, Repr

/-- `scheme_chars`. -/
def schemeSign (c : Char) : Bool :=
  ('a' ≤ c && c ≤ 'z') || ('A' ≤ c && c ≤ 'Z') || ('0' ≤ c && c ≤ '9') || ['+', '-', '.'].contains c

/-- The tabs and line breaks that `urlsplit` takes out. -/
def urlBreak (c : Char) : Bool := c = '\t' || c = '\r' || c = '\n'

/-- The text that `urlsplit` reads. -/
def urlText (text : Text) : Text :=
  (text.dropWhile fun c => c.toNat ≤ 32).filter fun c => !urlBreak c

/-- The scheme of a URL in lower case, and what is behind it. -/
def splitScheme (url : Text) : Text × Text :=
  let scheme := url.takeWhile (· ≠ ':')
  if url.contains ':' && scheme.head?.any (fun c => ('a' ≤ c && c ≤ 'z') || ('A' ≤ c && c ≤ 'Z')) &&
      scheme.all schemeSign then
    (scheme.map Char.toLower, (url.dropWhile (· ≠ ':')).tail)
  else ([], url)

/-- `/`, `?` and `#` end an authority. -/
def authoritySign (c : Char) : Bool := !(c = '/' || c = '?' || c = '#')

/-- The authority and what is behind it. -/
def splitAuthority : Text → Text × Text
  | '/' :: '/' :: rest => (rest.takeWhile authoritySign, rest.dropWhile authoritySign)
  | url => ([], url)

/-- `text.split(mark, 1)` without its mark, where nothing is behind a text without one. -/
def splitAt (mark : Char) (text : Text) : Text × Text :=
  (text.takeWhile (· ≠ mark), (text.dropWhile (· ≠ mark)).tail)

/-- The parts that `urlsplit` returns. -/
def urlParts (text : Text) : SplitUrl :=
  let (scheme, behindScheme) := splitScheme (urlText text)
  let (netloc, behindNetloc) := splitAuthority behindScheme
  let (target, fragment) := splitAt '#' behindNetloc
  let (path, query) := splitAt '?' target
  { scheme, netloc, path, query, fragment }

/-- `urlunsplit` of parts with a scheme and an authority. -/
def urlUnsplit (parts : SplitUrl) : Text :=
  parts.scheme ++ "://".toList ++ parts.netloc ++
    (if parts.path = [] ∨ parts.path.head? = some '/' then parts.path else '/' :: parts.path) ++
    (if parts.query = [] then [] else '?' :: parts.query) ++
    (if parts.fragment = [] then [] else '#' :: parts.fragment)

/-- The parts are those of an `http` or `https` URL with an authority. -/
def SplitUrl.isHttp (parts : SplitUrl) : Bool :=
  (parts.scheme = "http".toList || parts.scheme = "https".toList) && parts.netloc ≠ []

section Strings
variable (chars : CharacterTables) (authorityAllowed : Text → Bool)

/-- `urlsplit`; none where it raises. -/
def urlSplit (text : Text) : Option SplitUrl :=
  let parts := urlParts text
  if authorityAllowed parts.netloc then some parts else none

/-- `_redact_string`. -/
def redactString (value : Text) : Text :=
  let redacted := redactBearer chars none 0 value
  match urlSplit authorityAllowed redacted with
  | none => redacted
  | some parts =>
    if parts.isHttp ∧ parts.query ≠ [] then urlUnsplit { parts with query := redactedMark }
    else redacted

end Strings

/-! ## Values -/

/-- What `str` writes of a UUID, a decimal or a date. -/
structure PlainText where
  text : Text
  plain : ∀ c ∈ text, c ≠ 'r' ∧ c ≠ 'R' ∧ c ≠ '/'

/-- The name of a type. -/
structure TypeName (chars : CharacterTables) where
  text : Text
  word : ∀ c ∈ text, chars.isSpace c = false

def TypeName.shown {chars : CharacterTables} (name : TypeName chars) : Text :=
  '<' :: name.text ++ ['>']

inductive LoggedFloat where
  | finite (written : Text)
  | nan | infinity | negativeInfinity

/-- A key of a mapping: a string, a number, UUID or member of an enumeration, or any other. -/
inductive LoggedKey (chars : CharacterTables) where
  | string (text : Text)
  | scalar (written : Text)
  | other (type : TypeName chars)

/-- A value: one of `SecretStr` and `SecretBytes` is a secret, a mapping or a list is an object with
its identity. -/
inductive LoggedValue (chars : CharacterTables) where
  | none
  | bool (value : Bool)
  | int (value : Int)
  | float (value : LoggedFloat)
  | string (text : Text)
  | secret (content : Text)
  | plain (written : PlainText)
  | enum (value : LoggedValue chars)
  | object (identity : Nat)
  | other (type : TypeName chars)

/-- What is behind an identity. -/
inductive LoggedContainer (chars : CharacterTables) where
  | mapping (entries : List (LoggedKey chars × LoggedValue chars))
  | list (items : List (LoggedValue chars))

abbrev LoggedHeap (chars : CharacterTables) := Nat → LoggedContainer chars

/-- A redacted value. -/
inductive Redacted where
  | null
  | bool (value : Bool)
  | int (value : Int)
  | float (written : Text)
  | string (text : Text)
  | list (items : List Redacted)
  | object (entries : List (Text × Redacted))

/-- `_safe_key`. -/
def safeKey {chars : CharacterTables} : LoggedKey chars → Text
  | .string text => text
  | .scalar written => written
  | .other type => type.shown

def LoggedFloat.safe : LoggedFloat → Redacted
  | finite written => .float written
  | nan => .string "nan".toList
  | infinity => .string "inf".toList
  | negativeInfinity => .string "-inf".toList

section Values
variable {chars : CharacterTables} (authorityAllowed : Text → Bool) (heap : LoggedHeap chars)

/-- `_safe_value`, `room` levels above the depth at which it stops. -/
def safeValue : Nat → List Nat → LoggedValue chars → Redacted
  | 0, _, _ => .string "<max-depth>".toList
  | _ + 1, _, .none => .null
  | _ + 1, _, .bool value => .bool value
  | _ + 1, _, .int value => .int value
  | _ + 1, _, .float value => value.safe
  | _ + 1, _, .string text => .string (redactString chars authorityAllowed text)
  | _ + 1, _, .secret _ => .string redactedMark
  | _ + 1, _, .plain written => .string written.text
  | room + 1, seen, .enum value => safeValue room seen value
  | _ + 1, _, .other type => .string type.shown
  | room + 1, seen, .object identity =>
    if identity ∈ seen then .string "<cycle>".toList
    else match heap identity with
    | .mapping entries =>
      .object (build (entries.map fun entry =>
        (safeKey entry.1, if isSensitiveKey chars (safeKey entry.1) then .string redactedMark
          else safeValue room (identity :: seen) entry.2)))
    | .list items => .list (items.map fun item => safeValue room (identity :: seen) item)

/-- `redact_value`. -/
def redactValue (value : LoggedValue chars) : Redacted :=
  safeValue authorityAllowed heap (maxRedactionDepth + 1) [] value

end Values

end Pathfinder
