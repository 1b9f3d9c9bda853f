import Pathfinder.Library.Backtracking
import Pathfinder.Domain.ResumeProfile

/-!
# Privacy of model input

`check_model_input_privacy` of `domain/resume_profile.py`. `str.isdigit` is a parameter beside the
character tables.
-/
namespace Pathfinder
open Backtracking

/-- The characters in which `json.dumps` writes a number. -/
def numberSign (c : Char) : Bool :=
  ('0' ≤ c && c ≤ '9') || ['+', '-', '.', 'e', 'E'].contains c

abbrev NumberText := { written : Text // written.all numberSign = true }

/-- A value that is serialized for a model. -/
inductive ModelInput where
  | null
  | bool (value : Bool)
  | number (written : NumberText)
  | string (text : Text)
  | list (items : List ModelInput)
  | object (members : List (Text × ModelInput))

/-- `DomainValidationError`. -/
structure DomainValidationError where
  message : String
  deriving DecidableEq, Repr

/-! ## Patterns -/

/-- `[A-Z]` under `re.IGNORECASE`. -/
def letterIgnoringCase (c : Char) : Bool :=
  ('a' ≤ c && c ≤ 'z') || ('A' ≤ c && c ≤ 'Z') ||
    ['\u0130', '\u0131', '\u017f', '\u212a'].contains c

/-- `[A-Z0-9.-]` under `re.IGNORECASE`. -/
def domainSign (c : Char) : Bool :=
  letterIgnoringCase c || ('0' ≤ c && c ≤ '9') || c = '.' || c = '-'

/-- `[A-Z0-9._%+-]` under `re.IGNORECASE`. -/
def localSign (c : Char) : Bool := domainSign c || c = '_' || c = '%' || c = '+'

/-- `[0-9a-f]` under `re.IGNORECASE`. -/
def hexSign (c : Char) : Bool :=
  ('0' ≤ c && c ≤ '9') || ('a' ≤ c && c ≤ 'f') || ('A' ≤ c && c ≤ 'F')

/-- `(?<!…)`. -/
def notBehind (accepts : Char → Bool) : Pattern Char :=
  look fun place => !place.1.head?.any accepts

/-- `(?!…)`. -/
def notAhead (accepts : Char → Bool) : Pattern Char :=
  look fun place => !place.2.head?.any accepts

def exactly (c : Char) : Pattern Char := one (· = c)

section Patterns
variable (chars : CharacterTables)

/-- `\b`. -/
def atBoundary (place : Place Char) : Bool :=
  place.1.head?.any chars.isWord != place.2.head?.any chars.isWord

/-- `email_pattern`. -/
def emailPattern : Pattern Char :=
  sequence [look (atBoundary chars), one localSign, many localSign, exactly '@', one domainSign,
    many domainSign, exactly '.', one letterIgnoringCase, one letterIgnoringCase,
    many letterIgnoringCase, look (atBoundary chars)]

/-- `[\d(). -]`. -/
def phoneSign (c : Char) : Bool := chars.isDecimal c || ['(', ')', '.', ' ', '-'].contains c

/-- `phone_pattern`. -/
def phonePattern : Pattern Char :=
  sequence [notBehind chars.isDecimal, optional (exactly '+'), one chars.isDecimal,
    times (one (phoneSign chars)) 5, many (phoneSign chars), one chars.isDecimal,
    notAhead chars.isDecimal]

/-- The pattern of a UUID. -/
def identifierPattern : Pattern Char :=
  sequence [notBehind hexSign, times (one hexSign) 8, exactly '-',
    times (sequence [times (one hexSign) 4, exactly '-']) 3, times (one hexSign) 12,
    notAhead hexSign]

/-- A year of this or the last century, a separator and a month. -/
def monthPattern : Pattern Char :=
  sequence [orElse (sequence [exactly '1', exactly '9']) (sequence [exactly '2', exactly '0']),
    times (one chars.isDecimal) 2, one fun c => ['.', '/', '-'].contains c,
    orElse (sequence [optional (exactly '0'), one fun c => '1' ≤ c && c ≤ '9'])
      (sequence [exactly '1', one fun c => '0' ≤ c && c ≤ '2'])]

/-- The pattern of a range of months. -/
def monthRangePattern : Pattern Char :=
  sequence [notBehind chars.isDecimal, monthPattern chars, many chars.isSpace,
    orElse (sequence [exactly '-', optional (exactly '-')])
      (one fun c => ['\u2013', '\u2014', '至'].contains c),
    many chars.isSpace, monthPattern chars, notAhead chars.isDecimal]

end Patterns

/-! ## The check -/

section Check
variable (chars : CharacterTables) (isDigit : Char → Bool) (content : ResumeContent)

/-- `protected`. -/
def protectedValues : List Text := content.displayName :: content.contact.map ContactField.value

/-- `phone_digits`. -/
def phoneDigits : List Text :=
  (content.contact.filter fun field => field.kind = .phone).map fun field =>
    field.value.filter isDigit

/-- `phone_text`. -/
def withoutIdentifiers (part : Text) : Text := removed identifierPattern part

/-- `has_phone`. -/
def hasPhone (phoneText : Text) : Bool :=
  (findIter (phonePattern chars) (removed (monthRangePattern chars) phoneText)).any fun found =>
    10 ≤ (found.filter isDigit).length && (found.filter isDigit).length ≤ 15

attribute [local instance (2000)] List.instDecidableIsInfixOfDecidableEq

/-- `needle in text`. -/
def occursIn (needle text : Text) : Bool := decide (needle <:+: text)

/-- The condition under which `inspect` raises for a string. -/
def holdsProtected (part : Text) : Bool :=
  let phoneText := withoutIdentifiers part
  let digits := phoneText.filter isDigit
  search (emailPattern chars) part || hasPhone chars isDigit phoneText ||
    (protectedValues content).any (fun secret => !secret.isEmpty && occursIn secret part) ||
    (phoneDigits isDigit content).any fun phone => 7 ≤ phone.length && occursIn phone digits

mutual

/-- `inspect`. -/
def inspect : ModelInput → Except DomainValidationError Unit
  | .string part =>
    if holdsProtected chars isDigit content part then
      .error ⟨"resume model input contains protected data"⟩
    else .ok ()
  | .object members => inspectMembers members
  | .list items => inspectItems items
  | .null => .ok ()
  | .bool _ => .ok ()
  | .number _ => .ok ()

def inspectItems : List ModelInput → Except DomainValidationError Unit
  | [] => .ok ()
  | item :: rest => do
    inspect item
    inspectItems rest

/-- The loop over `part.values()`. -/
def inspectMembers : List (Text × ModelInput) → Except DomainValidationError Unit
  | [] => .ok ()
  | (_, child) :: rest => do
    inspect child
    inspectMembers rest

end

/-- `check_model_input_privacy`. -/
def checkModelInputPrivacy (value : ModelInput) : Except DomainValidationError Unit :=
  inspect chars isDigit content value

end Check

end Pathfinder
