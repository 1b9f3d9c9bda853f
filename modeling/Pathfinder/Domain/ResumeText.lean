import Mathlib.Algebra.GroupWithZero.Nat
import Mathlib.Data.List.Basic

/-!
# Texts

Python strings as lists of code points, with the operations the resume rules
use: `re.findall` of the number pattern, the search for planned wording,
`casefold` and `strip`. The character tables the interpreter is built with are
a parameter. A validated or stored string holds no lone surrogate, so a code
point is a `Char`.
-/
namespace Pathfinder

abbrev Text := List Char

/-- `len(text.encode("utf-8"))`. -/
def utf8Length (text : Text) : Nat := (text.map Char.utf8Size).sum

theorem utf8Length_cons (c : Char) (rest : Text) :
    utf8Length (c :: rest) = c.utf8Size + utf8Length rest := by
  rw [utf8Length, List.map_cons, List.sum_cons, utf8Length]

theorem utf8Length_append (first second : Text) :
    utf8Length (first ++ second) = utf8Length first + utf8Length second := by
  simp [utf8Length]

/-- The character tables behind `\d`, `\w`, `str.isspace`, `str.casefold` and
`re.IGNORECASE`. -/
structure CharacterTables where
  isDecimal : Char → Bool
  isWord : Char → Bool
  isSpace : Char → Bool
  casefold : Char → Text
  sameIgnoringCase : Char → Char → Bool

/-- The tables on ASCII characters, where they agree with the interpreter's. -/
def asciiTables : CharacterTables where
  isDecimal c := c.isDigit
  isWord c := c.isAlphanum || c = '_'
  isSpace c := (9 ≤ c.toNat && c.toNat ≤ 13) || (28 ≤ c.toNat && c.toNat ≤ 32)
  casefold c := [c.toLower]
  sameIgnoringCase c d := c.toLower = d.toLower

variable (chars : CharacterTables)

/-- Where a scan for `\d+(?:\.\d+)?%?` stands: outside a match, in its integer
digits, behind a point that belongs to it only if a digit follows, or in its
fraction. -/
inductive NumberScan where
  | outside
  | integer (read : Text)
  | point (read : Text)
  | fraction (read : Text)

/-- The matches that remain from a position. -/
def numericTokensFrom : NumberScan → Text → List Text
  | .outside, [] => []
  | .integer read, [] => [read]
  | .point read, [] => [read]
  | .fraction read, [] => [read]
  | .outside, c :: rest =>
    if chars.isDecimal c then numericTokensFrom (.integer [c]) rest
    else numericTokensFrom .outside rest
  | .integer read, c :: rest =>
    if chars.isDecimal c then numericTokensFrom (.integer (read ++ [c])) rest
    else if c = '.' then numericTokensFrom (.point read) rest
    else if c = '%' then (read ++ [c]) :: numericTokensFrom .outside rest
    else read :: numericTokensFrom .outside rest
  | .point read, c :: rest =>
    if chars.isDecimal c then numericTokensFrom (.fraction (read ++ ['.', c])) rest
    else read :: numericTokensFrom .outside rest
  | .fraction read, c :: rest =>
    if chars.isDecimal c then numericTokensFrom (.fraction (read ++ [c])) rest
    else if c = '%' then (read ++ [c]) :: numericTokensFrom .outside rest
    else read :: numericTokensFrom .outside rest

/-- `re.findall(r"\d+(?:\.\d+)?%?", text)`. -/
def numericTokens (text : Text) : List Text := numericTokensFrom chars .outside text

example : numericTokens asciiTables "12.5% of 3.x, v1.2.3".toList =
    ["12.5%".toList, "3".toList, "1.2".toList, "3".toList] := by decide

/-- `str(UUID(int=value))`. -/
def uuidText (value : Nat) : Text :=
  let digit := fun i => Nat.digitChar (value / 16 ^ i % 16)
  let group := fun high size => (List.range size).map fun i => digit (high - i)
  group 31 8 ++ '-' :: group 23 4 ++ '-' :: group 19 4 ++ '-' :: group 15 4 ++ '-' :: group 11 12

example : uuidText 0x12345678123456781234567812345678 =
    "12345678-1234-5678-1234-567812345678".toList := by decide

/-- `" ".join(parts)`. -/
def joinSpaces : List Text → Text
  | [] => []
  | [part] => part
  | part :: rest => part ++ ' ' :: joinSpaces rest

/-- `text.casefold()`. -/
def casefold (text : Text) : Text := text.flatMap chars.casefold

/-- `term.casefold() in text.casefold()`. -/
def containsFolded (term text : Text) : Bool :=
  (casefold chars text).tails.any fun tail => (casefold chars term).isPrefixOf tail

/-- `not text.strip()`. -/
def blank (text : Text) : Bool := text.all chars.isSpace

/-- `\b` between two characters, `none` at an end of the text. -/
def wordBoundary (before after : Option Char) : Bool :=
  before.any chars.isWord != after.any chars.isWord

/-- Match a literal, ignoring case: the last character read and what remains. -/
def matchWord : Text → Option Char → Text → Option (Option Char × Text)
  | [], last, text => some (last, text)
  | _ :: _, _, [] => none
  | letter :: word, _, c :: rest =>
    if chars.sameIgnoringCase letter c then matchWord word (some c) rest else none

/-- `\b(plan|planned|proposed)\b|计划|规划` at the head of `text`. -/
def plannedHere (before : Option Char) (text : Text) : Bool :=
  (wordBoundary chars before text.head? &&
    ["plan".toList, "planned".toList, "proposed".toList].any fun word =>
      match matchWord chars word none text with
      | some (last, rest) => wordBoundary chars last rest.head?
      | none => false) ||
  "计划".toList.isPrefixOf text || "规划".toList.isPrefixOf text

/-- `re.search(r"\b(plan|planned|proposed)\b|计划|规划", text, re.I)`. -/
def plannedWordingFrom : Option Char → Text → Bool
  | before, [] => plannedHere chars before []
  | before, c :: rest => plannedHere chars before (c :: rest) || plannedWordingFrom (some c) rest

def plannedWording (text : Text) : Bool := plannedWordingFrom chars none text

example : plannedWording asciiTables "A Planned rollout".toList = true ∧
    plannedWording asciiTables "Explained the plans".toList = false := by decide

end Pathfinder
