import Mathlib.Data.List.Basic
import Mathlib.Data.List.TakeWhile

/-!
# Writing and reading JSON

The text of a JSON value without spaces, the members of an object in the order they are given,
and a reader whose numbers are integers. What `write` makes of a value is read as that value,
also in front of other text that may follow a value.
-/
namespace JsonTexts

inductive Json where
  | null
  | bool (value : Bool)
  | number (value : Nat)
  /-- The number below zero whose size is one more than what is given. -/
  | negative (below : Nat)
  | string (text : List Char)
  | array (items : List Json)
  | object (members : List (List Char × Json))

def hexDigit (value : Nat) : Char := Nat.digitChar value

/-- A character of a string, where everything but control characters, quotes and backslashes
stands for itself. -/
def escape (c : Char) : List Char :=
  if c = '"' then "\\\"".toList
  else if c = '\\' then "\\\\".toList
  else if c = '\n' then "\\n".toList
  else if c = '\r' then "\\r".toList
  else if c = '\t' then "\\t".toList
  else if c = '\u000c' then "\\f".toList
  else if c = '\u0008' then "\\b".toList
  else if c.toNat < 32 then
    "\\u00".toList ++ [hexDigit (c.toNat / 16), hexDigit (c.toNat % 16)]
  else [c]

def quoted (text : List Char) : List Char := '"' :: text.flatMap escape ++ ['"']

mutual

def write : Json → List Char
  | .null => "null".toList
  | .bool true => "true".toList
  | .bool false => "false".toList
  | .number value => Nat.toDigits 10 value
  | .negative below => '-' :: Nat.toDigits 10 (below + 1)
  | .string text => quoted text
  | .array [] => "[]".toList
  | .array (first :: rest) => '[' :: write first ++ writeItems rest
  | .object [] => "\x7b\x7d".toList
  | .object ((key, value) :: rest) =>
    '\x7b' :: quoted key ++ ':' :: write value ++ writeMembers rest

/-- The items behind the first one, and the end of the array. -/
def writeItems : List Json → List Char
  | [] => [']']
  | item :: rest => ',' :: write item ++ writeItems rest

/-- The members behind the first one, and the end of the object. -/
def writeMembers : List (List Char × Json) → List Char
  | [] => ['\x7d']
  | (key, value) :: rest => ',' :: quoted key ++ ':' :: write value ++ writeMembers rest

end

/-! ## Strings -/

/-- The characters that are escaped. -/
def specials : List Char := '"' :: '\\' :: (List.range 32).map Char.ofNat

theorem escape_of_not_special {c : Char} (plain : c ∉ specials) : escape c = [c] := by
  have control : ¬c.toNat < 32 := fun below => plain
    (.tail _ (.tail _ (List.mem_map.mpr ⟨c.toNat, List.mem_range.mpr below, Char.ofNat_toNat c⟩)))
  have apart (d : Char) (special : d ∈ specials) : c ≠ d := fun same => plain (same ▸ special)
  simp only [escape, apart '"' (by decide), apart '\\' (by decide), apart '\n' (by decide),
    apart '\r' (by decide), apart '\t' (by decide), apart '\u000c' (by decide),
    apart '\u0008' (by decide), control, if_false]

/-! ## Values -/

/-- What the first character of a value tells of it. -/
inductive Shape where
  | null | bool | number | negative | string | array | object
  deriving DecidableEq

def Json.shape : Json → Shape
  | .null => .null
  | .bool _ => .bool
  | .number _ => .number
  | .negative _ => .negative
  | .string _ => .string
  | .array _ => .array
  | .object _ => .object

def shapeOf (c : Char) : Option Shape :=
  if c = 'n' then some .null
  else if c = 't' ∨ c = 'f' then some .bool
  else if c = '"' then some .string
  else if c = '[' then some .array
  else if c = '\x7b' then some .object
  else if c = '-' then some .negative
  else if c.isDigit then some .number
  else none

theorem shapeOf_digit {c : Char} (digit : c.isDigit = true) : shapeOf c = some .number := by
  have apart (d : Char) (other : d.isDigit = false) : c ≠ d := by
    rintro rfl
    rw [digit] at other
    cases other
  simp only [shapeOf, apart 'n' (by decide), apart 't' (by decide), apart 'f' (by decide),
    apart '"' (by decide), apart '[' (by decide), apart '\x7b' (by decide), apart '-' (by decide),
    or_self, if_false, digit, if_true]

theorem write_shape (value : Json) :
    ∃ c rest, write value = c :: rest ∧ shapeOf c = some value.shape := by
  match value with
  | .null => exact ⟨_, _, rfl, rfl⟩
  | .bool true => exact ⟨_, _, rfl, rfl⟩
  | .bool false => exact ⟨_, _, rfl, rfl⟩
  | .number n =>
    cases written : Nat.toDigits 10 n with
    | nil => exact absurd written Nat.toDigits_ne_nil
    | cons c rest =>
      have digit := Nat.isDigit_of_mem_toDigits (by decide) (by decide)
        (written ▸ List.mem_cons_self : c ∈ Nat.toDigits 10 n)
      exact ⟨c, rest, by rw [write, written], shapeOf_digit digit⟩
  | .negative _ => exact ⟨_, _, rfl, rfl⟩
  | .string text => exact ⟨_, _, rfl, rfl⟩
  | .array [] => exact ⟨_, _, rfl, rfl⟩
  | .array (_ :: _) => exact ⟨_, _, by rw [write]; rfl, rfl⟩
  | .object [] => exact ⟨_, _, rfl, rfl⟩
  | .object (_ :: _) => exact ⟨_, _, by rw [write]; rfl, rfl⟩

/-! ## Reading -/

def isJsonSpace (c : Char) : Bool := c = ' ' || c = '\t' || c = '\n' || c = '\r'

def skipSpace (text : List Char) : List Char := text.dropWhile isJsonSpace

def hexValue (c : Char) : Option Nat :=
  if c.isDigit then some (c.toNat - '0'.toNat)
  else if 'a' ≤ c ∧ c ≤ 'f' then some (c.toNat - 'a'.toNat + 10)
  else if 'A' ≤ c ∧ c ≤ 'F' then some (c.toNat - 'A'.toNat + 10)
  else none

/-- The UTF-16 code unit of four hexadecimal digits. -/
def codeUnit (first second third fourth : Char) : Option Nat := do
  return (((← hexValue first) * 16 + (← hexValue second)) * 16 + (← hexValue third)) * 16 +
    (← hexValue fourth)

def isHighSurrogate (unit : Nat) : Bool := 0xD800 ≤ unit && unit ≤ 0xDBFF

def isLowSurrogate (unit : Nat) : Bool := 0xDC00 ≤ unit && unit ≤ 0xDFFF

/-- What stands behind a backslash for itself or for a control character. -/
def shortEscape (c : Char) : Option Char :=
  if c = '"' ∨ c = '\\' ∨ c = '/' then some c
  else if c = 'n' then some '\n'
  else if c = 'r' then some '\r'
  else if c = 't' then some '\t'
  else if c = 'f' then some '\u000c'
  else if c = 'b' then some '\u0008'
  else none

/-- The characters up to the closing quote, and what is behind it. -/
def readString : List Char → Option (List Char × List Char)
  | [] => none
  | '"' :: rest => some ([], rest)
  | '\\' :: 'u' :: a :: b :: c :: d :: rest => do
    let unit ← codeUnit a b c d
    if isHighSurrogate unit then
      match rest with
      | '\\' :: 'u' :: e :: f :: g :: h :: rest => do
        let low ← codeUnit e f g h
        if !isLowSurrogate low then none
        let (text, behind) ← readString rest
        return (Char.ofNat (0x10000 + (unit - 0xD800) * 0x400 + (low - 0xDC00)) :: text, behind)
      | _ => none
    else if isLowSurrogate unit then none
    else
      let (text, behind) ← readString rest
      return (Char.ofNat unit :: text, behind)
  | '\\' :: c :: rest => do
    let plain ← shortEscape c
    let (text, behind) ← readString rest
    return (plain :: text, behind)
  | c :: rest =>
    if c = '\\' ∨ c.toNat < 32 then none
    else do
      let (text, behind) ← readString rest
      return (c :: text, behind)

/-- The number goes on behind the point or as a power of ten. -/
def continues (text : List Char) : Bool :=
  text.head?.any fun c => c = '.' || c = 'e' || c = 'E'

/-- The digits of an integer, without leading zeros. -/
def readDigits (text : List Char) : Option (Nat × List Char) :=
  let digits := if text.head? = some '0' then ['0'] else text.takeWhile Char.isDigit
  let rest := text.drop digits.length
  if digits = [] ∨ continues rest then none else some (Nat.ofDigitChars 10 digits 0, rest)

def readNumber : List Char → Option (Json × List Char)
  | '-' :: text => (readDigits text).map fun (size, rest) =>
    (if size = 0 then .number 0 else .negative (size - 1), rest)
  | text => (readDigits text).map fun (size, rest) => (.number size, rest)

mutual

/-- A value, and what is behind it. The fuel is spent on every value, item and member. -/
def readValue : Nat → List Char → Option (Json × List Char)
  | 0, _ => none
  | fuel + 1, text =>
    match text with
    | 'n' :: 'u' :: 'l' :: 'l' :: rest => some (.null, rest)
    | 't' :: 'r' :: 'u' :: 'e' :: rest => some (.bool true, rest)
    | 'f' :: 'a' :: 'l' :: 's' :: 'e' :: rest => some (.bool false, rest)
    | '"' :: rest => (readString rest).map fun (text, rest) => (.string text, rest)
    | '[' :: rest =>
      match skipSpace rest with
      | ']' :: rest => some (.array [], rest)
      | rest => do
        let (first, rest) ← readValue fuel rest
        let (items, rest) ← readItems fuel (skipSpace rest)
        return (.array (first :: items), rest)
    | '\x7b' :: rest =>
      match skipSpace rest with
      | '\x7d' :: rest => some (.object [], rest)
      | '"' :: rest => do
        let (first, rest) ← readMember fuel rest
        let (members, rest) ← readMembers fuel (skipSpace rest)
        return (.object (first :: members), rest)
      | _ => none
    | text => readNumber text

/-- The items behind one that has been read. -/
def readItems : Nat → List Char → Option (List Json × List Char)
  | fuel + 1, ',' :: rest => do
    let (item, rest) ← readValue fuel (skipSpace rest)
    let (items, rest) ← readItems fuel (skipSpace rest)
    return (item :: items, rest)
  | _, ']' :: rest => some ([], rest)
  | _, _ => none

/-- A member, behind the quote of its key. -/
def readMember : Nat → List Char → Option ((List Char × Json) × List Char)
  | 0, _ => none
  | fuel + 1, text => do
    let (key, rest) ← readString text
    match skipSpace rest with
    | ':' :: rest => do
      let (value, rest) ← readValue fuel (skipSpace rest)
      return ((key, value), rest)
    | _ => none

/-- The members behind one that has been read. -/
def readMembers : Nat → List Char → Option (List (List Char × Json) × List Char)
  | fuel + 1, ',' :: rest =>
    match skipSpace rest with
    | '"' :: rest => do
      let (member, rest) ← readMember fuel rest
      let (members, rest) ← readMembers fuel (skipSpace rest)
      return (member :: members, rest)
    | _ => none
  | _, '\x7d' :: rest => some ([], rest)
  | _, _ => none

end

/-- The value that a whole text holds. -/
def read (text : List Char) : Option Json :=
  match readValue (text.length + 1) (skipSpace text) with
  | some (value, rest) => if skipSpace rest = [] then some value else none
  | none => none

/-! ## Strings -/

theorem hexValue_hexDigit {digit : Nat} (small : digit < 16) :
    hexValue (hexDigit digit) = some digit := by
  have all : ∀ digit < 16, hexValue (hexDigit digit) = some digit := by decide
  exact all digit small

/-- A short escape and the rest of the string. -/
theorem readString_short {c plain : Char} {text : List Char}
    (short : shortEscape c = some plain) :
    readString ('\\' :: c :: text) =
      (readString text).map fun (read, behind) => (plain :: read, behind) := by
  have other : c ≠ 'u' := by
    rintro rfl
    cases short
  rw [readString]
  · rw [short]
    cases readString text <;> rfl
  · exact fun _ _ _ _ _ same => absurd same other

theorem readString_control {unit : Nat} {text : List Char} (small : unit < 32) :
    readString ("\\u00".toList ++ [hexDigit (unit / 16), hexDigit (unit % 16)] ++ text) =
      (readString text).map fun (read, behind) => (Char.ofNat unit :: read, behind) := by
  have whole : codeUnit '0' '0' (hexDigit (unit / 16)) (hexDigit (unit % 16)) = some unit := by
    rw [codeUnit, hexValue_hexDigit (by omega), hexValue_hexDigit (by omega)]
    have zero : hexValue '0' = some 0 := rfl
    have sum : ((0 * 16 + 0) * 16 + unit / 16) * 16 + unit % 16 = unit := by omega
    simp only [zero, bind, Option.bind, pure, sum]
  have apart : isHighSurrogate unit = false ∧ isLowSurrogate unit = false := by
    simp [isHighSurrogate, isLowSurrogate]
    omega
  show readString ('\\' :: 'u' :: '0' :: '0' :: hexDigit (unit / 16) :: hexDigit (unit % 16) ::
    text) = _
  rw [readString, whole]
  simp only [apart.1, apart.2, bind, Option.bind]
  cases readString text <;> rfl

theorem readString_plain {c : Char} {text : List Char} (plain : c ≠ '"' ∧ c ≠ '\\')
    (shown : ¬c.toNat < 32) :
    readString (c :: text) = (readString text).map fun (read, behind) => (c :: read, behind) := by
  rw [readString]
  · rw [if_neg (not_or.mpr ⟨plain.2, shown⟩)]
    cases readString text <;> rfl
  · exact plain.1
  · exact fun _ _ _ _ _ same => absurd same plain.2
  · exact fun _ _ same => absurd same plain.2

/-- What a character is written as is read as that character. -/
theorem readString_escape (c : Char) (text : List Char) :
    readString (escape c ++ text) =
      (readString text).map fun (read, behind) => (c :: read, behind) := by
  have short {plain letter : Char} (same : c = plain) (known : shortEscape letter = some plain) :
      readString (['\\', letter] ++ text) =
        (readString text).map fun (read, behind) => (c :: read, behind) :=
    same ▸ readString_short known
  unfold escape
  split_ifs with quote slash newline feed tab page back control
  · exact short quote rfl
  · exact short slash rfl
  · exact short newline rfl
  · exact short feed rfl
  · exact short tab rfl
  · exact short page rfl
  · exact short back rfl
  · rw [readString_control control, Char.ofNat_toNat]
  · exact readString_plain ⟨quote, slash⟩ control

/-- A string is read up to its closing quote. -/
theorem readString_quoted (text rest : List Char) :
    readString (text.flatMap escape ++ '"' :: rest) = some (text, rest) := by
  induction text with
  | nil => rfl
  | cons c text ih =>
    rw [List.flatMap_cons, List.append_assoc, readString_escape, ih]
    rfl

/-! ## Numbers -/

/-- What may stand behind a value. -/
def Follows (rest : List Char) : Prop :=
  ∀ c ∈ rest.head?, c = ',' ∨ c = ']' ∨ c = '\x7d'

/-- Only zero is written with a leading zero. -/
theorem eq_zero_of_leading {number : Nat}
    (leading : (Nat.toDigits 10 number).head? = some '0') : number = 0 := by
  induction number using Nat.strongRecOn with
  | ind number ih =>
    by_cases single : number < 10
    · have digit : ∀ digit < 10, Nat.digitChar digit = '0' → digit = 0 := by decide
      rw [Nat.toDigits_of_lt_base single] at leading
      exact digit number single (Option.some.inj leading)
    · rw [Nat.toDigits_of_base_le (by decide) (Nat.not_lt.mp single), List.head?_append,
        List.head?_eq_some_head Nat.toDigits_ne_nil, Option.some_or,
        ← List.head?_eq_some_head] at leading
      have front := ih (number / 10) (by omega) leading
      omega

theorem readDigits_toDigits (number : Nat) {rest : List Char} (follows : Follows rest) :
    readDigits (Nat.toDigits 10 number ++ rest) = some (number, rest) := by
  have stop : ∀ c ∈ rest.head?, c.isDigit = false ∧ c ≠ '.' ∧ c ≠ 'e' ∧ c ≠ 'E' := by
    intro c first
    rcases follows c first with rfl | rfl | rfl <;> decide
  have ended : continues rest = false := by
    cases rest with
    | nil => rfl
    | cons c rest =>
      obtain ⟨-, point, small, large⟩ := stop c rfl
      simp [continues, point, small, large]
  have digits : (if (Nat.toDigits 10 number ++ rest).head? = some '0' then ['0']
      else (Nat.toDigits 10 number ++ rest).takeWhile Char.isDigit) = Nat.toDigits 10 number := by
    have all : ∀ c ∈ Nat.toDigits 10 number, c.isDigit = true :=
      fun c member => Nat.isDigit_of_mem_toDigits (by decide) (by decide) member
    have none : rest.takeWhile Char.isDigit = [] := by
      cases rest with
      | nil => rfl
      | cons c rest => rw [List.takeWhile_cons_of_neg (by simp [(stop c rfl).1])]
    split
    next leading =>
      rw [List.head?_append_of_ne_nil _ Nat.toDigits_ne_nil] at leading
      rw [eq_zero_of_leading leading]
      rfl
    · rw [List.takeWhile_append_of_pos all, none, List.append_nil]
  rw [readDigits]
  simp only [digits, List.drop_left, ended, Nat.toDigits_ne_nil, Nat.ofDigitChars_ten_toDigits]
  rfl

/-! ## Values -/

/-- No space is skipped in front of a sign that is none. -/
theorem skipSpace_cons {c : Char} (sign : isJsonSpace c = false) (text : List Char) :
    skipSpace (c :: text) = c :: text :=
  List.dropWhile_cons_of_neg (by simp [sign])

theorem shapeOf_apart {c d : Char} {shape : Shape} (known : shapeOf c = some shape)
    (strange : shapeOf d = none) : c ≠ d := by
  rintro rfl
  rw [strange] at known
  cases known

/-- No value begins with a space. -/
theorem isJsonSpace_of_shape {c : Char} {shape : Shape} (known : shapeOf c = some shape) :
    isJsonSpace c = false := by
  simp [isJsonSpace, shapeOf_apart known (d := ' ') (by decide),
    shapeOf_apart known (d := '\t') (by decide), shapeOf_apart known (d := '\n') (by decide),
    shapeOf_apart known (d := '\r') (by decide)]

theorem skipSpace_write (value : Json) (rest : List Char) :
    skipSpace (write value ++ rest) = write value ++ rest := by
  obtain ⟨c, tail, written, shape⟩ := write_shape value
  rw [written, List.cons_append, skipSpace_cons (isJsonSpace_of_shape shape)]

theorem skipSpace_items (items : List Json) (rest : List Char) :
    skipSpace (writeItems items ++ rest) = writeItems items ++ rest := by
  cases items <;> exact skipSpace_cons rfl _

theorem skipSpace_members (members : List (List Char × Json)) (rest : List Char) :
    skipSpace (writeMembers members ++ rest) = writeMembers members ++ rest := by
  cases members <;> exact skipSpace_cons rfl _

theorem follows_items (items : List Json) (rest : List Char) :
    Follows (writeItems items ++ rest) := by
  cases items with
  | nil =>
    rintro c ⟨⟩
    exact .inr (.inl rfl)
  | cons =>
    rintro c ⟨⟩
    exact .inl rfl

theorem follows_members (members : List (List Char × Json)) (rest : List Char) :
    Follows (writeMembers members ++ rest) := by
  cases members with
  | nil =>
    rintro c ⟨⟩
    exact .inr (.inr rfl)
  | cons =>
    rintro c ⟨⟩
    exact .inl rfl

theorem readValue_number (fuel number : Nat) {rest : List Char} (follows : Follows rest) :
    readValue (fuel + 1) (Nat.toDigits 10 number ++ rest) = some (.number number, rest) := by
  have read := readDigits_toDigits number follows
  cases written : Nat.toDigits 10 number with
  | nil => exact absurd written Nat.toDigits_ne_nil
  | cons c tail =>
    have digit : c.isDigit = true := Nat.isDigit_of_mem_toDigits (by decide) (by decide)
      (written ▸ List.mem_cons_self : c ∈ Nat.toDigits 10 number)
    have apart (d : Char) (other : d.isDigit = false) : c ≠ d := by
      rintro rfl
      rw [digit] at other
      cases other
    rw [written] at read
    have number_ : readNumber (c :: tail ++ rest) =
        (readDigits (c :: tail ++ rest)).map fun (size, rest) => (.number size, rest) := by
      rw [List.cons_append, readNumber]
      exact fun _ same => absurd (List.cons.inj same).1 (apart '-' (by decide))
    rw [List.cons_append] at read number_ ⊢
    rw [readValue, number_, read]
    · rfl
    all_goals exact fun _ same => absurd (List.cons.inj same).1 (apart _ (by decide))

theorem readValue_negative (fuel below : Nat) {rest : List Char} (follows : Follows rest) :
    readValue (fuel + 1) ('-' :: Nat.toDigits 10 (below + 1) ++ rest) =
      some (.negative below, rest) := by
  show (readDigits (Nat.toDigits 10 (below + 1) ++ rest)).map _ = _
  rw [readDigits_toDigits _ follows]
  rfl

theorem readValue_items {fuel : Nat} {c : Char} {text : List Char}
    (begins : c ≠ ']' ∧ isJsonSpace c = false) :
    readValue (fuel + 1) ('[' :: c :: text) = do
      let (first, rest) ← readValue fuel (c :: text)
      let (items, rest) ← readItems fuel (skipSpace rest)
      return (.array (first :: items), rest) := by
  rw [readValue, skipSpace_cons begins.2]
  split
  next same => exact absurd (List.cons.inj same).1 begins.1
  · rfl

/-- A member is read where its value is. -/
theorem readMember_write {key : List Char} {value : Json} {fuel : Nat} {rest : List Char}
    (one : readValue fuel (write value ++ rest) = some (value, rest)) :
    readMember (fuel + 1) (key.flatMap escape ++ '"' :: ':' :: (write value ++ rest)) =
      some ((key, value), rest) := by
  show (readString _).bind _ = _
  rw [readString_quoted]
  show (readValue fuel (skipSpace _)).bind _ = _
  rw [skipSpace_write, one]
  rfl

mutual

/-- What a value is written as is read as that value. -/
theorem readValue_write (value : Json) {fuel : Nat} {rest : List Char}
    (enough : (write value).length ≤ fuel) (follows : Follows rest) :
    readValue fuel (write value ++ rest) = some (value, rest) := by
  obtain ⟨c, tail, written, shape⟩ := write_shape value
  obtain _ | fuel := fuel
  · rw [written] at enough
    exact absurd enough (Nat.not_succ_le_zero _)
  match value with
  | .null => rfl
  | .bool true => rfl
  | .bool false => rfl
  | .number number => exact readValue_number fuel number follows
  | .negative below => exact readValue_negative fuel below follows
  | .string text =>
    show (readString (text.flatMap escape ++ ['"'] ++ rest)).map _ = _
    rw [List.append_assoc, List.singleton_append, readString_quoted]
    rfl
  | .array [] => rfl
  | .array (first :: items) =>
    obtain ⟨d, begin_, written', shape'⟩ := write_shape first
    have opened := isJsonSpace_of_shape shape'
    have closing : d ≠ ']' := shapeOf_apart shape' (by decide)
    rw [write, List.length_append, List.length_cons] at enough
    have one : readValue fuel (write first ++ (writeItems items ++ rest)) = some (first, _) :=
      readValue_write first (by omega) (follows_items items rest)
    have others : readItems fuel (writeItems items ++ rest) = some (items, rest) :=
      readItems_write items (by omega)
    rw [write, List.cons_append, List.cons_append, List.append_assoc, written', List.cons_append,
      readValue_items ⟨closing, opened⟩, ← List.cons_append, ← written', one]
    show (readItems fuel (skipSpace _)).bind _ = _
    rw [skipSpace_items, others]
    rfl
  | .object [] => rfl
  | .object ((key, value) :: members) =>
    simp only [write, quoted, List.length_append, List.length_cons] at enough
    obtain ⟨fuel, rfl⟩ : ∃ less, fuel = less + 1 := ⟨fuel - 1, by omega⟩
    have one : readValue fuel (write value ++ (writeMembers members ++ rest)) = some (value, _) :=
      readValue_write value (by omega) (follows_members members rest)
    have others : readMembers (fuel + 1) (writeMembers members ++ rest) = some (members, rest) :=
      readMembers_write members (by omega)
    have text : write (.object ((key, value) :: members)) ++ rest =
        '\x7b' :: '"' :: (key.flatMap escape ++ '"' :: ':' :: (write value ++
          (writeMembers members ++ rest))) := by
      simp [write, quoted]
    rw [text]
    show (readMember (fuel + 1) _).bind _ = _
    rw [readMember_write one]
    show (readMembers (fuel + 1) (skipSpace _)).bind _ = _
    rw [skipSpace_members, others]
    rfl

theorem readItems_write (items : List Json) {fuel : Nat} {rest : List Char}
    (enough : (writeItems items).length ≤ fuel) :
    readItems fuel (writeItems items ++ rest) = some (items, rest) := by
  match items with
  | [] => cases fuel <;> rfl
  | item :: items =>
    rw [writeItems, List.length_append, List.length_cons] at enough
    obtain ⟨fuel, rfl⟩ : ∃ less, fuel = less + 1 := ⟨fuel - 1, by omega⟩
    have one : readValue fuel (write item ++ (writeItems items ++ rest)) = some (item, _) :=
      readValue_write item (by omega) (follows_items items rest)
    have others : readItems fuel (writeItems items ++ rest) = some (items, rest) :=
      readItems_write items (by omega)
    rw [writeItems, List.cons_append, List.cons_append, List.append_assoc]
    show (readValue fuel (skipSpace _)).bind _ = _
    rw [skipSpace_write, one]
    show (readItems fuel (skipSpace _)).bind _ = _
    rw [skipSpace_items, others]
    rfl

theorem readMembers_write (members : List (List Char × Json)) {fuel : Nat} {rest : List Char}
    (enough : (writeMembers members).length ≤ fuel) :
    readMembers fuel (writeMembers members ++ rest) = some (members, rest) := by
  match members with
  | [] => cases fuel <;> rfl
  | (key, value) :: members =>
    simp only [writeMembers, quoted, List.length_append, List.length_cons] at enough
    obtain ⟨fuel, rfl⟩ : ∃ less, fuel = less + 2 := ⟨fuel - 2, by omega⟩
    have one : readValue fuel (write value ++ (writeMembers members ++ rest)) = some (value, _) :=
      readValue_write value (by omega) (follows_members members rest)
    have others : readMembers (fuel + 1) (writeMembers members ++ rest) = some (members, rest) :=
      readMembers_write members (by omega)
    have text : writeMembers ((key, value) :: members) ++ rest =
        ',' :: '"' :: (key.flatMap escape ++ '"' :: ':' :: (write value ++
          (writeMembers members ++ rest))) := by
      simp [writeMembers, quoted]
    rw [text]
    show (readMember (fuel + 1) _).bind _ = _
    rw [readMember_write one]
    show (readMembers (fuel + 1) (skipSpace _)).bind _ = _
    rw [skipSpace_members, others]
    rfl

end

/-- The text of a value holds that value. -/
theorem read_write (value : Json) : read (write value) = some value := by
  have follows : Follows [] := nofun
  have whole := readValue_write value (Nat.le_succ (write value).length) follows
  have front := skipSpace_write value []
  rw [List.append_nil] at whole front
  rw [read, front, whole]
  rfl

/-- The text of a value is its own. -/
theorem write_injective : Function.Injective write := by
  intro first second same
  have read := read_write first
  rw [same, read_write] at read
  exact (Option.some.inj read).symm

end JsonTexts
