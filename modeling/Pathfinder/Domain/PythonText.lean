import Mathlib.Algebra.Order.Ring.Rat
import Mathlib.Data.List.DropRight
import Mathlib.Data.Rat.Floor
import Pathfinder.Domain.Actions
import Pathfinder.Domain.ResumeText

/-!
# Text as the interpreter splits and trims it

`bytes.decode`, `str.splitlines`, `str.strip` and UTF-8 lengths, on texts without lone
surrogates.
-/
namespace Pathfinder

/-- `content.decode("utf-8", errors="strict")`. -/
def decodeUtf8 (content : ByteArray) : Option Text := (String.fromUTF8? content).map String.toList

theorem decodeUtf8_toByteArray (text : String) :
    decodeUtf8 text.toByteArray = some text.toList := by
  unfold decodeUtf8 String.fromUTF8?
  rw [dif_pos text.isValidUTF8]
  rfl

/-- `text.encode("utf-8")`. -/
def encodeUtf8 (text : Text) : ByteArray := (String.ofList text).toByteArray

theorem decodeUtf8_encodeUtf8 (text : Text) : decodeUtf8 (encodeUtf8 text) = some text := by
  rw [encodeUtf8, decodeUtf8_toByteArray, String.toList_ofList]

theorem encodeUtf8_injective : Function.Injective encodeUtf8 := by
  intro first second same
  have read := congrArg decodeUtf8 same
  rw [decodeUtf8_encodeUtf8, decodeUtf8_encodeUtf8] at read
  exact Option.some.inj read

/-- `^[0-9a-f]{64}$`. -/
def isHexDigest (text : Text) : Bool :=
  text.length = 64 && text.all fun c => c.isDigit || ('a' ≤ c && c ≤ 'f')

theorem isHexDigest_iff {text : Text} : isHexDigest text = true ↔
    text.length = 64 ∧ ∀ c ∈ text, (c.isDigit || ('a' ≤ c && c ≤ 'f')) = true := by
  rw [isHexDigest, Bool.and_eq_true, decide_eq_true_eq, List.all_eq_true]

/-- A literal is looked at as the characters that are written, not as the bytes of a string. -/
theorem isHexDigest_ofList {digits : Text} (hex : isHexDigest digits = true) :
    isHexDigest (String.ofList digits).toList = true := by
  rwa [String.toList_ofList]

/-- The characters at which `str.splitlines` breaks. -/
def isLineBreak (c : Char) : Bool :=
  let n := c.toNat
  (0xA ≤ n && n ≤ 0xD) || (0x1C ≤ n && n ≤ 0x1E) || n == 0x85 || n == 0x2028 || n == 0x2029

/-- The lines of a text, each with its terminator; `line` has been read of the first one. -/
def linesFrom (line : Text) : Text → List (Text × Text)
  | [] => if line = [] then [] else [(line, [])]
  | '\r' :: '\n' :: rest => (line, ['\r', '\n']) :: linesFrom [] rest
  | c :: rest =>
    if isLineBreak c then (line, [c]) :: linesFrom [] rest else linesFrom (line ++ [c]) rest

/-- `text.splitlines()`. -/
def splitlines (text : Text) : List Text := (linesFrom [] text).map Prod.fst

/-- `text.splitlines(keepends=True)`. -/
def splitlinesKeepends (text : Text) : List Text :=
  (linesFrom [] text).map fun line => line.1 ++ line.2

example : linesFrom [] "a\r\nb\rc\u2028".toList =
    [("a".toList, "\r\n".toList), ("b".toList, "\r".toList), ("c".toList, "\u2028".toList)] := by
  decide

/-- `text.strip()`. -/
def stripText (text : Text) : Text :=
  ((text.dropWhile isPythonSpace).reverse.dropWhile isPythonSpace).reverse

/-- `text.encode("utf-8")[:bound].decode("utf-8", errors="ignore")`: a character that is cut is
left out. -/
def takeUtf8 (bound : Nat) : Text → Text
  | [] => []
  | c :: rest => if c.utf8Size ≤ bound then c :: takeUtf8 (bound - c.utf8Size) rest else []

theorem takeUtf8_begins (bound : Nat) (text : Text) : takeUtf8 bound text <+: text := by
  induction text generalizing bound with
  | nil => exact List.prefix_refl _
  | cons c rest ih =>
    unfold takeUtf8
    split
    · exact List.cons_prefix_cons.mpr ⟨rfl, ih _⟩
    · exact List.nil_prefix

theorem takeUtf8_length (bound : Nat) (text : Text) : utf8Length (takeUtf8 bound text) ≤ bound := by
  induction text generalizing bound with
  | nil => exact Nat.zero_le _
  | cons c rest ih =>
    unfold takeUtf8
    split
    next fits =>
      have tail := ih (bound - c.utf8Size)
      simp only [utf8Length, List.map_cons, List.sum_cons] at tail ⊢
      omega
    next => exact Nat.zero_le _

/-- What already fits is not cut. -/
theorem takeUtf8_of_fits {bound : Nat} {text : Text} (fits : utf8Length text ≤ bound) :
    takeUtf8 bound text = text := by
  induction text generalizing bound with
  | nil => rfl
  | cons c rest ih =>
    simp only [utf8Length, List.map_cons, List.sum_cons] at fits ih
    rw [takeUtf8, if_pos (by omega), ih (by omega)]

theorem length_le_utf8Length (text : Text) : text.length ≤ utf8Length text := by
  induction text with
  | nil => exact Nat.le_refl 0
  | cons c rest ih =>
    have positive := c.utf8Size_pos
    simp only [utf8Length, List.map_cons, List.sum_cons, List.length_cons] at ih ⊢
    omega

theorem utf8Length_mono {part whole : Text} (inside : part <:+: whole) :
    utf8Length part ≤ utf8Length whole := by
  obtain ⟨before, behind, rfl⟩ := inside
  rw [utf8Length_append, utf8Length_append]
  omega

/-! ## Trimming -/

theorem stripText_inside (text : Text) : stripText text <:+: text := by
  have trailing := (text.dropWhile isPythonSpace).reverse.dropWhile_suffix isPythonSpace
  have leading := text.dropWhile_suffix isPythonSpace
  have kept : stripText text <+: text.dropWhile isPythonSpace := by
    simpa [stripText] using List.reverse_prefix.mpr trailing
  exact kept.isInfix.trans leading.isInfix

/-- What is trimmed does not end in whitespace. -/
theorem stripText_getLast (text : Text) {c : Char} (space : isPythonSpace c = true) :
    (stripText text).getLast? ≠ some c := by
  intro ends
  rw [stripText, List.getLast?_reverse] at ends
  have kept := List.head?_dropWhile_not isPythonSpace (text.dropWhile isPythonSpace).reverse
  rw [ends] at kept
  simp [space] at kept

theorem isLineBreak_space {c : Char} (break_ : isLineBreak c = true) : isPythonSpace c = true := by
  simp only [isLineBreak, isPythonSpace, Bool.or_eq_true, Bool.and_eq_true, decide_eq_true_eq,
    beq_iff_eq] at break_ ⊢
  omega

/-! ## Lines -/

/-- No line holds a character at which lines break. -/
theorem linesFrom_unbroken {line text : Text} (unbroken : ∀ c ∈ line, isLineBreak c = false) :
    ∀ entry ∈ linesFrom line text, ∀ c ∈ entry.1, isLineBreak c = false := by
  fun_induction linesFrom line text with
  | case1 => simp
  | case2 line nonempty => simpa using unbroken
  | case3 line rest ih =>
    rintro entry (_ | ⟨_, later⟩)
    · exact unbroken
    · exact ih (by simp) entry later
  | case4 line c rest other breaks ih =>
    rintro entry (_ | ⟨_, later⟩)
    · exact unbroken
    · exact ih (by simp) entry later
  | case5 line c rest other unbroken_here ih =>
    refine ih ?_
    intro d member
    rcases List.mem_append.mp member with old | new
    · exact unbroken d old
    · rw [List.mem_singleton.mp new]
      exact Bool.not_eq_true _ ▸ unbroken_here

theorem splitlines_unbroken {text line : Text} (member : line ∈ splitlines text) :
    ∀ c ∈ line, isLineBreak c = false := by
  obtain ⟨entry, inside, rfl⟩ := List.mem_map.mp member
  exact linesFrom_unbroken (by simp) entry inside

theorem linesFrom_flatten (line text : Text) :
    ((linesFrom line text).map fun entry => entry.1 ++ entry.2).flatten = line ++ text := by
  fun_induction linesFrom line text with
  | case1 => simp
  | case2 line nonempty => simp
  | case3 line rest ih => simp [ih]
  | case4 line c rest other breaks ih => simp [ih]
  | case5 line c rest other unbroken ih => simp [ih]

theorem splitlinesKeepends_flatten (text : Text) : (splitlinesKeepends text).flatten = text :=
  linesFrom_flatten [] text

/-- Every line but the last ends with a character at which lines break. -/
theorem linesFrom_parted (line text : Text) :
    (linesFrom line text).Pairwise fun first _ =>
      ∃ c, first.2.getLast? = some c ∧ isLineBreak c = true := by
  fun_induction linesFrom line text with
  | case1 => exact .nil
  | case2 line nonempty => exact List.pairwise_singleton _ _
  | case3 line rest ih => exact .cons (fun _ _ => ⟨'\n', rfl, by decide⟩) ih
  | case4 line c rest other breaks ih => exact .cons (fun _ _ => ⟨c, rfl, breaks⟩) ih
  | case5 line c rest other unbroken ih => exact ih

/-- A line feed ends its line. -/
theorem linesFrom_newline {line text : Text} (unbroken : ∀ c ∈ line, isLineBreak c = false) :
    ∀ entry ∈ linesFrom line text, ∀ index, (entry.1 ++ entry.2)[index]? = some '\n' →
      index + 1 = (entry.1 ++ entry.2).length := by
  have inner {front terminator : Text} (unbroken : ∀ c ∈ front, isLineBreak c = false)
      {index : Nat} (here : (front ++ terminator)[index]? = some '\n') :
      front.length ≤ index ∧ terminator[index - front.length]? = some '\n' := by
    by_cases early : index < front.length
    · rw [List.getElem?_append_left early] at here
      exact absurd (unbroken _ (List.mem_of_getElem? here)) (by decide)
    · rw [List.getElem?_append_right (Nat.le_of_not_lt early)] at here
      exact ⟨Nat.le_of_not_lt early, here⟩
  have single {front : Text} {c : Char} {index : Nat} (unbroken : ∀ c ∈ front, isLineBreak c = false)
      (here : (front ++ [c])[index]? = some '\n') : index + 1 = (front ++ [c]).length := by
    obtain ⟨behind, here⟩ := inner unbroken here
    have inside := (List.getElem?_eq_some_iff.mp here).1
    rw [List.length_singleton] at inside
    rw [List.length_append, List.length_singleton]
    omega
  fun_induction linesFrom line text with
  | case1 => simp
  | case2 line nonempty =>
    rintro entry (_ | ⟨_, later⟩) index here
    · obtain ⟨-, none⟩ := inner unbroken here
      cases none
    · cases later
  | case3 line rest ih =>
    rintro entry (_ | ⟨_, later⟩) index here
    · obtain ⟨behind, here⟩ := inner unbroken here
      rw [List.length_append]
      match place : index - line.length, here with
      | 0, here => cases here
      | 1, here =>
        simp only [List.length_cons, List.length_nil]
        omega
      | _ + 2, here => cases here
    · exact ih (by simp) entry later index here
  | case4 line c rest other breaks ih =>
    rintro entry (_ | ⟨_, later⟩) index here
    · exact single unbroken here
    · exact ih (by simp) entry later index here
  | case5 line c rest other unbroken_here ih =>
    refine ih fun d member => ?_
    rcases List.mem_append.mp member with old | new
    · exact unbroken d old
    · rw [List.mem_singleton.mp new]
      exact Bool.not_eq_true _ ▸ unbroken_here

theorem splitlinesKeepends_newline {text piece : Text} (member : piece ∈ splitlinesKeepends text)
    {index : Nat} (here : piece[index]? = some '\n') : index + 1 = piece.length := by
  obtain ⟨entry, inside, rfl⟩ := List.mem_map.mp member
  exact linesFrom_newline (by simp) entry inside index here

/-- In front of a line that is not the first stands a character at which lines break. -/
theorem splitlinesKeepends_before {text line : Text} {before behind : List Text}
    (whole : splitlinesKeepends text = before ++ line :: behind) :
    ∀ c ∈ before.flatten.getLast?, isLineBreak c = true := by
  intro c ends
  rcases List.eq_nil_or_concat' before with rfl | ⟨front, last, rfl⟩
  · cases ends
  · obtain ⟨first, rest, parts, firsts, rests⟩ := List.map_eq_append_iff.mp whole
    obtain ⟨front, lasts, rfl, -, single⟩ := List.map_eq_append_iff.mp firsts
    obtain ⟨ended, rfl, rfl⟩ := List.map_eq_singleton_iff.mp single
    obtain ⟨next, behind, rfl, -⟩ := List.map_eq_cons_iff.mp rests
    have parted := linesFrom_parted [] text
    rw [parts, List.pairwise_append] at parted
    obtain ⟨d, last, breaks⟩ := parted.2.2 ended (by simp) next List.mem_cons_self
    rw [List.flatten_concat, List.getLast?_append, List.getLast?_append, last] at ends
    cases ends
    exact breaks

/-!
## Pure POSIX paths

`PurePosixPath` of the interpreter's `pathlib`, as far as the program reads it: the parts of a path,
its text, its name and its suffix.
-/

/-- `splitroot`: two slashes, and no third, are a root of their own. -/
def splitRoot : Text → Text × Text
  | '/' :: '/' :: '/' :: rest => (['/'], '/' :: '/' :: rest)
  | '/' :: '/' :: rest => (['/', '/'], rest)
  | '/' :: rest => (['/'], rest)
  | path => ([], path)

/-- The parts of a path behind its root; empty ones and `.` are dropped. -/
def pathParts (path : Text) : List Text :=
  ((splitRoot path).2.splitOn '/').filter fun part => !(part.isEmpty || part == ['.'])

/-- `str(PurePosixPath(path))`. -/
def pathText (path : Text) : Text :=
  let text := (splitRoot path).1 ++ ['/'].intercalate (pathParts path)
  if text.isEmpty then ['.'] else text

/-- `PurePosixPath(path).name`. -/
def pathName (path : Text) : Text := (pathParts path).getLastD []

/-- `PurePosixPath(path).suffix`: from the last dot, which neither begins nor ends the name. -/
def pathSuffix (path : Text) : Text :=
  let name := pathName path
  let behind := name.rtakeWhile (· ≠ '.')
  let before := name.rdropWhile (· ≠ '.')
  if behind.isEmpty || before.length ≤ 1 then [] else '.' :: behind

example : pathSuffix "src/app.test.PY".toList = ".PY".toList ∧ pathSuffix ".env".toList = [] ∧
    pathSuffix "a.".toList = [] ∧ pathText "a//b/./c".toList = "a/b/c".toList := by decide

/-!
## Strings that have passed no contract

Their code points may be lone surrogates; floats are rationals.
-/

abbrev CodePoints := List Nat

def surrogate (c : Nat) : Bool := 0xD800 ≤ c && c ≤ 0xDFFF

/-- The `White_Space` characters of Unicode, which `\s` matches in a field pattern. -/
def whiteSpace (c : Nat) : Bool :=
  (9 ≤ c && c ≤ 13) || c = 0x20 || c = 0x85 || c = 0xA0 || c = 0x1680 ||
    (0x2000 ≤ c && c ≤ 0x200A) || c = 0x2028 || c = 0x2029 || c = 0x202F || c = 0x205F ||
    c = 0x3000

/-- `str.isspace` of one character: also the four information separators. -/
def pythonSpace (c : Nat) : Bool := whiteSpace c || (0x1C ≤ c && c ≤ 0x1F)

/-- `value.strip()`. -/
def strip (value : CodePoints) : CodePoints :=
  ((value.dropWhile pythonSpace).reverse.dropWhile pythonSpace).reverse

/-- `len(text.encode("utf-8"))`; none where a surrogate cannot be encoded. -/
def encodedLength (text : CodePoints) : Option Nat :=
  if text.any surrogate then none
  else some (text.foldr (fun c length =>
    (if c < 0x80 then 1 else if c < 0x800 then 2 else if c < 0x10000 then 3 else 4) + length) 0)

/-- `round`: halves go to the even neighbour. -/
def roundHalfEven (value : ℚ) : Int :=
  let below := value.floor
  let part := value - below
  if part < 1 / 2 then below
  else if 1 / 2 < part then below + 1
  else if below % 2 = 0 then below else below + 1

end Pathfinder
