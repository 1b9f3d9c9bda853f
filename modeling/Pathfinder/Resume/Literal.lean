import Pathfinder.Resume.Decoding
import Pathfinder.Resume.TexTokens

/-!
# The literal text of TeX

What a fragment prints: escaped characters, the commands of the template, and characters that
stand for themselves. Braces print nothing; any other special character that is not escaped, and
any other command, leaves the fragment without a literal text.
-/
namespace Pathfinder
open Trimming

/-- What a command prints in front of its argument. -/
def spoken (command : Text) : Option Text :=
  if command = "textbf".toList ∨ command = "skilltag".toList then some []
  else if command = "skillgap".toList then some ", ".toList
  else if command = "textbackslash".toList then some ['\\']
  else if command = "textasciitilde".toList then some ['~']
  else if command = "textasciicircum".toList then some ['^']
  else none

/-- The text behind a command, without the blanks in front of its argument. -/
def behindCommand (command rest : Text) : Text :=
  if command = "textbf".toList ∨ command = "skilltag".toList then rest.dropWhile isPythonSpace
  else rest

theorem behindCommand_suffix (command rest : Text) : behindCommand command rest <:+ rest := by
  unfold behindCommand
  split
  · exact List.dropWhile_suffix _
  · exact List.suffix_refl _

def literalText (rest : Text) : Option Text :=
  match rest with
  | [] => some []
  | c :: rest =>
    if c ∉ texSpecials then
      (literalText rest).map fun text => (if spacing c then ' ' else c) :: text
    else if c = '\x7b' ∨ c = '\x7d' then literalText rest
    else if c ≠ '\\' then none
    else if rest.head?.any escapable then
      (literalText rest.tail).map fun text => rest.take 1 ++ text
    else
      let command := rest.takeWhile Char.isAlpha
      match spoken command with
      | none => none
      | some said =>
        (literalText (behindCommand command (rest.dropWhile Char.isAlpha))).map fun text =>
          said ++ text
termination_by rest.length
decreasing_by
  · simp
  · simp
  · simp only [List.length_tail, List.length_cons]
    omega
  · have behind := (behindCommand_suffix (rest.takeWhile Char.isAlpha)
      (rest.dropWhile Char.isAlpha)).length_le
    have suffix := (List.dropWhile_suffix (l := rest) Char.isAlpha).length_le
    simp only [List.length_cons]
    omega

example : literalText "R\\&D\\skillgap\\textbf\x7b50\\% \x7d\\textbackslash\x7b\x7d".toList =
    some "R&D, 50% \\".toList := by decide +kernel

/-! ## Ordinary characters -/

section Ordinary
variable {text rest : Text}

theorem literalText_ordinary {c : Char} (ordinary : c ∉ texSpecials) :
    literalText (c :: rest) =
      (literalText rest).map fun text => (if spacing c then ' ' else c) :: text := by
  rw [literalText, if_pos ordinary]

theorem literalText_brace {c : Char} (brace : c = '\x7b' ∨ c = '\x7d') :
    literalText (c :: rest) = literalText rest := by
  have special : ¬ c ∉ texSpecials := by
    rcases brace with rfl | rfl
    · decide
    · decide
  rw [literalText, if_neg special, if_pos brace]

theorem literalText_escaped (escaped : rest.head?.any escapable = true) :
    literalText ('\\' :: rest) = (literalText rest.tail).map fun text => rest.take 1 ++ text := by
  rw [literalText, if_neg (by decide), if_neg (by decide), if_neg (by decide), if_pos escaped]

theorem literalText_command {said : Text} (command : ¬ rest.head?.any escapable = true)
    (known : spoken (rest.takeWhile Char.isAlpha) = some said) :
    literalText ('\\' :: rest) = (literalText (behindCommand (rest.takeWhile Char.isAlpha)
      (rest.dropWhile Char.isAlpha))).map fun text => said ++ text := by
  rw [literalText, if_neg (by decide), if_neg (by decide), if_neg (by decide), if_neg command]
  simp only [known]

/-- Where no character is special, a text prints itself. -/
theorem literalText_plain (plain : ∀ c ∈ text, c ∉ texSpecials) :
    literalText (text ++ rest) = (literalText rest).map fun behind => spaced text ++ behind := by
  induction text with
  | nil => simp [spaced]
  | cons c text ih =>
    rw [List.cons_append, literalText_ordinary (plain c List.mem_cons_self),
      ih fun d member => plain d (List.mem_cons_of_mem c member), Option.map_map]
    rfl

end Ordinary
/-! ## Rendered texts -/

/-- What is read up to an item that stops the reading. -/
theorem takeWhile_stopped {α : Type} {p : α → Bool} {front behind : List α}
    (stops : behind.head?.any p = false) :
    (front ++ behind).takeWhile p = front.takeWhile p ∧
      (front ++ behind).dropWhile p = front.dropWhile p ++ behind := by
  have none : behind.takeWhile p = [] ∧ behind.dropWhile p = behind := by
    cases behind with
    | nil => exact ⟨rfl, rfl⟩
    | cons item rest =>
      have outside : ¬ p item = true := by simpa using stops
      rw [List.takeWhile_cons_of_neg outside, List.dropWhile_cons_of_neg outside]
      exact ⟨rfl, rfl⟩
  constructor
  · rw [List.takeWhile_append]
    split
    next all =>
      rw [none.1, List.append_nil, (List.takeWhile_prefix p).eq_of_length all]
    · rfl
  · rw [List.dropWhile_append]
    split
    next all =>
      rw [none.2, List.isEmpty_iff.mp all, List.nil_append]
    · rfl

theorem literalText_word {command rest said : Text} (letters : command.all Char.isAlpha = true)
    (named : command ≠ []) (known : spoken command = some said)
    (stops : rest.head?.any Char.isAlpha = false) :
    literalText ('\\' :: (command ++ rest)) =
      (literalText (behindCommand command rest)).map fun text => said ++ text := by
  have all := List.all_eq_true.mp letters
  have read := @takeWhile_stopped _ Char.isAlpha command rest stops
  have word : command.takeWhile Char.isAlpha = command := List.takeWhile_eq_self_iff.mpr all
  have after : command.dropWhile Char.isAlpha = [] := List.dropWhile_eq_nil_iff.mpr all
  rw [word, after, List.nil_append] at read
  have symbol : ¬ (command ++ rest).head?.any escapable = true := by
    cases command with
    | nil => exact absurd rfl named
    | cons initial command =>
      have letter := all initial List.mem_cons_self
      simp only [List.cons_append, List.head?_cons, Option.any_some, Bool.not_eq_true]
      refine Bool.eq_false_iff.mpr fun escapes => ?_
      simp only [escapable, List.mem_cons, List.not_mem_nil, or_false, decide_eq_true_eq]
        at escapes
      rcases escapes with rfl | rfl | rfl | rfl | rfl | rfl | rfl <;>
        exact absurd letter (by decide)
  rw [literalText_command symbol (by rw [read.1, known]), read.1, read.2]

theorem literalText_special {rest : Text} : ∀ c ∈ texSpecials,
    literalText (escapeChar c ++ rest) = (literalText rest).map fun text => c :: text := by
  have escaped (c : Char) (escapes : escapeChar c = ['\\', c]) (symbol : escapable c = true) :
      literalText (escapeChar c ++ rest) = (literalText rest).map fun text => c :: text := by
    rw [escapes, List.cons_append, List.singleton_append,
      literalText_escaped (by simpa using symbol)]
    rfl
  have word (c : Char) (command : Text)
      (escapes : escapeChar c = '\\' :: (command ++ ['\x7b', '\x7d']))
      (letters : command.all Char.isAlpha = true) (named : command ≠ [])
      (prints : spoken command = some [c])
      (plain : ¬(command = "textbf".toList ∨ command = "skilltag".toList)) :
      literalText (escapeChar c ++ rest) = (literalText rest).map fun text => c :: text := by
    have argument : behindCommand command ('\x7b' :: '\x7d' :: rest) = '\x7b' :: '\x7d' :: rest :=
      if_neg plain
    rw [escapes, List.cons_append, List.append_assoc,
      literalText_word letters named prints (by simp), List.cons_append, List.singleton_append,
      argument, literalText_brace (.inl rfl), literalText_brace (.inr rfl)]
    rfl
  simp only [texSpecials, List.forall_mem_cons]
  exact ⟨word _ "textbackslash".toList rfl (by decide) (by decide) rfl (by decide),
    escaped _ rfl rfl, escaped _ rfl rfl, escaped _ rfl rfl, escaped _ rfl rfl,
    escaped _ rfl rfl, escaped _ rfl rfl, escaped _ rfl rfl,
    word _ "textasciitilde".toList rfl (by decide) (by decide) rfl (by decide),
    word _ "textasciicircum".toList rfl (by decide) (by decide) rfl (by decide),
    List.forall_mem_nil _⟩

/-- The TeX of a text prints the text. -/
theorem literalText_texOf (text rest : Text) :
    literalText (texOf text ++ rest) =
      (literalText rest).map fun behind => spaced text ++ behind := by
  induction text with
  | nil => simp [texOf, spaced]
  | cons c text ih =>
    have written : texOf (c :: text) ++ rest = texChar c ++ (texOf text ++ rest) :=
      List.append_assoc ..
    have front : literalText (texChar c ++ (texOf text ++ rest)) =
        (literalText (texOf text ++ rest)).map fun behind =>
          (if spacing c then ' ' else c) :: behind := by
      unfold texChar
      split
      · exact literalText_ordinary (by decide)
      next ink =>
        rcases escapeChar_cases c with special | ⟨plain, same⟩
        · exact literalText_special c special
        · rw [same, List.singleton_append, literalText_ordinary plain, if_neg ink]
    rw [written, front, ih, Option.map_map]
    rfl

theorem literalText_styledTexFrom (text : Text) {offset : Nat} {spans : List (Nat × Nat)}
    (ordered : Ordered offset spans) :
    literalText (styledTexFrom text offset spans) = some (spaced (text.drop offset)) := by
  induction spans generalizing offset with
  | nil =>
    have alone := literalText_texOf (text.drop offset) []
    rw [List.append_nil, literalText] at alone
    simpa [styledTexFrom] using alone
  | cons span rest ih =>
    obtain ⟨start, stop⟩ := span
    obtain ⟨behind, forward, later⟩ := ordered
    have opening : "\\textbf\x7b".toList = '\\' :: ("textbf".toList ++ ['\x7b']) := by decide
    have whole : styledTexFrom text offset ((start, stop) :: rest) =
        texOf (slice text offset start) ++ '\\' :: ("textbf".toList ++
          '\x7b' :: (texOf (slice text start stop) ++ '\x7d' :: styledTexFrom text stop rest)) := by
      rw [styledTexFrom, opening]
      simp
    have argument (inner : Text) :
        behindCommand "textbf".toList ('\x7b' :: inner) = '\x7b' :: inner := by
      rw [behindCommand, if_pos (.inl rfl), List.dropWhile_cons_of_neg (by decide)]
    rw [whole, literalText_texOf,
      @literalText_word "textbf".toList _ [] (by decide) (by decide) rfl rfl, argument,
      literalText_brace (.inl rfl), literalText_texOf, literalText_brace (.inr rfl), ih later,
      ← slice_append_drop text behind, ← slice_append_drop text forward]
    simp [spaced]

/-! ## What is lost -/

/-- The characters that are neither blank nor commas. -/
def inked (text : Text) : Text := text.filter fun c => !isPythonSpace c && c ≠ ','

theorem inked_append (first second : Text) :
    inked (first ++ second) = inked first ++ inked second :=
  List.filter_append ..

theorem special_inked : ∀ c ∈ texSpecials, inked [c] = [c] := specials_all (by decide)

theorem inked_strip (text : Text) : inked (stripText text) = inked text :=
  filter_trim fun c blank => by simp [blank]

theorem inked_spaced (text : Text) : (inked (spaced text)).length = (inked text).length := by
  induction text with
  | nil => rfl
  | cons c text ih =>
    have front : (inked (spaced [c])).length = (inked [c]).length := by
      simp only [spaced, List.map_cons, List.map_nil]
      split
      next blank =>
        have space : isPythonSpace c = true := by
          simp only [spacing, Bool.or_eq_true, decide_eq_true_eq] at blank
          rcases blank with (((rfl | rfl) | rfl) | rfl) | rfl <;> decide
        have none : inked [c] = [] := by simp [inked, space]
        rw [none]
        decide
      · rfl
    have parts : spaced (c :: text) = spaced [c] ++ spaced text := rfl
    rw [parts, inked_append, List.length_append, front, ih, ← List.length_append, ← inked_append]
    rfl

/-- A command prints less than its name. -/
theorem spoken_inked {command said : Text} (known : spoken command = some said) :
    (inked said).length < (inked command).length := by
  unfold spoken at known
  split at known
  next named =>
    cases known
    rcases named with rfl | rfl
    · decide
    · decide
  split at known
  next named =>
    cases known
    subst named
    decide
  split at known
  next named =>
    cases known
    subst named
    decide
  split at known
  next named =>
    cases known
    subst named
    decide
  split at known
  next named =>
    cases known
    subst named
    decide
  · cases known

theorem inked_behind (command rest : Text) :
    inked (behindCommand command rest) = inked rest := by
  unfold behindCommand
  split
  · have blank : inked (rest.takeWhile isPythonSpace) = [] := by
      rw [inked, List.filter_eq_nil_iff]
      intro c member
      simp [List.mem_takeWhile_imp member]
    conv_rhs => rw [← List.takeWhile_append_dropWhile (p := isPythonSpace) (l := rest)]
    rw [inked_append, blank, List.nil_append]
  · rfl

/-- A text prints no more than it has, and less where a character of it is special. -/
theorem literalText_inked {rest text : Text} (prints : literalText rest = some text) :
    (inked text).length ≤ (inked rest).length ∧
      ((∃ c ∈ rest, c ∈ texSpecials) → (inked text).length < (inked rest).length) := by
  have consed (c : Char) (rest : Text) : inked (c :: rest) = inked [c] ++ inked rest :=
    inked_append [c] rest
  fun_induction literalText rest generalizing text with
  | case1 =>
    cases prints
    exact ⟨Nat.le_refl _, by simp⟩
  | case2 c rest ordinary ih =>
    obtain ⟨behind, later, rfl⟩ := Option.map_eq_some_iff.mp prints
    have tail := ih later
    have front : (inked [if spacing c then ' ' else c]).length = (inked [c]).length :=
      inked_spaced [c]
    rw [consed c, consed (if spacing c then ' ' else c), List.length_append, List.length_append,
      front]
    refine ⟨Nat.add_le_add_left tail.1 _, fun ⟨d, member, special⟩ => ?_⟩
    rcases List.mem_cons.mp member with rfl | within
    · exact absurd special ordinary
    · exact Nat.add_lt_add_left (tail.2 ⟨d, within, special⟩) _
  | case3 c rest special brace ih =>
    have tail := (ih prints).1
    rw [consed c, special_inked c (Decidable.of_not_not special), List.length_append]
    exact ⟨by simp only [List.length_singleton]; omega, fun _ => by
      simp only [List.length_singleton]; omega⟩
  | case4 => cases prints
  | case5 c rest special brace backslash escaped ih =>
    obtain ⟨behind, later, rfl⟩ := Option.map_eq_some_iff.mp prints
    have tail := (ih later).1
    have split := inked_append (rest.take 1) rest.tail
    have whole : rest.take 1 ++ rest.tail = rest := by
      rw [← List.drop_one, List.take_append_drop]
    rw [whole] at split
    rw [consed c, special_inked c (Decidable.of_not_not special), split, inked_append]
    simp only [List.length_append, List.length_singleton]
    exact ⟨by omega, fun _ => by omega⟩
  | case6 => cases prints
  | case7 c rest special brace backslash escaped command said known =>
    rename_i ih
    obtain ⟨behind, later, rfl⟩ := Option.map_eq_some_iff.mp prints
    have tail := (ih later).1
    rw [inked_behind] at tail
    have word : (inked said).length < (inked (rest.takeWhile Char.isAlpha)).length :=
      spoken_inked known
    have split := inked_append (rest.takeWhile Char.isAlpha) (rest.dropWhile Char.isAlpha)
    rw [List.takeWhile_append_dropWhile] at split
    rw [consed c, special_inked c (Decidable.of_not_not special), split, inked_append]
    simp only [List.length_append, List.length_singleton]
    exact ⟨by omega, fun _ => by omega⟩

end Pathfinder
