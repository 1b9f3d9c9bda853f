import Mathlib.Data.List.Basic
import Pathfinder.Domain.ResumeText

/-!
# Words under `re.IGNORECASE`

A word of a pattern in lower-case ASCII letters, and what it matches at the beginning of a text.
-/
namespace Pathfinder

/-- The other characters that a letter of a pattern matches under `re.IGNORECASE`. -/
def caseFixes : Char → List Char
  | 'i' => ['\u0130', '\u0131']
  | 's' => ['\u017f']
  | 'k' => ['\u212a']
  | _ => []

/-- A character of a pattern, in lower case, matches. -/
def matchesIgnoringCase (letter c : Char) : Bool :=
  c = letter || c = letter.toUpper || (caseFixes letter).contains c

/-- What is behind a word of a pattern at the beginning of a text. -/
def behindWord : Text → Text → Option Text
  | [], text => some text
  | _, [] => none
  | letter :: word, c :: rest => if matchesIgnoringCase letter c then behindWord word rest else none

theorem behindWord_some {word text rest : Text} : behindWord word text = some rest ↔
    ∃ start, text = start ++ rest ∧
      List.Forall₂ (fun letter c => matchesIgnoringCase letter c = true) word start := by
  induction word generalizing text with
  | nil =>
    constructor
    · intro found
      exact ⟨[], Option.some.inj found, .nil⟩
    · rintro ⟨start, rfl, written⟩
      cases written
      rfl
  | cons letter word ih =>
    cases text with
    | nil =>
      constructor
      · intro found
        cases found
      · rintro ⟨start, whole, written⟩
        cases written
        cases whole
    | cons c text =>
      rw [behindWord]
      constructor
      · intro found
        split at found
        next here =>
          obtain ⟨start, rfl, written⟩ := ih.mp found
          exact ⟨c :: start, rfl, .cons here written⟩
        next => cases found
      · rintro ⟨start, whole, written⟩
        cases written with
        | @cons _ d _ start here written =>
          obtain ⟨rfl, rfl⟩ := List.cons.inj whole
          rw [if_pos here]
          exact ih.mpr ⟨start, rfl, written⟩

theorem behindWord_append {word text rest : Text} (found : behindWord word text = some rest)
    (more : Text) : behindWord word (text ++ more) = some (rest ++ more) := by
  obtain ⟨start, rfl, written⟩ := behindWord_some.mp found
  exact behindWord_some.mpr ⟨start, List.append_assoc _ _ _, written⟩

theorem behindWord_inside {word text rest : Text} (found : behindWord word text = some rest) :
    rest <:+ text := by
  obtain ⟨start, rfl, -⟩ := behindWord_some.mp found
  exact List.suffix_append _ _

/-- The characters that match a letter. -/
theorem matchesIgnoringCase_mem {letter c : Char} :
    matchesIgnoringCase letter c = true ↔ c ∈ letter :: letter.toUpper :: caseFixes letter := by
  simp [matchesIgnoringCase, or_assoc]

/-- What holds of every character of a word's letters holds of what the word matches. -/
theorem matched_all {P : Char → Prop} {word start : Text}
    (letters : ∀ letter ∈ word, ∀ c ∈ letter :: letter.toUpper :: caseFixes letter, P c)
    (written : List.Forall₂ (fun letter c => matchesIgnoringCase letter c = true) word start) :
    ∀ c ∈ start, P c := by
  induction written with
  | nil => exact List.forall_mem_nil _
  | cons here _ ih =>
    refine List.forall_mem_cons.mpr ⟨?_, ?_⟩
    · exact letters _ List.mem_cons_self _ (matchesIgnoringCase_mem.mp here)
    · exact ih fun letter member => letters letter (List.mem_cons_of_mem _ member)

end Pathfinder
