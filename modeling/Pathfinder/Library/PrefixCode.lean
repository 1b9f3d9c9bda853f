import Mathlib.Data.List.Basic

/-!
# Prefix codes

A code none of whose words begins another can be read back from the words it writes one
after the other.
-/
namespace PrefixCodes

/-- No word is empty, and only equal letters have words of which one begins the other. -/
structure PrefixCode {α β : Type*} (code : α → List β) : Prop where
  nonempty : ∀ a, code a ≠ []
  begins : ∀ a b, code a <+: code b → a = b

theorem PrefixCode.flatMap_injective {α β : Type*} {code : α → List β} (prefixes : PrefixCode code) :
    Function.Injective fun letters : List α => letters.flatMap code := by
  intro first
  induction first with
  | nil =>
    intro second same
    cases second with
    | nil => rfl
    | cons b rest =>
      have written : code b ++ rest.flatMap code = [] := same.symm
      exact absurd (List.append_eq_nil_iff.mp written).1 (prefixes.nonempty b)
  | cons a rest ih =>
    intro second same
    cases second with
    | nil =>
      have written : code a ++ rest.flatMap code = [] := same
      exact absurd (List.append_eq_nil_iff.mp written).1 (prefixes.nonempty a)
    | cons b later =>
      have written : code a ++ rest.flatMap code = code b ++ later.flatMap code := same
      have letter : a = b := by
        rcases List.append_eq_append_iff.mp written with ⟨tail, first, -⟩ | ⟨tail, first, -⟩
        · exact prefixes.begins a b ⟨tail, first.symm⟩
        · exact (prefixes.begins b a ⟨tail, first.symm⟩).symm
      subst letter
      rw [ih (List.append_cancel_left written)]

/-- The letters are read back up to a sign that begins no word. -/
theorem PrefixCode.flatMap_cancel {α β : Type*} {code : α → List β} (prefixes : PrefixCode code)
    {stop : β} (apart : ∀ a, (code a).head? ≠ some stop) {first second : List α}
    {rest rest' : List β}
    (same : first.flatMap code ++ stop :: rest = second.flatMap code ++ stop :: rest') :
    first = second ∧ rest = rest' := by
  have stopped (a : α) (tail later : List β) : stop :: tail ≠ code a ++ later := by
    intro begins
    cases written : code a with
    | nil => exact prefixes.nonempty a written
    | cons c word =>
      rw [written] at begins
      cases begins
      exact apart a (by rw [written]; rfl)
  induction first generalizing second with
  | nil =>
    cases second with
    | nil => exact ⟨rfl, (List.cons.inj same).2⟩
    | cons b later =>
      rw [List.flatMap_cons, List.append_assoc] at same
      exact absurd same (stopped b _ _)
  | cons a word ih =>
    cases second with
    | nil =>
      rw [List.flatMap_cons, List.append_assoc] at same
      exact absurd same.symm (stopped a _ _)
    | cons b later =>
      rw [List.flatMap_cons, List.flatMap_cons, List.append_assoc, List.append_assoc] at same
      have letter : a = b := by
        rcases List.append_eq_append_iff.mp same with ⟨tail, begins, -⟩ | ⟨tail, begins, -⟩
        · exact prefixes.begins a b ⟨tail, begins.symm⟩
        · exact (prefixes.begins b a ⟨tail, begins.symm⟩).symm
      subst letter
      obtain ⟨rfl, behind⟩ := ih (List.append_cancel_left same)
      exact ⟨rfl, behind⟩

end PrefixCodes
