import Mathlib.Data.List.DropRight

/-!
# Trimming

A list without the blank items at its two ends.
-/
namespace Trimming

variable {α β : Type*} (blank : α → Bool)

def trim (items : List α) : List α := (items.dropWhile blank).rdropWhile blank

variable {blank} {items before middle behind : List α}

/-- The items of a list without blank items at its ends. -/
structure Bare (blank : α → Bool) (items : List α) : Prop where
  head : ∀ item ∈ items.head?, blank item = false
  last : ∀ item ∈ items.getLast?, blank item = false

theorem bare_trim : Bare blank (trim blank items) where
  head item first := by
    have begins : trim blank items <+: items.dropWhile blank := List.rdropWhile_prefix _ _
    obtain ⟨rest, whole⟩ := begins
    have kept := List.head?_dropWhile_not blank items
    rw [← whole, List.head?_append, Option.mem_def.mp first] at kept
    simpa using kept
  last item ends := by
    have kept := List.head?_dropWhile_not blank (items.dropWhile blank).reverse
    rw [Option.mem_def, trim, List.rdropWhile, List.getLast?_reverse] at ends
    rw [ends] at kept
    simpa using kept

theorem Bare.of_map {change : β → α} {items : List β} (bare : Bare blank (items.map change)) :
    Bare (blank ∘ change) items where
  head item first := bare.head (change item) (by simpa using ⟨item, first, rfl⟩)
  last item ends := bare.last (change item) (by simpa using ⟨item, ends, rfl⟩)

/-- A list is its blank ends around what is trimmed. -/
theorem trim_split (blank : α → Bool) (items : List α) : ∃ before behind,
    items = before ++ trim blank items ++ behind ∧ (∀ item ∈ before, blank item = true) ∧
      ∀ item ∈ behind, blank item = true := by
  refine ⟨items.takeWhile blank, (items.dropWhile blank).rtakeWhile blank, ?_,
    fun _ => List.mem_takeWhile_imp, fun _ => List.mem_rtakeWhile_imp⟩
  rw [List.append_assoc, trim, List.rdropWhile_append_rtakeWhile, List.takeWhile_append_dropWhile]

theorem trim_eq_nil : trim blank items = [] ↔ ∀ item ∈ items, blank item = true := by
  rw [trim, List.rdropWhile_eq_nil_iff]
  constructor
  · intro all item member
    rw [← List.takeWhile_append_dropWhile (p := blank) (l := items)] at member
    rcases List.mem_append.mp member with early | late
    · exact List.mem_takeWhile_imp early
    · exact all item late
  · exact fun all item member => all item ((List.dropWhile_sublist blank).subset member)

theorem trim_of_bare (bare : Bare blank items) : trim blank items = items := by
  have leading : items.dropWhile blank = items := by
    cases items with
    | nil => rfl
    | cons first rest => rw [List.dropWhile_cons_of_neg (by simp [bare.head first rfl])]
  rw [trim, leading, List.rdropWhile_eq_self_iff]
  intro nonempty
  simp [bare.last _ (List.getLast?_eq_some_getLast nonempty)]

/-- Blank items around a list are trimmed with its own ends. -/
theorem trim_append (leading : ∀ item ∈ before, blank item = true)
    (trailing : ∀ item ∈ behind, blank item = true) :
    trim blank (before ++ items ++ behind) = trim blank items := by
  have reversed : ∀ item ∈ behind.reverse, blank item = true := by simpa using trailing
  rw [List.append_assoc, trim, trim, List.dropWhile_append_of_pos leading, List.dropWhile_append]
  split
  next none =>
    rw [List.isEmpty_iff] at none
    rw [none, List.rdropWhile_nil, List.rdropWhile_eq_nil_iff]
    exact fun item member => trailing item ((List.dropWhile_sublist blank).subset member)
  · rw [List.rdropWhile, List.rdropWhile, List.reverse_append,
      List.dropWhile_append_of_pos reversed]

theorem trim_map (change : β → α) (items : List β) :
    trim blank (items.map change) = (trim (blank ∘ change) items).map change := by
  simp only [trim, List.rdropWhile, List.dropWhile_map, ← List.map_reverse]

/-- Where only blank items are left out, trimming comes first or last. -/
theorem trim_filter {keep : α → Bool} (removes : ∀ item, keep item = false → blank item = true) :
    trim blank (items.filter keep) = (trim blank items).filter keep := by
  have leading (items : List α) :
      (items.filter keep).dropWhile blank = (items.dropWhile blank).filter keep := by
    induction items with
    | nil => rfl
    | cons first rest ih =>
      by_cases kept : keep first = true
      · by_cases space : blank first = true
        · simp [kept, space, ih]
        · simp [kept, space]
      · have space := removes first (by simpa using kept)
        simp [kept, space, ih]
  simp only [trim, List.rdropWhile, leading, ← List.filter_reverse]

theorem filter_trim {keep : α → Bool} (removes : ∀ item, blank item = true → keep item = false) :
    (trim blank items).filter keep = items.filter keep := by
  obtain ⟨before, behind, whole, leading, trailing⟩ := trim_split blank items
  have none {part : List α} (all : ∀ item ∈ part, blank item = true) : part.filter keep = [] := by
    rw [List.filter_eq_nil_iff]
    intro item member
    simp [removes item (all item member)]
  conv_rhs => rw [whole]
  rw [List.filter_append, List.filter_append, none leading, none trailing, List.nil_append,
    List.append_nil]

end Trimming
