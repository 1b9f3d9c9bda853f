import Mathlib.Data.List.Basic

/-!
# Scanning with patterns

A pattern says how many items it matches at the beginning of a list; none where that is zero.
A scan goes from left to right, and looks for the next match behind the end of the last one.
-/
namespace Scanning

variable {α β : Type*}

/-- The matches from `place` on, each with its place and length; `skip` more items belong to the
match before. -/
def findAll (pattern : List α → Nat) : Nat → Nat → List α → List (Nat × Nat)
  | _, _, [] => []
  | skip + 1, place, _ :: rest => findAll pattern skip (place + 1) rest
  | 0, place, item :: rest =>
    match pattern (item :: rest) with
    | 0 => findAll pattern 0 (place + 1) rest
    | length + 1 => (place, length + 1) :: findAll pattern length (place + 1) rest

/-- The items, each with whether it is in a match. -/
def matchMarks (pattern : List α → Nat) : Nat → List α → List (α × Bool)
  | _, [] => []
  | skip + 1, item :: rest => (item, true) :: matchMarks pattern skip rest
  | 0, item :: rest =>
    match pattern (item :: rest) with
    | 0 => (item, false) :: matchMarks pattern 0 rest
    | length + 1 => (item, true) :: matchMarks pattern length rest

/-- What is left when the matches are taken out. -/
def unmatched (pattern : List α → Nat) (items : List α) : List α :=
  ((matchMarks pattern 0 items).filter fun entry => !entry.2).map Prod.fst

/-- The first place at which something is read. -/
def findFirst (read : List α → Option β) (place : Nat) : List α → Option (Nat × β)
  | [] => none
  | item :: rest =>
    match read (item :: rest) with
    | some found => some (place, found)
    | none => findFirst read (place + 1) rest

section Matches
variable {pattern : List α → Nat} {items : List α} {skip place : Nat}

/-- At the place of a match the pattern holds, with its length. -/
theorem mem_findAll {entry : Nat × Nat} (member : entry ∈ findAll pattern skip place items) :
    ∃ index, entry.1 = place + index ∧ entry.2 = pattern (items.drop index) ∧
      0 < entry.2 ∧ index < items.length := by
  fun_induction findAll pattern skip place items with
  | case1 => cases member
  | case2 skip place item rest ih =>
    obtain ⟨index, here, length, positive, inside⟩ := ih member
    exact ⟨index + 1, by omega, length, positive, Nat.succ_lt_succ inside⟩
  | case3 place item rest none ih =>
    obtain ⟨index, here, length, positive, inside⟩ := ih member
    exact ⟨index + 1, by omega, length, positive, Nat.succ_lt_succ inside⟩
  | case4 place item rest length found ih =>
    rcases List.mem_cons.mp member with rfl | later
    · exact ⟨0, rfl, found.symm, Nat.succ_pos length, Nat.succ_pos _⟩
    · obtain ⟨index, here, length, positive, inside⟩ := ih later
      exact ⟨index + 1, by omega, length, positive, Nat.succ_lt_succ inside⟩

theorem matchMarks_items (skip : Nat) : (matchMarks pattern skip items).map Prod.fst = items := by
  fun_induction matchMarks pattern skip items with
  | case1 => rfl
  | case2 skip item rest ih => rw [List.map_cons, ih]
  | case3 item rest none ih => rw [List.map_cons, ih]
  | case4 item rest length found ih => rw [List.map_cons, ih]

/-- An item that is in no match is left. -/
theorem mem_unmatched {index : Nat} {item : α}
    (here : (matchMarks pattern 0 items)[index]? = some (item, false)) :
    item ∈ unmatched pattern items :=
  List.mem_map_of_mem (List.mem_filter.mpr ⟨List.mem_of_getElem? here, rfl⟩)

end Matches

theorem findFirst_some {read : List α → Option β} {items : List α} {place start : Nat} {found : β}
    (first : findFirst read place items = some (start, found)) :
    ∃ index, start = place + index ∧ read (items.drop index) = some found ∧
      index < items.length := by
  fun_induction findFirst read place items with
  | case1 => cases first
  | case2 place item rest found' here =>
    cases first
    exact ⟨0, rfl, here, Nat.succ_pos _⟩
  | case3 place item rest none ih =>
    obtain ⟨index, here, reads, inside⟩ := ih first
    exact ⟨index + 1, by omega, reads, Nat.succ_lt_succ inside⟩

/-! ## Pieces with their places -/

/-- The pieces of a list, each with the place it begins at. -/
def placed : Nat → List (List α) → List (Nat × List α)
  | _, [] => []
  | place, piece :: rest => (place, piece) :: placed (place + piece.length) rest

section Placed
variable {pieces : List (List α)} {place : Nat}

theorem mem_placed {entry : Nat × List α} (member : entry ∈ placed place pieces) :
    place ≤ entry.1 ∧ entry.2 ∈ pieces ∧
      ∀ index < entry.2.length, pieces.flatten[entry.1 - place + index]? = entry.2[index]? := by
  induction pieces generalizing place with
  | nil => cases member
  | cons piece rest ih =>
    rcases List.mem_cons.mp member with rfl | later
    · refine ⟨Nat.le_refl _, List.mem_cons_self, fun index inside => ?_⟩
      rw [Nat.sub_self, Nat.zero_add, List.flatten_cons, List.getElem?_append_left inside]
    · obtain ⟨behind, known, same⟩ := ih later
      refine ⟨by omega, List.mem_cons_of_mem _ known, fun index inside => ?_⟩
      rw [List.flatten_cons, List.getElem?_append_right (by omega), ← same index inside]
      congr 1
      omega

/-- A piece begins where those in front of it end. -/
theorem placed_behind {entry : Nat × List α} (member : entry ∈ placed place pieces) :
    ∃ before behind, pieces = before ++ entry.2 :: behind ∧
      entry.1 = place + before.flatten.length := by
  induction pieces generalizing place with
  | nil => cases member
  | cons piece rest ih =>
    rcases List.mem_cons.mp member with rfl | later
    · exact ⟨[], rest, rfl, rfl⟩
    · obtain ⟨before, behind, rfl, start⟩ := ih later
      refine ⟨piece :: before, behind, rfl, ?_⟩
      rw [start, List.flatten_cons, List.length_append, Nat.add_assoc]

/-- Every place is in some piece. -/
theorem placed_at {target : Nat} (behind : place ≤ target)
    (inside : target < place + pieces.flatten.length) :
    ∃ entry ∈ placed place pieces, entry.1 ≤ target ∧ target < entry.1 + entry.2.length := by
  induction pieces generalizing place with
  | nil => exact absurd inside (by simp; omega)
  | cons piece rest ih =>
    rw [List.flatten_cons, List.length_append] at inside
    by_cases here : target < place + piece.length
    · exact ⟨(place, piece), List.mem_cons_self, behind, here⟩
    · obtain ⟨entry, member, within⟩ := ih (Nat.le_of_not_lt here) (by omega)
      exact ⟨entry, List.mem_cons_of_mem _ member, within⟩

end Placed
end Scanning
