import Mathlib.Data.List.Basic
import Mathlib.Data.List.Nodup
import Mathlib.Data.List.InsertIdx
import Mathlib.Data.List.Perm.Basic

/-!
# Lists of keyed records

Records in a list, each with a key of its own. Editing at the position where a
key is found (replace, remove, move) is editing by key, because no other record
carries the key.
-/
namespace KeyedList

universe u v w
variable {α : Type u} {κ : Type v} {key : α → κ} {l : List α} {i : Nat} {a : α}

/-- Two records at the same key are the same record. -/
theorem eq_of_key (unique : (l.map key).Nodup) {x y : α} (hx : x ∈ l) (hy : y ∈ l)
    (same : key x = key y) : x = y :=
  List.inj_on_of_nodup_map unique hx hy same

/-- Two records at the same optional key are the same record. -/
theorem eq_of_key_some {key : α → Option κ} (unique : (l.filterMap key).Nodup) {x y : α}
    (hx : x ∈ l) (hy : y ∈ l) {k : κ} (keyed : key x = some k) (same : key y = some k) : x = y := by
  induction l with
  | nil => cases hx
  | cons first rest ih =>
    have rest_unique : (rest.filterMap key).Nodup := by
      cases here : key first with
      | none => simpa [List.filterMap_cons, here] using unique
      | some j => exact (List.nodup_cons.mp (by simpa [List.filterMap_cons, here] using unique)).2
    have apart : ∀ z ∈ rest, key first = some k → key z ≠ some k := by
      intro z member here there
      rw [List.filterMap_cons, here] at unique
      exact (List.nodup_cons.mp unique).1 (List.mem_filterMap.mpr ⟨z, member, there⟩)
    rcases List.mem_cons.mp hx with rfl | inRest
    · rcases List.mem_cons.mp hy with rfl | other
      · rfl
      · exact absurd same (apart y other keyed)
    · rcases List.mem_cons.mp hy with rfl | other
      · exact absurd keyed (apart x inRest same)
      · exact ih rest_unique inRest other

/-- A record with a new key goes behind the others. -/
theorem nodup_snoc (unique : (l.map key).Nodup) (fresh : ∀ y ∈ l, key y ≠ key a) :
    ((l ++ [a]).map key).Nodup := by
  rw [List.map_append, List.nodup_append]
  refine ⟨unique, List.nodup_singleton _, ?_⟩
  intro k listed other last same
  obtain ⟨y, member, rfl⟩ := List.mem_map.mp listed
  obtain rfl := List.mem_singleton.mp last
  exact fresh y member same

/-- A search by key finds the element that has it. -/
theorem find?_key [DecidableEq κ] (unique : (l.map key).Nodup) {x : α} (hx : x ∈ l) :
    (l.find? fun y => key y = key x) = some x := by
  cases found : l.find? fun y => key y = key x with
  | none =>
    have absent := List.find?_eq_none.mp found x hx
    simp at absent
  | some y =>
    have same : key y = key x := by simpa using List.find?_some found
    rw [eq_of_key unique (List.mem_of_find?_eq_some found) hx same]

theorem not_key_elsewhere (unique : (l.map key).Nodup) (stored : l[i]? = some a) {j : Nat} {b : α}
    (other : l[j]? = some b) (different : j ≠ i) : key b ≠ key a := by
  intro same
  obtain ⟨hi, rfl⟩ := List.getElem?_eq_some_iff.mp stored
  obtain ⟨hj, rfl⟩ := List.getElem?_eq_some_iff.mp other
  have inside : j < (l.map key).length := by simpa using hj
  have keys : (l.map key)[j]? = (l.map key)[i]? := by simp [hi, hj, same]
  exact different ((List.getElem?_inj inside unique).mp keys)

/-- Removing a record leaves the records with other keys. -/
theorem mem_eraseIdx (unique : (l.map key).Nodup) (stored : l[i]? = some a) (x : α) :
    x ∈ l.eraseIdx i ↔ x ∈ l ∧ key x ≠ key a := by
  rw [List.mem_eraseIdx_iff_getElem?]
  constructor
  · rintro ⟨j, different, found⟩
    exact ⟨List.mem_of_getElem? found, not_key_elsewhere unique stored found different⟩
  · rintro ⟨member, different⟩
    obtain ⟨j, found⟩ := List.getElem?_of_mem member
    refine ⟨j, ?_, found⟩
    rintro rfl
    rw [found] at stored
    exact different (by rw [Option.some.inj stored])

/-- Storing `b` where `a` is keeps the records with other keys. -/
theorem mem_set (unique : (l.map key).Nodup) (stored : l[i]? = some a) (b x : α) :
    x ∈ l.set i b ↔ x = b ∨ (x ∈ l ∧ key x ≠ key a) := by
  obtain ⟨inside, -⟩ := List.getElem?_eq_some_iff.mp stored
  constructor
  · intro member
    obtain ⟨j, found⟩ := List.getElem?_of_mem member
    by_cases same : i = j
    · subst same
      rw [List.getElem?_set_self inside] at found
      exact .inl (Option.some.inj found).symm
    · rw [List.getElem?_set_ne same] at found
      exact .inr ⟨List.mem_of_getElem? found,
        not_key_elsewhere unique stored found (Ne.symm same)⟩
  · rintro (rfl | ⟨member, different⟩)
    · exact List.mem_set inside x
    · obtain ⟨j, found⟩ := List.getElem?_of_mem member
      have apart : i ≠ j := by
        rintro rfl
        rw [found] at stored
        exact different (by rw [Option.some.inj stored])
      exact List.mem_of_getElem? ((List.getElem?_set_ne apart).trans found)

/-- Storing a record under its old key changes no key. -/
theorem map_set_same (stored : l[i]? = some a) {b : α} (same : key b = key a) :
    (l.set i b).map key = l.map key := by
  obtain ⟨inside, rfl⟩ := List.getElem?_eq_some_iff.mp stored
  refine List.ext_getElem? fun j => ?_
  by_cases here : i = j
  · subst here
    simp [inside, same]
  · simp [List.getElem?_set_ne here]

/-- Keeping first occurrences leaves nothing twice. -/
theorem nodup_eraseDups {β : Type u} [DecidableEq β] (values : List β) :
    values.eraseDups.Nodup := by
  induction size : values.length using Nat.strongRecOn generalizing values with
  | ind n ih =>
    cases values with
    | nil => simp
    | cons head tail =>
      have shorter : (tail.filter fun value => !value == head).length < n := by
        have bound := List.length_filter_le (fun value => !value == head) tail
        simp only [List.length_cons] at size
        omega
      rw [List.eraseDups_cons, List.nodup_cons]
      constructor
      · simp [List.mem_eraseDups]
      · exact ih _ shorter _ rfl

/-- `group.pop(index)` then `group.insert(position, …)`. -/
def moveTo (l : List α) (i position : Nat) : List α :=
  match l[i]? with
  | none => l
  | some a => (l.eraseIdx i).insertIdx position a

/-- Moving a record inside its list only permutes the list. -/
theorem moveTo_perm (l : List α) (i : Nat) {position : Nat} (inside : position < l.length) :
    (moveTo l i position).Perm l := by
  unfold moveTo
  split
  · exact List.Perm.refl l
  next a stored =>
    obtain ⟨bound, rfl⟩ := List.getElem?_eq_some_iff.mp stored
    have room : position ≤ (l.eraseIdx i).length := by
      rw [List.length_eraseIdx_of_lt bound]
      omega
    exact (List.perm_insertIdx _ _ room).trans (List.getElem_cons_eraseIdx_perm bound)

theorem map_moveTo {β : Type w} (f : α → β) (l : List α) (i position : Nat) :
    (moveTo l i position).map f = moveTo (l.map f) i position := by
  unfold moveTo
  rw [List.getElem?_map]
  cases l[i]? with
  | none => rfl
  | some a => rw [List.map_insertIdx, List.eraseIdx_map]; rfl

/-! ## What an edit leaves in place -/

/-- A record that a selection refuses does not show in it. -/
theorem filter_eraseIdx {q : α → Bool} (stored : l[i]? = some a) (refused : q a = false) :
    (l.eraseIdx i).filter q = l.filter q := by
  induction l generalizing i with
  | nil => rfl
  | cons x rest ih =>
    cases i with
    | zero =>
      cases stored
      exact (List.filter_cons_of_neg (by simp [refused])).symm
    | succ j =>
      rw [List.getElem?_cons_succ] at stored
      rw [List.eraseIdx_cons_succ, List.filter_cons, List.filter_cons, ih stored]

theorem filter_insertIdx {q : α → Bool} (refused : q a = false) (l : List α) (n : Nat) :
    (l.insertIdx n a).filter q = l.filter q := by
  induction l generalizing n with
  | nil =>
    cases n with
    | zero => simp [refused]
    | succ m => rfl
  | cons x rest ih =>
    cases n with
    | zero => exact List.filter_cons_of_neg (by simp [refused])
    | succ m => rw [List.insertIdx_succ_cons, List.filter_cons, List.filter_cons, ih]

/-- Moving a record leaves the others in their order. -/
theorem filter_moveTo {q : α → Bool} (stored : l[i]? = some a) (refused : q a = false)
    (position : Nat) : (moveTo l i position).filter q = l.filter q := by
  unfold moveTo
  rw [stored]
  exact (filter_insertIdx refused _ _).trans (filter_eraseIdx stored refused)

/-- Removing the record at a position is leaving its key out. -/
theorem eraseIdx_of_unique [DecidableEq κ] (unique : (l.map key).Nodup)
    (stored : l[i]? = some a) : l.eraseIdx i = l.filter fun x => decide (key x ≠ key a) := by
  induction l generalizing i with
  | nil => rfl
  | cons x rest ih =>
    obtain ⟨absent, distinct⟩ := List.nodup_cons.mp unique
    cases i with
    | zero =>
      cases stored
      rw [List.eraseIdx_zero, List.tail_cons, List.filter_cons_of_neg (by simp)]
      refine (List.filter_eq_self.mpr fun y member => decide_eq_true ?_).symm
      intro same
      exact absent (same ▸ List.mem_map_of_mem member)
    | succ j =>
      rw [List.getElem?_cons_succ] at stored
      have different : key x ≠ key a := by
        intro same
        exact absent (same ▸ List.mem_map_of_mem (List.mem_of_getElem? stored))
      have kept : decide (key x ≠ key a) = true := decide_eq_true different
      rw [List.eraseIdx_cons_succ, ih distinct stored, List.filter_cons, if_pos kept]

/-- Removing the one occurrence of a value is leaving the value out. -/
theorem eraseIdx_of_nodup [DecidableEq α] (distinct : l.Nodup) (stored : l[i]? = some a) :
    l.eraseIdx i = l.filter fun x => decide (x ≠ a) := by
  have unique : (l.map id).Nodup := (List.map_id l).symm ▸ distinct
  exact eraseIdx_of_unique unique stored

/-- A search does not tell a record from one that it judges and that reads alike. -/
theorem find?_set_map {β : Type w} (f : α → β) {p : α → Bool} (stored : l[i]? = some a) {b : α}
    (same : p b = p a) (image : f b = f a) :
    ((l.set i b).find? p).map f = (l.find? p).map f := by
  induction l generalizing i with
  | nil => rfl
  | cons x rest ih =>
    cases i with
    | zero =>
      cases stored
      rw [List.set_cons_zero, List.find?_cons, List.find?_cons, same]
      cases p a with
      | true => exact congrArg some image
      | false => rfl
    | succ j =>
      rw [List.getElem?_cons_succ] at stored
      rw [List.set_cons_succ, List.find?_cons, List.find?_cons]
      cases p x with
      | true => rfl
      | false => exact ih stored

section Find
variable [DecidableEq κ] {k : κ}

theorem find?_key_iff (unique : (l.map key).Nodup) (x : α) :
    (l.find? fun y => key y = k) = some x ↔ x ∈ l ∧ key x = k := by
  constructor
  · intro found
    exact ⟨List.mem_of_find?_eq_some found, by simpa using List.find?_some found⟩
  · rintro ⟨member, rfl⟩
    exact find?_key unique member

/-- A search by key sees the records of that key only. -/
theorem find?_key_congr {l' : List α} (unique : (l.map key).Nodup) (unique' : (l'.map key).Nodup)
    (same : ∀ x, key x = k → (x ∈ l ↔ x ∈ l')) :
    (l.find? fun y => key y = k) = l'.find? fun y => key y = k := by
  refine Option.ext fun x => ?_
  rw [find?_key_iff unique, find?_key_iff unique']
  exact and_congr_left fun keyed => same x keyed

end Find

/-- The first record that satisfies `p`, with its position. -/
def locate (p : α → Bool) (l : List α) : Option (Nat × α) :=
  (l.findIdx? p).bind fun i => l[i]?.map fun a => (i, a)

theorem locate_some {p : α → Bool} (found : locate p l = some (i, a)) :
    l[i]? = some a ∧ p a = true := by
  simp only [locate, Option.bind_eq_some_iff, Option.map_eq_some_iff, Prod.mk.injEq] at found
  obtain ⟨j, first, b, stored, sameIndex, sameRecord⟩ := found
  subst sameIndex sameRecord
  obtain ⟨inside, accepted, -⟩ := List.findIdx?_eq_some_iff_getElem.mp first
  rw [List.getElem?_eq_getElem inside, Option.some.injEq] at stored
  exact ⟨stored ▸ List.getElem?_eq_getElem inside, stored ▸ accepted⟩

theorem locate_map {β : Type w} (f : β → α) (p : α → Bool) (l : List β) :
    locate p (l.map f) = (locate (fun b => p (f b)) l).map fun (i, b) => (i, f b) := by
  unfold locate
  rw [List.findIdx?_map, show p ∘ f = fun b => p (f b) from rfl]
  cases l.findIdx? fun b => p (f b) with
  | none => rfl
  | some i =>
    dsimp only [Option.bind_some, Option.map_some]
    rw [List.getElem?_map]
    cases l[i]? with
    | none => rfl
    | some b => rfl

/-! ## Lists with records left out -/

section Kept
variable {p q : α → Bool} (kept : ∀ x ∈ l, p x = true → q x = true)
include kept

/-- Leaving out records that a search does not look for changes nothing for it. -/
theorem filter_kept : (l.filter q).filter p = l.filter p := by
  rw [List.filter_filter]
  refine List.filter_congr fun x member => ?_
  cases wanted : p x with
  | false => rfl
  | true => rw [kept x member wanted, Bool.and_self]

theorem find?_kept : (l.filter q).find? p = l.find? p := by
  rw [← List.head?_filter, ← List.head?_filter, filter_kept kept]

theorem any_kept : (l.filter q).any p = l.any p := by
  rw [Bool.eq_iff_iff, List.any_eq_true, List.any_eq_true]
  constructor
  · rintro ⟨x, member, wanted⟩
    exact ⟨x, (List.mem_filter.mp member).1, wanted⟩
  · rintro ⟨x, member, wanted⟩
    exact ⟨x, List.mem_filter.mpr ⟨member, kept x member wanted⟩, wanted⟩

end Kept

section Firsts
variable [DecidableEq κ] {seen : List κ} {x : α}

/-- The first record of every key that is not in `seen`. -/
def firsts (key : α → κ) : List κ → List α → List α
  | _, [] => []
  | seen, x :: rest =>
    if key x ∈ seen then firsts key seen rest else x :: firsts key (key x :: seen) rest

/-- A record is kept when it is the first one of its key, and the key is new. -/
theorem mem_firsts :
    x ∈ firsts key seen l ↔ key x ∉ seen ∧ l.find? (fun y => key y = key x) = some x := by
  induction l generalizing seen with
  | nil => simp [firsts]
  | cons first rest ih =>
    rw [firsts, List.find?_cons]
    by_cases known : key first ∈ seen
    · rw [if_pos known, ih]
      by_cases same : key first = key x
      · simp [same ▸ known]
      · simp [same]
    · rw [if_neg known, List.mem_cons, ih]
      by_cases same : key first = key x
      · simp only [same, decide_true, List.mem_cons, true_or, not_true_eq_false,
          false_and, or_false, Option.some.injEq]
        exact ⟨fun head => ⟨same ▸ known, head.symm⟩, fun head => head.2.symm⟩
      · have apart : x ≠ first := fun head => same (congrArg key head.symm)
        simp [same, apart, Ne.symm same]

/-- The records kept have distinct keys. -/
theorem nodup_firsts : ((firsts key seen l).map key).Nodup := by
  induction l generalizing seen with
  | nil => exact List.nodup_nil
  | cons first rest ih =>
    rw [firsts]
    split
    · exact ih
    · rw [List.map_cons, List.nodup_cons]
      refine ⟨?_, ih⟩
      intro again
      obtain ⟨y, member, same⟩ := List.mem_map.mp again
      exact (mem_firsts.mp member).1 (same ▸ List.mem_cons_self)

/-- Every key of the list is kept. -/
theorem exists_firsts (member : x ∈ l) : ∃ y ∈ firsts key [] l, key y = key x := by
  cases found : l.find? fun y => key y = key x with
  | none => exact absurd (List.find?_eq_none.mp found x member) (by simp)
  | some y =>
    have same : key y = key x := by simpa using List.find?_some found
    exact ⟨y, mem_firsts.mpr ⟨List.not_mem_nil, same ▸ found⟩, same⟩

end Firsts

/-! ## Joining two lists -/

section Merge
variable [DecidableEq κ] [DecidableEq α] {additions merged : List α}

/-- Records of new keys go behind those of a list; a record whose key is taken must be the
record that has it. -/
def merge (key : α → κ) : List α → List α → Option (List α)
  | l, [] => some l
  | l, x :: rest =>
    match l.reverse.find? fun y => key y = key x with
    | none => merge key (l ++ [x]) rest
    | some y => if y = x then merge key l rest else none

theorem merge_some (done : merge key l additions = some merged) :
    l <+: merged ∧ (∀ x ∈ merged, x ∈ l ∨ x ∈ additions) ∧ (∀ x ∈ additions, x ∈ merged) ∧
      merged.length ≤ l.length + additions.length := by
  induction additions generalizing l with
  | nil =>
    cases done
    simp
  | cons x rest ih =>
    rw [merge] at done
    split at done
    · obtain ⟨before, within, taken, size⟩ := ih done
      refine ⟨(List.prefix_append _ _).trans before, ?_, ?_, ?_⟩
      · intro y member
        rcases within y member with old | new
        · rcases List.mem_append.mp old with old | last
          · exact .inl old
          · exact .inr (List.mem_cons.mpr (.inl (List.mem_singleton.mp last)))
        · exact .inr (List.mem_cons_of_mem _ new)
      · intro y member
        rcases List.mem_cons.mp member with rfl | later
        · exact before.subset (List.mem_append_right _ (List.mem_singleton_self _))
        · exact taken y later
      · simp only [List.length_append, List.length_cons, List.length_nil] at size ⊢
        omega
    next y found =>
      split at done
      next same =>
        obtain ⟨before, within, taken, size⟩ := ih done
        refine ⟨before, fun z member => (within z member).imp_right (List.mem_cons_of_mem _),
          ?_, ?_⟩
        · intro z member
          rcases List.mem_cons.mp member with rfl | later
          · exact before.subset (same ▸ List.mem_reverse.mp (List.mem_of_find?_eq_some found))
          · exact taken z later
        · simp only [List.length_cons]
          omega
      · cases done

theorem merge_nodup (unique : (l.map key).Nodup) (done : merge key l additions = some merged) :
    (merged.map key).Nodup := by
  induction additions generalizing l with
  | nil =>
    cases done
    exact unique
  | cons x rest ih =>
    rw [merge] at done
    split at done
    next fresh =>
      refine ih (nodup_snoc unique fun y member same => ?_) done
      simpa [same] using List.find?_eq_none.mp fresh y (List.mem_reverse.mpr member)
    · split at done
      · exact ih unique done
      · cases done

end Merge
end KeyedList
