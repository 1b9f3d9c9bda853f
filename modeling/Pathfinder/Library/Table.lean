import Mathlib.Data.List.Basic
import Mathlib.Data.List.Nodup
import Mathlib.Logic.Function.Basic

/-!
# Keyed tables

A finite table indexed by a primary key: the keys in insertion order, and the
row stored under each. The two halves agree by construction, so a scan visits
every row exactly once. Nothing here depends on what the rows are.
-/
namespace KeyedTable

universe u v

structure Table (κ : Type u) (α : Type v) where
  keys : List κ
  get : κ → Option α
  nodup : keys.Nodup
  mem_keys : ∀ k, k ∈ keys ↔ (get k).isSome

namespace Table
variable {κ : Type u} {α : Type v}

def empty : Table κ α := ⟨[], fun _ => none, List.nodup_nil, by simp⟩

@[simp] theorem empty_get (k : κ) : (empty : Table κ α).get k = none := rfl

/-- Rows with their keys, in insertion order. -/
def scan (t : Table κ α) : List (κ × α) :=
  t.keys.filterMap fun k => (t.get k).map fun a => (k, a)

theorem mem_scan (t : Table κ α) (k : κ) (a : α) : (k, a) ∈ t.scan ↔ t.get k = some a := by
  simp only [scan, List.mem_filterMap, Option.map_eq_some_iff, Prod.mk.injEq]
  constructor
  · rintro ⟨k', -, a', found, rfl, rfl⟩
    exact found
  · intro found
    exact ⟨k, (t.mem_keys k).mpr (by simp [found]), a, found, rfl, rfl⟩

theorem scan_keys_nodup (t : Table κ α) : (t.scan.map Prod.fst).Nodup := by
  have keys_of_scan : ∀ ks : List κ,
      ((ks.filterMap fun k => (t.get k).map fun a => (k, a)).map Prod.fst).Sublist ks := by
    intro ks
    induction ks with
    | nil => simp
    | cons k ks ih =>
      cases found : t.get k with
      | none => simpa [List.filterMap_cons, found] using ih.cons k
      | some a => simpa [List.filterMap_cons, found] using ih
  exact (keys_of_scan t.keys).nodup t.nodup

/-- Selecting rows is counting the keys they are stored under. -/
theorem length_filter_scan (t : Table κ α) (p : α → Bool) :
    ((t.scan.map Prod.snd).filter p).length = t.keys.countP fun k => (t.get k).any p := by
  have along : ∀ ks : List κ,
      (((ks.filterMap fun k => (t.get k).map fun a => (k, a)).map Prod.snd).filter p).length =
        ks.countP fun k => (t.get k).any p := by
    intro ks
    induction ks with
    | nil => rfl
    | cons k ks ih =>
      cases found : t.get k with
      | none => simpa [List.filterMap_cons, List.countP_cons, found] using ih
      | some a =>
        cases selected : p a with
        | true => simpa [List.filterMap_cons, List.countP_cons, found, selected] using ih
        | false => simpa [List.filterMap_cons, List.countP_cons, found, selected] using ih
  exact along t.keys

/-- The first row, in insertion order, that satisfies `p`. -/
def find? (t : Table κ α) (p : α → Bool) : Option (κ × α) := t.scan.find? fun entry => p entry.2

theorem find?_some {t : Table κ α} {p : α → Bool} {k : κ} {a : α}
    (found : t.find? p = some (k, a)) : t.get k = some a ∧ p a = true := by
  have accepted := List.find?_some found
  exact ⟨(t.mem_scan k a).mp (List.mem_of_find?_eq_some found), accepted⟩

theorem find?_none {t : Table κ α} {p : α → Bool} (absent : t.find? p = none) {k : κ} {a : α}
    (stored : t.get k = some a) : p a = false := by
  have visited := List.find?_eq_none.mp absent (k, a) ((t.mem_scan k a).mpr stored)
  simpa using visited

/-- Every row satisfies `p`. -/
def all (t : Table κ α) (p : α → Bool) : Bool := t.scan.all fun entry => p entry.2

theorem all_iff (t : Table κ α) (p : α → Bool) :
    t.all p = true ↔ ∀ k a, t.get k = some a → p a = true := by
  simp only [all, List.all_eq_true, Prod.forall, mem_scan]

/-- Some row satisfies `p`. -/
def any (t : Table κ α) (p : α → Bool) : Bool := t.scan.any fun entry => p entry.2

theorem any_iff (t : Table κ α) (p : α → Bool) :
    t.any p = true ↔ ∃ k a, t.get k = some a ∧ p a = true := by
  simp only [any, List.any_eq_true, Prod.exists, mem_scan]

section Put
variable [DecidableEq κ]

/-- Store `a` under `k`, replacing the row that is there; a new key goes last. -/
def put (t : Table κ α) (k : κ) (a : α) : Table κ α where
  keys := if (t.get k).isSome then t.keys else t.keys ++ [k]
  get := Function.update t.get k (some a)
  nodup := by
    split
    · exact t.nodup
    next absent =>
      have outside : k ∉ t.keys := fun member => absent ((t.mem_keys k).mp member)
      exact List.Nodup.append t.nodup (List.nodup_singleton k)
        (by simpa [List.disjoint_singleton] using outside)
  mem_keys := by
    intro j
    by_cases same : j = k
    · subst same
      by_cases present : (t.get j).isSome
      · simp [present, t.mem_keys]
      · simp [present]
    · by_cases present : (t.get k).isSome
      · simp [present, same, t.mem_keys]
      · simp [present, same, t.mem_keys]

@[simp] theorem put_get_self (t : Table κ α) (k : κ) (a : α) : (t.put k a).get k = some a := by
  simp [put]

theorem put_get_of_ne (t : Table κ α) {k j : κ} (a : α) (different : j ≠ k) :
    (t.put k a).get j = t.get j := by
  simp [put, different]

theorem put_get (t : Table κ α) (k j : κ) (a : α) :
    (t.put k a).get j = if j = k then some a else t.get j := by
  by_cases same : j = k
  · simp [same]
  · simp [same, put_get_of_ne]

theorem put_keys_of_absent (t : Table κ α) {k : κ} (a : α) (absent : t.get k = none) :
    (t.put k a).keys = t.keys ++ [k] := by
  simp [put, absent]

theorem put_keys_of_present (t : Table κ α) {k : κ} (a : α) (present : (t.get k).isSome = true) :
    (t.put k a).keys = t.keys := by
  simp [put, present]

theorem keys_length_le_put (t : Table κ α) (k : κ) (a : α) :
    t.keys.length ≤ (t.put k a).keys.length := by
  simp only [put]
  split
  · exact Nat.le_refl _
  · simp

/-- A row that is replaced keeps its place. -/
theorem scan_put {t : Table κ α} {k : κ} {a : α} (stored : t.get k = some a) (b : α) :
    (t.put k b).scan = t.scan.map fun entry => if entry.1 = k then (k, b) else entry := by
  have keys : (t.put k b).keys = t.keys := t.put_keys_of_present b (by rw [stored]; rfl)
  rw [scan, scan, keys, List.map_filterMap]
  congr 1
  funext j
  by_cases same : j = k
  · subst same
    simp [stored]
  · rw [put_get_of_ne _ _ same]
    cases t.get j <;> simp [same]

/-- Writing a row back unchanged is no write at all. -/
theorem put_self (t : Table κ α) {k : κ} {a : α} (stored : t.get k = some a) :
    t.put k a = t := by
  have get_eq : Function.update t.get k (some a) = t.get := by
    rw [← stored]
    exact Function.update_eq_self k t.get
  cases t with
  | mk keys get nodup mem_keys =>
    simp only [put, mk.injEq]
    exact ⟨by simp at stored; simp [stored], get_eq⟩

/-- A property of all rows survives a write that has the property. -/
theorem forall_put {t : Table κ α} {P : κ → α → Prop} {k : κ} {a : α}
    (before : ∀ j b, t.get j = some b → P j b) (written : P k a) :
    ∀ j b, (t.put k a).get j = some b → P j b := by
  intro j b stored
  by_cases same : j = k
  · subst same
    have equal : a = b := by simpa using stored
    exact equal ▸ written
  · rw [put_get_of_ne t a same] at stored
    exact before j b stored

end Put
end Table
end KeyedTable
