import Mathlib.Data.List.Forall2
import Mathlib.Data.List.Nodup
import Mathlib.Data.List.Sort
import Mathlib.Order.Defs.LinearOrder

/-!
# Dictionaries in the order of insertion

A dictionary is the list of its entries. A value that is stored under a key that is there takes
the place of the value before.
-/
namespace Dictionaries

variable {κ ν μ : Type*} [DecidableEq κ]

def put (key : κ) (value : ν) : List (κ × ν) → List (κ × ν)
  | [] => [(key, value)]
  | entry :: rest => if entry.1 = key then (key, value) :: rest else entry :: put key value rest

/-- The dictionary that stores the entries one after the other. -/
def build (entries : List (κ × ν)) : List (κ × ν) :=
  entries.foldl (fun held entry => put entry.1 entry.2 held) []

/-- The entries with other values under their keys. -/
def mapValues (change : κ → ν → μ) (entries : List (κ × ν)) : List (κ × μ) :=
  entries.map fun entry => (entry.1, change entry.1 entry.2)

theorem put_mapValues (change : κ → ν → μ) (key : κ) (value : ν) (entries : List (κ × ν)) :
    put key (change key value) (mapValues change entries) =
      mapValues change (put key value entries) := by
  induction entries with
  | nil => rfl
  | cons entry rest ih =>
    simp only [mapValues, List.map_cons, put] at ih ⊢
    split
    · rfl
    · rw [ih, List.map_cons]

/-- What is stored may be changed before or after. -/
theorem build_mapValues (change : κ → ν → μ) (entries : List (κ × ν)) :
    build (mapValues change entries) = mapValues change (build entries) := by
  have fold : ∀ held : List (κ × ν),
      (mapValues change entries).foldl (fun held entry => put entry.1 entry.2 held)
          (mapValues change held) =
        mapValues change (entries.foldl (fun held entry => put entry.1 entry.2 held) held) := by
    induction entries with
    | nil => exact fun _ => rfl
    | cons entry rest ih =>
      intro held
      rw [List.foldl_cons, ← ih, ← put_mapValues]
      rfl
  exact fold []

section Related
variable {related : κ → ν → μ → Prop}

/-- Entries with one key and related values. -/
def Paired (related : κ → ν → μ → Prop) (entry : κ × ν) (other : κ × μ) : Prop :=
  entry.1 = other.1 ∧ related entry.1 entry.2 other.2

theorem put_related {key : κ} {value : ν} {value' : μ} (here : related key value value')
    {entries : List (κ × ν)} {others : List (κ × μ)}
    (each : List.Forall₂ (Paired related) entries others) :
    List.Forall₂ (Paired related) (put key value entries) (put key value' others) := by
  induction each with
  | nil => exact .cons ⟨rfl, here⟩ .nil
  | @cons entry other entries others first rest ih =>
    rw [put, put, ← first.1]
    split
    · exact .cons ⟨rfl, here⟩ rest
    · exact .cons first ih

theorem build_related {entries : List (κ × ν)} {others : List (κ × μ)}
    (each : List.Forall₂ (Paired related) entries others) :
    List.Forall₂ (Paired related) (build entries) (build others) := by
  have fold : ∀ {held : List (κ × ν)} {held' : List (κ × μ)},
      List.Forall₂ (Paired related) held held' →
      List.Forall₂ (Paired related)
        (entries.foldl (fun held entry => put entry.1 entry.2 held) held)
        (others.foldl (fun held entry => put entry.1 entry.2 held) held') := by
    induction each with
    | nil => exact id
    | @cons entry other entries others first rest ih =>
      intro held held' before
      obtain ⟨key, value⟩ := first
      rw [List.foldl_cons, List.foldl_cons, ← key]
      exact ih (put_related value before)
  exact fold .nil

end Related

/-! ## Distinct keys -/

section Distinct
variable {entries others : List (κ × ν)} {key : κ} {value value' : ν}

theorem put_new (fresh : key ∉ entries.map Prod.fst) :
    put key value entries = entries ++ [(key, value)] := by
  induction entries with
  | nil => rfl
  | cons entry rest ih =>
    rw [List.map_cons, List.mem_cons, not_or] at fresh
    rw [put, if_neg (Ne.symm fresh.1), ih fresh.2, List.cons_append]

/-- Entries with distinct keys are stored as they are. -/
theorem build_distinct (distinct : (entries.map Prod.fst).Nodup) : build entries = entries := by
  have fold : ∀ held : List (κ × ν), ((held ++ entries).map Prod.fst).Nodup →
      entries.foldl (fun held entry => put entry.1 entry.2 held) held = held ++ entries := by
    clear distinct
    induction entries with
    | nil => exact fun held _ => (List.append_nil held).symm
    | cons entry rest ih =>
      intro held distinct
      have fresh : entry.1 ∉ held.map Prod.fst := by
        intro taken
        rw [List.map_append, List.map_cons] at distinct
        exact List.disjoint_of_nodup_append distinct taken List.mem_cons_self
      rw [List.foldl_cons, put_new fresh, ih, List.append_assoc, List.singleton_append]
      rwa [List.append_assoc, List.singleton_append]
  exact fold [] distinct

end Distinct

/-! ## Sorted keys -/

section Sorted
variable [LinearOrder κ] {entries others : List (κ × ν)}

/-- The entries sorted by their keys. -/
def sortKeys (entries : List (κ × ν)) : List (κ × ν) :=
  entries.insertionSort fun first second => first.1 ≤ second.1

omit [DecidableEq κ] in
theorem sortKeys_perm (entries : List (κ × ν)) : (sortKeys entries).Perm entries :=
  List.perm_insertionSort _ _

omit [DecidableEq κ] in
theorem sortKeys_sorted (entries : List (κ × ν)) :
    (sortKeys entries).Pairwise fun first second => first.1 ≤ second.1 := by
  have total : Std.Total fun first second : κ × ν => first.1 ≤ second.1 :=
    ⟨fun first second => le_total first.1 second.1⟩
  have transitive : IsTrans (κ × ν) fun first second => first.1 ≤ second.1 :=
    ⟨fun _ _ _ => le_trans⟩
  exact List.pairwise_insertionSort _ entries

omit [DecidableEq κ] in
/-- Entries with distinct keys are sorted in one way, whatever their order was. -/
theorem sortKeys_eq_of_perm (distinct : (entries.map Prod.fst).Nodup)
    (same : entries.Perm others) : sortKeys entries = sortKeys others := by
  have perm := (sortKeys_perm entries).trans (same.trans (sortKeys_perm others).symm)
  refine perm.eq_of_pairwise (fun first second here there low high => ?_) (sortKeys_sorted _)
    (sortKeys_sorted _)
  exact List.inj_on_of_nodup_map distinct ((sortKeys_perm entries).mem_iff.mp here)
    (same.mem_iff.mpr ((sortKeys_perm others).mem_iff.mp there)) (le_antisymm low high)

end Sorted
end Dictionaries
