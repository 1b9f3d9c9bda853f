import Mathlib.Data.List.Perm.Basic
import Pathfinder.Resume.Patches

/-!
# What a list of patches makes of a content

The order-free meaning of an accepted list: of the items of the base those stay
that no patch takes out, each rewritten by the patches that name it.
-/
namespace Pathfinder
variable {chars : CharacterTables}

/-- The item after a patch, if the patch rewrites it. -/
def Item.revisedBy (item : Item) (patch : PatchV1 chars) : Item :=
  if patch.itemId = item.id then (patch.operation.rewrite item).getD item else item

/-- The item after a list of patches, none of which takes it out. -/
def Item.revised (patches : List (PatchV1 chars)) (item : Item) : Item :=
  patches.foldl Item.revisedBy item

instance (patches : List (PatchV1 chars)) (item : Item) : Decidable (Spared patches item) :=
  inferInstanceAs (Decidable (∀ patch ∈ patches, ¬ patch.removes item.id ∧
    ∀ owner ∈ item.owner, ¬ patch.removes owner))

/-- The items that the patches leave, in the base's order. -/
def outcome (patches : List (PatchV1 chars)) (base : ResumeContent) : List Item :=
  (base.items.filter fun item => Spared patches item).map (Item.revised patches)

theorem Item.revisedBy_other {item : Item} {patch : PatchV1 chars}
    (other : patch.itemId ≠ item.id) : item.revisedBy patch = item := if_neg other

theorem Item.revisedBy_none {item : Item} {patch : PatchV1 chars}
    (quiet : patch.operation.rewrite item = none) : item.revisedBy patch = item := by
  simp [Item.revisedBy, quiet]

theorem Item.revisedBy_id (item : Item) (patch : PatchV1 chars) :
    (item.revisedBy patch).id = item.id := by
  unfold Item.revisedBy
  split
  · cases patch.operation with
    | replaceText field text facts => rfl
    | replaceItems field items facts => rfl
    | remove => rfl
    | move position => rfl
    | emphasize field emphasis =>
      simp only [PatchOperation.rewrite]
      split <;> rfl
  · rfl

theorem Item.revised_id (patches : List (PatchV1 chars)) (item : Item) :
    (item.revised patches).id = item.id := by
  induction patches generalizing item with
  | nil => rfl
  | cons patch rest ih => exact (ih (item.revisedBy patch)).trans (item.revisedBy_id patch)

section Step
variable {permitted : List UUID} {claims : UUID → Option FactClaim}
  {before after : ResumeContent} {patch : PatchV1 chars} {item : Item}

theorem spared_of_ne_remove (notRemove : patch.operation ≠ .remove) (other : Item) :
    Spared [patch] other := by
  intro same member
  obtain rfl := List.mem_singleton.mp member
  exact ⟨fun removes => notRemove removes.1, fun _ _ removes => notRemove removes.1⟩

/-- An item that the operation keeps is spared and not rewritten. -/
theorem keeps_spared {other : Item} (kept : patch.operation.keeps patch.itemId other) :
    Spared [patch] other ∧ other.revisedBy patch = other := by
  cases operation : patch.operation with
  | remove =>
    rw [operation] at kept
    refine ⟨?_, Item.revisedBy_none (by rw [operation]; rfl)⟩
    intro same member
    obtain rfl := List.mem_singleton.mp member
    refine ⟨fun removes => kept.1 removes.2.symm, fun owner owned removes => kept.2 ?_⟩
    rw [owned, removes.2]
  | move position =>
    exact ⟨spared_of_ne_remove (by simp [operation]) other,
      Item.revisedBy_none (by rw [operation]; rfl)⟩
  | replaceText field text facts =>
    rw [operation] at kept
    exact ⟨spared_of_ne_remove (by simp [operation]) other, Item.revisedBy_other (Ne.symm kept)⟩
  | replaceItems field items facts =>
    rw [operation] at kept
    exact ⟨spared_of_ne_remove (by simp [operation]) other, Item.revisedBy_other (Ne.symm kept)⟩
  | emphasize field emphasis =>
    rw [operation] at kept
    exact ⟨spared_of_ne_remove (by simp [operation]) other, Item.revisedBy_other (Ne.symm kept)⟩

/-- A spared item is kept, or it is the target and rewritten. -/
theorem spared_cases (step : PatchStep permitted claims before after patch item)
    (unique : (before.items.map Item.id).Nodup) {origin : Item} (present : origin ∈ before.items)
    (spared : Spared [patch] origin) :
    patch.operation.keeps patch.itemId origin ∨
      patch.operation.rewrite item = some (origin.revisedBy patch) := by
  obtain ⟨notTaken, ownerStays⟩ := spared patch (List.mem_singleton.mpr rfl)
  by_cases named : origin.id = patch.itemId
  · have same : origin = item :=
      KeyedList.eq_of_key unique present step.found (named.trans step.target.symm)
    subst same
    have accepted := step.accepted
    cases operation : patch.operation with
    | remove => exact absurd ⟨operation, named.symm⟩ notTaken
    | move position => exact .inl trivial
    | replaceText field text facts =>
      exact .inr (by simp [Item.revisedBy, named, operation, PatchOperation.rewrite])
    | replaceItems field items facts =>
      exact .inr (by simp [Item.revisedBy, named, operation, PatchOperation.rewrite])
    | emphasize field emphasis =>
      rw [operation] at accepted
      obtain ⟨old, held⟩ := accepted
      exact .inr (by simp [Item.revisedBy, named, operation, PatchOperation.rewrite, held])
  · refine .inl ?_
    cases operation : patch.operation with
    | remove => exact ⟨named, fun owned => ownerStays _ owned ⟨operation, rfl⟩⟩
    | move position => exact trivial
    | replaceText field text facts => exact named
    | replaceItems field items facts => exact named
    | emphasize field emphasis => exact named

/-- The items after a patch are the spared ones, revised. -/
theorem PatchStep.mem_items (step : PatchStep permitted claims before after patch item)
    (unique : (before.items.map Item.id).Nodup) (other : Item) :
    other ∈ after.items ↔
      ∃ origin ∈ before.items, Spared [patch] origin ∧ origin.revisedBy patch = other := by
  rw [step.edited other]
  constructor
  · rintro (fresh | ⟨present, kept⟩)
    · refine ⟨item, step.found,
        spared_of_ne_remove (PatchOperation.rewrite_remove fresh) item, ?_⟩
      simp [Item.revisedBy, step.target, fresh]
    · obtain ⟨spared, same⟩ := keeps_spared kept
      exact ⟨other, present, spared, same⟩
  · rintro ⟨origin, present, spared, rfl⟩
    rcases spared_cases step unique present spared with kept | rewritten
    · rw [(keeps_spared kept).2]
      exact .inr ⟨present, kept⟩
    · exact .inl rewritten

/-- Revising an item changes neither its identity nor its owner. -/
theorem PatchStep.revisedBy_same (step : PatchStep permitted claims before after patch item)
    (unique : (before.items.map Item.id).Nodup) {origin : Item} (present : origin ∈ before.items)
    (spared : Spared [patch] origin) : (origin.revisedBy patch).Same origin := by
  rcases spared_cases step unique present spared with kept | rewritten
  · rw [(keeps_spared kept).2]
    exact Item.Same.refl origin
  · have same := PatchOperation.rewrite_same step.accepted rewritten
    have target : origin = item :=
      KeyedList.eq_of_key unique present step.found (by rw [← same.id, Item.revisedBy_id])
    exact target ▸ same

end Step

theorem spared_cons {patch : PatchV1 chars} {rest : List (PatchV1 chars)} {item : Item} :
    Spared (patch :: rest) item ↔ Spared [patch] item ∧ Spared rest item := by
  simp [Spared]

namespace Applied
variable {permitted : List UUID} {claims : UUID → Option FactClaim}
  {before after : ResumeContent} {patches : List (PatchV1 chars)}

theorem mem_items (applied : Applied permitted claims before patches after)
    (unique : (before.items.map Item.id).Nodup) (other : Item) :
    other ∈ after.items ↔
      ∃ origin ∈ before.items, Spared patches origin ∧ origin.revised patches = other := by
  induction applied with
  | nil data => simp [Spared, Item.revised]
  | cons step later ih =>
    rw [ih (step.unique unique)]
    constructor
    · rintro ⟨middle, between, spared, rfl⟩
      obtain ⟨origin, present, first, rfl⟩ := (step.mem_items unique middle).mp between
      have same := step.revisedBy_same unique present first
      exact ⟨origin, present, spared_cons.mpr ⟨first, spared.of_same same⟩, rfl⟩
    · rintro ⟨origin, present, spared, rfl⟩
      obtain ⟨first, others⟩ := spared_cons.mp spared
      have same := step.revisedBy_same unique present first
      exact ⟨_, (step.mem_items unique _).mpr ⟨origin, present, first, rfl⟩,
        others.of_same same.symm, rfl⟩

/-- The items of the resulting content are the outcome, up to their order. -/
theorem items_perm (applied : Applied permitted claims before patches after)
    (unique : (before.items.map Item.id).Nodup) : after.items.Perm (outcome patches before) := by
  have ids : (outcome patches before).map Item.id =
      (before.items.filter fun item => Spared patches item).map Item.id := by
    simp [outcome, Function.comp_def, Item.revised_id]
  have kept : ((outcome patches before).map Item.id).Nodup := by
    rw [ids]
    exact unique.sublist (List.filter_sublist.map _)
  refine (List.perm_ext_iff_of_nodup (applied.unique unique).of_map kept.of_map).mpr fun other => ?_
  rw [applied.mem_items unique]
  simp [outcome, and_assoc]

end Applied
end Pathfinder
