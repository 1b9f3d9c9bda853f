import Pathfinder.Resume.Edits

/-!
# One patch, and a list of patches

What an accepted patch does, said once: it finds an item, keeps the others, and
rewrites one field or removes the item with what it owns. From this, by
induction, what an accepted list leaves: an item stays unless a patch removes it
or its project, and a field holds what the last patch on it stored.
-/
namespace Pathfinder
variable {chars : CharacterTables}

namespace PatchOperation

/-- The items an operation on `itemId` leaves as they are. -/
def keeps (itemId : UUID) (item : Item) : PatchOperation → Prop
  | remove => item.id ≠ itemId ∧ item.owner ≠ some itemId
  | move _ => True
  | replaceText _ _ _ | replaceItems _ _ _ | emphasize _ _ => item.id ≠ itemId

/-- The item an operation stores in the place of `item`. -/
def rewrite (item : Item) : PatchOperation → Option Item
  | replaceText field text _ => some (item.write field (.styled ⟨text, []⟩))
  | replaceItems field items _ => some (item.write field (.items items))
  | emphasize field emphasis =>
    match item.fields field with
    | some (.styled old) => some (item.write field (.styled { old with emphasis := emphasis }))
    | _ => none
  | remove | move _ => none

/-- The checks a replacement has passed. -/
def accepts (chars : CharacterTables) (factClaims : UUID → Option FactClaim) (item : Item) :
    PatchOperation → Prop
  | replaceText field text facts => facts ≠ [] ∧ ∃ old, item.fields field = some (.styled old) ∧
      requireSupported chars factClaims facts old.text text = .ok ()
  | replaceItems field items facts => facts ≠ [] ∧ ∃ old, item.fields field = some (.items old) ∧
      requireSupported chars factClaims facts (joinSpaces old) (joinSpaces items) = .ok ()
  | emphasize field _ => ∃ old, item.fields field = some (.styled old)
  | remove | move _ => True

end PatchOperation

/-- What one accepted patch does to a content whose items are told apart. -/
structure PatchStep (permittedFactIds : List UUID) (factClaims : UUID → Option FactClaim)
    (before after : ResumeContent) (patch : PatchV1 chars) (item : Item) : Prop where
  found : item ∈ before.items
  target : item.id = patch.itemId
  permitted : ∀ id ∈ patch.operation.factVersionIds, id ∈ permittedFactIds
  accepted : patch.operation.accepts chars factClaims item
  edited : Edited before.items after.items
    (fun other => patch.operation.keeps patch.itemId other) (patch.operation.rewrite item)
  ids : (after.items.map Item.id).Subperm (before.items.map Item.id)
  personalIds : after.personalIds = before.personalIds
  displayName : after.displayName = before.displayName
  contact : after.contact = before.contact

namespace Location

theorem item_fields (location : Location) : location.item.fields = location.field? := by
  cases location <;> rfl

theorem write_personal (location : Location) (data : ResumeContent) (field : PatchField)
    (value : FieldValue) : (location.write data field value).displayNameId = data.displayNameId ∧
      (location.write data field value).displayName = data.displayName ∧
      (location.write data field value).contact = data.contact := by
  cases location <;> exact ⟨rfl, rfl, rfl⟩

theorem remove_personal (location : Location) (data : ResumeContent) :
    (location.remove data).displayNameId = data.displayNameId ∧
      (location.remove data).displayName = data.displayName ∧
      (location.remove data).contact = data.contact := by
  cases location <;> exact ⟨rfl, rfl, rfl⟩

theorem move_personal (location : Location) (data : ResumeContent) (target : Nat) :
    (location.move data target).displayNameId = data.displayNameId ∧
      (location.move data target).displayName = data.displayName ∧
      (location.move data target).contact = data.contact := by
  cases location <;> exact ⟨rfl, rfl, rfl⟩

/-- A listed field holds a list. -/
theorem field?_listed {location : Location} {field : PatchField} {old : FieldValue}
    (held : location.field? field = some old) (listed : field.listed = true) :
    ∃ values, old = .items values := by
  cases field <;> simp only [PatchField.listed, Bool.false_eq_true] at listed
  all_goals
    cases location <;> cases held
    exact ⟨_, rfl⟩

end Location

/-- What `replacement` stores is of the old kind, and is what `rewrite` says. -/
theorem replaceText_ok {factClaims : UUID → Option FactClaim} {field : PatchField} {text : Text}
    {facts : List UUID} {location : Location} {old stored : FieldValue}
    (held : location.field? field = some old)
    (ran : replacement chars factClaims old (.replaceText field text facts) =
      .ok stored) :
    old.sameKind stored ∧ (PatchOperation.replaceText field text facts).rewrite location.item =
        some (location.item.write field stored) ∧
      (PatchOperation.replaceText field text facts).accepts chars factClaims location.item := by
  simp only [replacement] at ran
  split at ran
  · cases ran
  next checked =>
    cases old with
    | styled styled =>
      simp only at ran
      split at ran
      · cases ran
      next cited =>
        cases ran
        exact ⟨trivial, rfl, cited, styled, by rw [location.item_fields, held], checked⟩
    | label value => cases ran
    | items values => cases ran

theorem replaceItems_ok {factClaims : UUID → Option FactClaim} {field : PatchField}
    {items : List Text} {facts : List UUID} (listed : field.listed = true) {location : Location}
    {old stored : FieldValue} (held : location.field? field = some old)
    (ran : replacement chars factClaims old (.replaceItems field items facts) =
      .ok stored) :
    old.sameKind stored ∧ (PatchOperation.replaceItems field items facts).rewrite location.item =
        some (location.item.write field stored) ∧
      (PatchOperation.replaceItems field items facts).accepts chars factClaims location.item := by
  obtain ⟨values, rfl⟩ := Location.field?_listed held listed
  simp only [replacement] at ran
  split at ran
  · cases ran
  next checked =>
    split at ran
    · cases ran
    next cited =>
      cases ran
      exact ⟨trivial, rfl, cited, values, by rw [location.item_fields, held], checked⟩

theorem emphasize_ok {factClaims : UUID → Option FactClaim} {field : PatchField}
    {emphasis : List EmphasisSpanV1} {location : Location} {old stored : FieldValue}
    (held : location.field? field = some old)
    (ran : replacement chars factClaims old (.emphasize field emphasis) = .ok stored) :
    old.sameKind stored ∧ (PatchOperation.emphasize field emphasis).rewrite location.item =
        some (location.item.write field stored) ∧
      (PatchOperation.emphasize field emphasis).accepts chars factClaims location.item := by
  have fields : location.item.fields field = some old := by rw [location.item_fields, held]
  cases old with
  | styled styled =>
    cases ran
    exact ⟨trivial, by simp [PatchOperation.rewrite, fields], styled, fields⟩
  | label value => cases ran
  | items values => cases ran

/-- A field operation that stored `stored` at a place. -/
theorem PatchStep.ofWrite {permittedFactIds : List UUID} {factClaims : UUID → Option FactClaim}
    {before : ResumeContent} {patch : PatchV1 chars} {location : Location} {field : PatchField}
    {old stored : FieldValue} (unique : (before.items.map Item.id).Nodup)
    (place : location.At before patch.itemId)
    (bound : ∀ id ∈ patch.operation.factVersionIds, id ∈ permittedFactIds)
    (held : location.field? field = some old)
    (keeps : ∀ other, patch.operation.keeps patch.itemId other ↔ other.id ≠ patch.itemId)
    (result : old.sameKind stored ∧
      patch.operation.rewrite location.item = some (location.item.write field stored) ∧
      patch.operation.accepts chars factClaims location.item) :
    PatchStep permittedFactIds factClaims before (location.write before field stored) patch
      location.item := by
  obtain ⟨kind, rewritten, accepted⟩ := result
  obtain ⟨nameId, name, contact⟩ := location.write_personal before field stored
  refine ⟨place.item_mem, place.item_id, bound, accepted, ?_, place.write_ids field stored, ?_,
    name, contact⟩
  · rw [rewritten]
    exact (place.write_edited unique held kind).congr fun other _ => (keeps other).symm
  · rw [ResumeContent.personalIds, nameId, contact, ResumeContent.personalIds]

/-- What an accepted patch does. -/
theorem applyPatch_ok {preferences : ResumePreferencesV1 chars} {permittedFactIds : List UUID}
    {factClaims : UUID → Option FactClaim} {before after : ResumeContent}
    {patch : PatchV1 chars} {change : Change} (unique : (before.items.map Item.id).Nodup)
    (ran : applyPatch preferences permittedFactIds factClaims before patch = .ok (after, change)) :
    ∃ item, PatchStep permittedFactIds factClaims before after patch item := by
  unfold applyPatch at ran
  simp only at ran
  split at ran
  · cases ran
  next permitted =>
  have bound : ∀ id ∈ patch.operation.factVersionIds, id ∈ permittedFactIds := by
    simpa using permitted
  split at ran
  · cases ran
  next location found =>
  have place := locate_at found
  refine ⟨location.item, ?_⟩
  split at ran
  · cases ran
  split at ran
  · cases ran
  obtain ⟨itemId, operation, shape⟩ := patch
  cases operation with
  | remove =>
    cases ran
    obtain ⟨nameId, name, contact⟩ := location.remove_personal before
    refine ⟨place.item_mem, place.item_id, bound, trivial, place.remove_edited unique,
      place.remove_ids, ?_, name, contact⟩
    rw [ResumeContent.personalIds, nameId, contact, ResumeContent.personalIds]
  | move position =>
    simp only at ran
    split at ran
    · cases ran
    next inside =>
    cases ran
    obtain ⟨nameId, name, contact⟩ := location.move_personal before position
    refine ⟨place.item_mem, place.item_id, bound, trivial,
      place.move_edited unique (Nat.lt_of_not_le inside),
      place.move_ids (Nat.lt_of_not_le inside), ?_, name, contact⟩
    rw [ResumeContent.personalIds, nameId, contact, ResumeContent.personalIds]
  | replaceText field text facts =>
    simp only at ran
    split at ran
    · cases ran
    next old held =>
    obtain ⟨stored, replaced, same⟩ := map_ok ran
    cases same
    exact .ofWrite unique place bound held (fun _ => Iff.rfl) (replaceText_ok held replaced)
  | replaceItems field items facts =>
    simp only at ran
    split at ran
    · cases ran
    next old held =>
    obtain ⟨stored, replaced, same⟩ := map_ok ran
    cases same
    have listed : field.listed = true := by
      simp only [PatchOperation.valid, Bool.and_eq_true] at shape
      exact shape.1.1.1
    exact .ofWrite unique place bound held (fun _ => Iff.rfl)
      (replaceItems_ok listed held replaced)
  | emphasize field emphasis =>
    simp only at ran
    split at ran
    · cases ran
    next old held =>
    obtain ⟨stored, replaced, same⟩ := map_ok ran
    cases same
    exact .ofWrite unique place bound held (fun _ => Iff.rfl) (emphasize_ok held replaced)

/-! ## What stays of an item -/

/-- The patch takes the item with this id out. -/
def PatchV1.removes (patch : PatchV1 chars) (id : UUID) : Prop :=
  patch.operation = .remove ∧ patch.itemId = id

instance (patch : PatchV1 chars) (id : UUID) : Decidable (patch.removes id) :=
  inferInstanceAs (Decidable (_ ∧ _))

/-- No patch of the list takes the item, or the project that owns it, out. -/
def Spared (patches : List (PatchV1 chars)) (item : Item) : Prop :=
  ∀ patch ∈ patches, ¬ patch.removes item.id ∧ ∀ owner, item.owner = some owner →
    ¬ patch.removes owner

/-- Sparing looks at an item's identity and owner only. -/
theorem Spared.of_same {patches : List (PatchV1 chars)} {first second : Item}
    (same : first.Same second) (spared : Spared patches first) : Spared patches second := by
  intro patch member
  have here := spared patch member
  rwa [same.id, same.owner] at here

section Step
variable {permittedFactIds : List UUID} {factClaims : UUID → Option FactClaim}
  {before after : ResumeContent} {patch : PatchV1 chars} {item : Item}

/-- A rewritten item is the item it was. -/
theorem PatchOperation.rewrite_same {operation : PatchOperation} {item new : Item}
    (accepted : operation.accepts chars factClaims item)
    (rewritten : operation.rewrite item = some new) : new.Same item := by
  cases operation with
  | replaceText field text facts =>
    obtain ⟨-, old, held, -⟩ := accepted
    cases rewritten
    exact Item.write_same (by simp [held]) _
  | replaceItems field items facts =>
    obtain ⟨-, old, held, -⟩ := accepted
    cases rewritten
    exact Item.write_same (by simp [held]) _
  | remove => cases rewritten
  | move position => cases rewritten
  | emphasize field emphasis =>
    obtain ⟨old, held⟩ := accepted
    simp only [rewrite, held] at rewritten
    cases rewritten
    exact Item.write_same (by simp [held]) _

/-- A removal stores nothing in the place of what it takes out. -/
theorem PatchOperation.rewrite_remove {operation : PatchOperation} {item new : Item}
    (rewritten : operation.rewrite item = some new) : operation ≠ .remove := by
  rintro rfl
  cases rewritten

/-- An item of the edited content comes from one that was not taken out. -/
theorem PatchStep.survivor (step : PatchStep permittedFactIds factClaims before after patch item)
    {survivor : Item} (stays : survivor ∈ after.items) :
    ∃ origin ∈ before.items, origin.Same survivor ∧ Spared [patch] survivor := by
  rcases (step.edited survivor).mp stays with fresh | ⟨old, kept⟩
  · have same := PatchOperation.rewrite_same step.accepted fresh
    have notRemove := PatchOperation.rewrite_remove fresh
    refine ⟨item, step.found, same.symm, ?_⟩
    intro other member
    cases List.mem_singleton.mp member
    exact ⟨fun removes => notRemove removes.1, fun _ _ removes => notRemove removes.1⟩
  · refine ⟨survivor, old, Item.Same.refl survivor, ?_⟩
    intro other member
    cases List.mem_singleton.mp member
    constructor
    · rintro ⟨isRemove, same⟩
      rw [isRemove] at kept
      exact kept.1 same.symm
    · rintro owner owned ⟨isRemove, same⟩
      rw [isRemove] at kept
      exact kept.2 (owned.trans (congrArg some same.symm))

/-- An item that a patch does not take out is in the edited content. -/
theorem PatchStep.stays (step : PatchStep permittedFactIds factClaims before after patch item)
    (unique : (before.items.map Item.id).Nodup) {origin : Item} (old : origin ∈ before.items)
    (spared : Spared [patch] origin) :
    ∃ survivor ∈ after.items, survivor.Same origin := by
  obtain ⟨notTaken, ownerStays⟩ := spared patch (List.mem_singleton.mpr rfl)
  by_cases kept : patch.operation.keeps patch.itemId origin
  · exact ⟨origin, (step.edited origin).mpr (.inr ⟨old, kept⟩), Item.Same.refl origin⟩
  · have target : origin.id = patch.itemId ∧ patch.operation ≠ .remove := by
      cases op : patch.operation with
      | remove =>
        rw [op] at kept
        refine absurd ?_ kept
        exact ⟨fun same => notTaken ⟨op, same.symm⟩, fun owned => ownerStays _ owned ⟨op, rfl⟩⟩
      | move position => exact absurd (by rw [op]; trivial) kept
      | replaceText field text facts =>
        rw [op] at kept
        exact ⟨not_not.mp kept, by simp⟩
      | replaceItems field items facts =>
        rw [op] at kept
        exact ⟨not_not.mp kept, by simp⟩
      | emphasize field emphasis =>
        rw [op] at kept
        exact ⟨not_not.mp kept, by simp⟩
    have same : origin = item :=
      KeyedList.eq_of_key unique old step.found (target.1.trans step.target.symm)
    subst same
    cases rewritten : patch.operation.rewrite origin with
    | some new =>
      exact ⟨new, (step.edited new).mpr (.inl rewritten),
        PatchOperation.rewrite_same step.accepted rewritten⟩
    | none =>
      exfalso
      have accepted := step.accepted
      cases op : patch.operation with
      | remove => exact target.2 op
      | move position => exact kept (by rw [op]; trivial)
      | replaceText field text facts => rw [op] at rewritten; cases rewritten
      | replaceItems field items facts => rw [op] at rewritten; cases rewritten
      | emphasize field emphasis =>
        rw [op] at rewritten accepted
        obtain ⟨old, held⟩ := accepted
        simp [PatchOperation.rewrite, held] at rewritten

end Step

/-- A list of accepted patches, one after the other. -/
inductive Applied (permittedFactIds : List UUID) (factClaims : UUID → Option FactClaim) :
    ResumeContent → List (PatchV1 chars) → ResumeContent → Prop
  | nil (data : ResumeContent) : Applied permittedFactIds factClaims data [] data
  | cons {before between after : ResumeContent} {patch : PatchV1 chars}
      {rest : List (PatchV1 chars)} {item : Item}
      (step : PatchStep permittedFactIds factClaims before between patch item)
      (later : Applied permittedFactIds factClaims between rest after) :
      Applied permittedFactIds factClaims before (patch :: rest) after

theorem PatchStep.unique {permittedFactIds : List UUID} {factClaims : UUID → Option FactClaim}
    {before after : ResumeContent} {patch : PatchV1 chars} {item : Item}
    (step : PatchStep permittedFactIds factClaims before after patch item)
    (distinct : (before.items.map Item.id).Nodup) : (after.items.map Item.id).Nodup := by
  obtain ⟨part, same, sub⟩ := step.ids
  exact same.nodup_iff.mp (sub.nodup distinct)

/-- The loop over `patches` takes accepted steps only. -/
theorem applyPatches_ok {preferences : ResumePreferencesV1 chars} {permittedFactIds : List UUID}
    {factClaims : UUID → Option FactClaim} {patches : List (PatchV1 chars)}
    {before after : ResumeContent} {changes : List Change}
    (unique : (before.items.map Item.id).Nodup)
    (ran : applyPatches preferences permittedFactIds factClaims before patches =
      .ok (after, changes)) : Applied permittedFactIds factClaims before patches after := by
  induction patches generalizing before changes with
  | nil =>
    cases ran
    exact .nil _
  | cons patch rest ih =>
    simp only [applyPatches] at ran
    split at ran
    · cases ran
    next edited change first =>
    obtain ⟨item, step⟩ := applyPatch_ok unique first
    obtain ⟨⟨final, others⟩, ranRest, same⟩ := map_ok ran
    cases same
    exact .cons step (ih (step.unique unique) ranRest)

namespace Applied
variable {permittedFactIds : List UUID} {factClaims : UUID → Option FactClaim}
  {before after : ResumeContent} {patches : List (PatchV1 chars)}

theorem ids (applied : Applied permittedFactIds factClaims before patches after) :
    (after.items.map Item.id).Subperm (before.items.map Item.id) := by
  induction applied with
  | nil data => exact List.Subperm.refl _
  | cons step _ ih => exact ih.trans step.ids

theorem personal (applied : Applied permittedFactIds factClaims before patches after) :
    after.personalIds = before.personalIds ∧ after.displayName = before.displayName ∧
      after.contact = before.contact := by
  induction applied with
  | nil data => exact ⟨rfl, rfl, rfl⟩
  | cons step _ ih =>
    exact ⟨ih.1.trans step.personalIds, ih.2.1.trans step.displayName, ih.2.2.trans step.contact⟩

theorem unique (applied : Applied permittedFactIds factClaims before patches after)
    (distinct : (before.items.map Item.id).Nodup) : (after.items.map Item.id).Nodup := by
  obtain ⟨part, same, sub⟩ := applied.ids
  exact same.nodup_iff.mp (sub.nodup distinct)

theorem append_split {first second : List (PatchV1 chars)}
    (applied : Applied permittedFactIds factClaims before (first ++ second) after) :
    ∃ between, Applied permittedFactIds factClaims before first between ∧
      Applied permittedFactIds factClaims between second after := by
  induction first generalizing before with
  | nil => exact ⟨before, .nil _, applied⟩
  | cons patch rest ih =>
    cases applied with
    | cons step later =>
      obtain ⟨between, left, right⟩ := ih later
      exact ⟨between, .cons step left, right⟩

theorem survivor (applied : Applied permittedFactIds factClaims before patches after)
    (distinct : (before.items.map Item.id).Nodup) {survivor : Item}
    (stays : survivor ∈ after.items) :
    ∃ origin ∈ before.items, origin.Same survivor ∧ Spared patches survivor := by
  induction applied with
  | nil data => exact ⟨survivor, stays, Item.Same.refl survivor, by simp [Spared]⟩
  | cons step _ ih =>
    obtain ⟨middle, between, same, laterSpared⟩ := ih (step.unique distinct) stays
    obtain ⟨origin, old, before, spared⟩ := step.survivor between
    refine ⟨origin, old, before.trans same, ?_⟩
    intro patch member
    rcases List.mem_cons.mp member with rfl | member
    · exact Spared.of_same same spared patch (List.mem_singleton.mpr rfl)
    · exact laterSpared patch member

theorem stays (applied : Applied permittedFactIds factClaims before patches after)
    (distinct : (before.items.map Item.id).Nodup) {origin : Item} (old : origin ∈ before.items)
    (spared : Spared patches origin) : ∃ survivor ∈ after.items, survivor.Same origin := by
  induction applied generalizing origin with
  | nil data => exact ⟨origin, old, Item.Same.refl origin⟩
  | cons step _ ih =>
    obtain ⟨middle, between, same⟩ := step.stays distinct old
      (fun patch member => spared patch (by simp [List.mem_singleton.mp member]))
    have later := fun patch member => spared patch (List.mem_cons_of_mem _ member)
    obtain ⟨survivor, final, last⟩ := ih (step.unique distinct) between
      (Spared.of_same same.symm later)
    exact ⟨survivor, final, last.trans same⟩

end Applied
end Pathfinder
