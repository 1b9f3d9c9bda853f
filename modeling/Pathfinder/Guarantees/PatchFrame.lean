import Pathfinder.Guarantees.AttributionExact
import Pathfinder.Resume.Frame
import Pathfinder.Resume.InPlace

/-!
# What accepted patches leave alone

`apply_scoped_patches` on the two lists of bullets it edits by index: what is targeted
changes as the patches say, and everything else stays, in its order and under its id.
-/
namespace Pathfinder
variable {chars : CharacterTables}

/-- The frame of an accepted list of patches. -/
structure PatchFrame (original updated : ResumeContent) (patches : List (PatchV1 chars))
    (lockedItemIds : List UUID) : Prop where
  /-- The fields of an item hold what they held, with the patches on it applied. -/
  values : ∀ item ∈ updated.items, ∃ origin ∈ original.items, origin.id = item.id ∧
    origin.owner = item.owner ∧
      ∀ field, item.fields field = valueAfter patches item.id field (origin.fields field)
  unwritten : ∀ item ∈ updated.items, ∀ origin ∈ original.items, origin.id = item.id →
    ∀ field, (∀ patch ∈ patches, patch.writes item.id field = false) →
      item.fields field = origin.fields field
  marks : updated.marks ⊆ original.marks
  personal : updated.personal = original.personal
  order : ∀ group, (updated.group group).filter (unmoved patches) =
    (original.group group).filter fun id => unmoved patches id && !takenOut patches group id
  distinct : updated.itemIds.Nodup
  ids : ∀ id, id ∈ updated.itemIds ↔ id ∈ original.itemIds ∧ ¬ RemovedFrom original patches id
  locked : ∀ id ∈ lockedItemIds, ∀ value,
    (id, value) ∈ lockedEntries updated ↔ (id, value) ∈ lockedEntries original

theorem applyScopedPatches_placed {original content : ResumeContentV1}
    {patches : List (PatchV1 chars)} {targets : List UUID}
    {preferences : ResumePreferencesV1 chars} {permitted : List UUID}
    {claims : UUID → Option FactClaim} {diff : RevisionDiff}
    (ran : applyScopedPatches original patches targets preferences permitted claims =
      .ok (content, diff)) :
    PlacedRun original.data patches content.data ∧
      requireLockedItemsUnchanged original.data content.data preferences = .ok () := by
  unfold applyScopedPatches at ran
  split at ran
  · cases ran
  split at ran
  · cases ran
  next data changes applied =>
  split at ran
  · cases ran
  next updated validated =>
  split at ran
  · cases ran
  next unchanged =>
  split at ran
  · cases ran
  cases ran
  unfold ResumeContentV1.modelValidate at validated
  split at validated
  · cases validated
    exact ⟨applyPatches_placed applied, unchanged⟩
  · cases validated

/-- Whatever is accepted leaves the rest of the content alone. -/
theorem scoped_patches_frame {original content : ResumeContentV1}
    (distinct : original.data.itemIds.Nodup) {patches : List (PatchV1 chars)}
    {targets : List UUID} {preferences : ResumePreferencesV1 chars} {permitted : List UUID}
    {claims : UUID → Option FactClaim} {diff : RevisionDiff}
    (ran : applyScopedPatchesInPlace original patches targets preferences permitted claims =
      .ok (content, diff)) :
    PatchFrame original.data content.data patches preferences.values.lockedItemIds := by
  rw [applyScopedPatchesInPlace_eq] at ran
  have unique := ResumeContent.items_unique distinct
  have applied := (applyScopedPatches_ok unique ran).2
  obtain ⟨placed, unchanged⟩ := applyScopedPatches_placed ran
  have distinctAfter := applied.itemIds distinct
  refine ⟨fun item stays => applied.values stays, fun item stays origin old same field silent => ?_,
    placed.marks, placed.personal, fun group => placed.group unique group fun _ => id,
    distinctAfter, applied.itemIds_iff distinct, fun id locked value => ?_⟩
  · obtain ⟨other, stored, id, -, held⟩ := applied.values stays
    have equal := KeyedList.eq_of_key unique stored old (id.trans same.symm)
    rw [held field, valueAfter_unwritten silent, equal]
  · rw [← lockedValue_eq distinctAfter, ← lockedValue_eq distinct,
      requireLockedItemsUnchanged_items unchanged id locked]

/-! ## A bullet moved, one reworded, a project taken out -/

namespace Sample

def threeBullets : ProjectEntry :=
  { sampleProject 20 11 "Cut latency by 40%" with
    bullets := [⟨51, plainText "Cut latency by 40%"⟩, ⟨52, plainText "Built the index"⟩,
      ⟨53, plainText "Wrote the docs"⟩] }

def framedContent : ResumeContentV1 :=
  ⟨sampleResume [threeBullets, sampleProject 30 12 "Built the index"], by decide⟩

def framingPatches : List (PatchV1 asciiTables) :=
  [⟨53, .move 0, rfl⟩, ⟨52, .replaceText .bullet "Served 9 teams".toList [13], by decide⟩,
    ⟨30, .remove, rfl⟩]

def framedProject : ProjectEntry :=
  { threeBullets with
    bullets := [⟨53, plainText "Wrote the docs"⟩, ⟨51, plainText "Cut latency by 40%"⟩,
      ⟨52, plainText "Served 9 teams"⟩] }

def framedResult : ResumeContentV1 := ⟨sampleResume [framedProject], by decide⟩

end Sample

theorem scoped_patches_framed :
    PatchFrame Sample.framedContent.data Sample.framedResult.data Sample.framingPatches [] :=
  have ran : applyScopedPatchesInPlace Sample.framedContent Sample.framingPatches [30, 52, 53]
      samplePreferences [11, 12, 13] sampleFacts = .ok (Sample.framedResult, _) := rfl
  scoped_patches_frame (by decide) ran

end Pathfinder
