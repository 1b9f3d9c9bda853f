import Pathfinder.Resume.Lineage

/-!
# Attribution against citation

For an item that is present, the attribution of a field is the citation of its
last writer. What is attributed beside that are orphans: citations that the last
patch list stored for an item which the same list then took out with its project.
-/
namespace Pathfinder
open LastWriter
variable {chars : CharacterTables}

/-! ## Fields keep what they were cited for -/

/-- What a patch stores under a key it cites for the item it names. -/
theorem usesEffect_store {patch : PatchV1 chars} {key : FieldKey} {facts : List UUID}
    (stored : usesEffect patch key = .store facts) :
    patch.itemId = key.1 ∧ patch.cites key = some facts := by
  simp only [usesEffect, citationEffect] at stored
  split at stored
  · cases stored
  split at stored
  next cited =>
    cases stored
    exact ⟨(PatchV1.cites_some cited).1, cited⟩
  · cases stored

/-- A replaced field is a field of the rewritten item. -/
theorem PatchV1.cites_field {patch : PatchV1 chars} {key : FieldKey} {facts : List UUID}
    (cited : patch.cites key = some facts) {item new : Item}
    (rewritten : patch.operation.rewrite item = some new) : (new.fields key.2).isSome := by
  obtain ⟨itemId, operation, shape⟩ := patch
  cases operation with
  | remove => cases cited
  | move position => cases cited
  | emphasize field emphasis => cases cited
  | replaceText field text cites =>
    simp only [PatchV1.cites, Option.ite_none_right_eq_some] at cited
    obtain ⟨rfl, -⟩ := cited
    cases rewritten
    simp [Item.write]
  | replaceItems field items cites =>
    simp only [PatchV1.cites, Option.ite_none_right_eq_some] at cited
    obtain ⟨rfl, -⟩ := cited
    cases rewritten
    simp [Item.write]

/-- Every citation is of a field that its item, where present, has. -/
def FieldsHeld (content : ResumeContent) (held : FieldKey → Option (List UUID)) : Prop :=
  ∀ item ∈ content.items, ∀ field, (held (item.id, field)).isSome → (item.fields field).isSome

theorem PatchStep.fieldsHeld {permitted : List UUID} {claims : UUID → Option FactClaim}
    {before after : ResumeContent} {patch : PatchV1 chars} {item : Item}
    {held : FieldKey → Option (List UUID)}
    (step : PatchStep permitted claims before after patch item) (sound : FieldsHeld before held) :
    FieldsHeld after fun key => (citationEffect patch key).apply (held key) := by
  intro survivor stays field
  cases cited : patch.cites (survivor.id, field) with
  | none =>
    simp only [citationEffect, cited, Effect.apply]
    intro old
    rcases (step.edited survivor).mp stays with fresh | ⟨present, -⟩
    · have same := PatchOperation.rewrite_same step.accepted fresh
      rw [same.id] at old
      rw [same.fields field]
      exact sound item step.found field old
    · exact sound survivor present field old
  | some facts =>
    intro _
    have named := (PatchV1.cites_some cited).1
    rcases (step.edited survivor).mp stays with fresh | ⟨-, kept⟩
    · exact PatchV1.cites_field cited fresh
    · exfalso
      cases operation : patch.operation with
      | remove => simp [PatchV1.cites, operation] at cited
      | move position => simp [PatchV1.cites, operation] at cited
      | emphasize target emphasis => simp [PatchV1.cites, operation] at cited
      | replaceText target text cites =>
        rw [operation] at kept
        exact kept named.symm
      | replaceItems target items cites =>
        rw [operation] at kept
        exact kept named.symm

theorem Applied.fieldsHeld {permitted : List UUID} {claims : UUID → Option FactClaim}
    {before after : ResumeContent} {patches : List (PatchV1 chars)}
    (applied : Applied permitted claims before patches after)
    {held : FieldKey → Option (List UUID)} (sound : FieldsHeld before held) :
    FieldsHeld after (replay citationEffect held patches) := by
  induction applied generalizing held with
  | nil data => exact sound
  | cons step _ ih => exact ih (step.fieldsHeld sound)

namespace SessionLineage
variable {uuid5 : UUID → Text → UUID} {sessionId : UUID} {facts : UUID → Option FactClaim}
  {lineage : SessionLineage chars}

theorem generatedCitation_item {content : ResumeContent} {cited : UUID → UUID} {key : FieldKey}
    (written : (generatedCitation content cited key).isSome) :
    ∃ item ∈ content.items, item.id = key.1 ∧ (item.fields key.2).isSome := by
  obtain ⟨id, field⟩ := key
  cases field with
  | bullet =>
    have inside : id ∈ content.bulletIds := by
      simpa [generatedCitation, Option.isSome_iff_exists] using written
    obtain ⟨project, member, bullet, held, same⟩ := ResumeContent.mem_bulletIds.mp inside
    exact ⟨_, ResumeContent.bullet_mem_items member held, same, rfl⟩
  | summary =>
    simp only [generatedCitation] at written
    cases found : content.projects.find? fun project => project.id = id with
    | none => simp [found] at written
    | some project =>
      have same : project.id = id := by simpa using List.find?_some found
      exact ⟨_, ResumeContent.project_mem_items (List.mem_of_find?_eq_some found), same, rfl⟩
  | title | period | institution | qualification | label | technologies | items =>
    simp [generatedCitation] at written

theorem fieldsHeld_generated {content : ResumeContent} (distinct : content.itemIds.Nodup)
    (cited : UUID → UUID) : FieldsHeld content (generatedCitation content cited) := by
  intro item present field written
  obtain ⟨writer, found, same, held⟩ := generatedCitation_item written
  have equal := KeyedList.eq_of_key (ResumeContent.items_unique distinct) found present same
  exact equal ▸ held

theorem Accepted.fieldsHeld (accepted : lineage.Accepted uuid5 sessionId facts) :
    FieldsHeld lineage.content.data lineage.lastCitation := by
  induction accepted with
  | generated distinct _ _ => exact fieldsHeld_generated distinct _
  | revised earlier applied ih =>
    exact (applyScopedPatches_ok (ResumeContent.items_unique earlier.distinct) applied).2.fieldsHeld
      ih
  | preference _ ih => exact ih

/-- A later version, seen from the one before it. -/
theorem Accepted.survivor {base : SessionLineage chars} {patches : List (PatchV1 chars)}
    {content : ResumeContentV1} {snapshot : List UUID}
    (accepted : (SessionLineage.revised base patches content snapshot).Accepted uuid5 sessionId
      facts) {item : Item} (present : item ∈ content.data.items) :
    ∃ origin ∈ base.content.data.items, origin.id = item.id ∧ Spared patches item := by
  obtain ⟨earlier, applied⟩ := accepted.applied
  obtain ⟨origin, old, same, spared⟩ :=
    applied.survivor (ResumeContent.items_unique earlier.distinct) present
  exact ⟨origin, old, same.id, spared⟩

/-- On a present item the replay of removals does nothing. -/
theorem Accepted.attribution_present (accepted : lineage.Accepted uuid5 sessionId facts)
    {item : Item} (present : item ∈ lineage.content.data.items) (field : PatchField) :
    lineage.attribution (item.id, field) = lineage.lastCitation (item.id, field) := by
  induction lineage generalizing item with
  | generated content snapshot cited => rfl
  | revised base patches content snapshot ih =>
    obtain ⟨origin, old, same, spared⟩ := accepted.survivor present
    refine replay_congr _ ?_ ?_
    · have listed : item.id ∈ content.data.itemIds :=
        (ResumeContent.mem_itemIds item.id).mpr (.inr ⟨item, present, rfl⟩)
      rw [if_pos listed, ← same]
      exact ih accepted.applied.1 old
    · intro patch member
      simp [usesEffect, (spared patch member).1]

/-- The ids of items are not ids of personal fields. -/
theorem item_not_personal {content : ResumeContent} (distinct : content.itemIds.Nodup)
    {id : UUID} (inside : id ∈ content.items.map Item.id) : id ∉ content.personalIds := by
  intro personal
  rw [content.itemIds_perm.nodup_iff] at distinct
  exact (List.nodup_append.mp distinct).2.2 _ personal _ inside rfl

/-- Nothing is attributed to the personal fields. -/
theorem Accepted.attribution_personal (accepted : lineage.Accepted uuid5 sessionId facts)
    {key : FieldKey} {cited : List UUID} (held : lineage.attribution key = some cited) :
    key.1 ∉ lineage.content.data.personalIds := by
  induction lineage generalizing cited with
  | generated content snapshot citedBy =>
    obtain ⟨item, present, same, -⟩ := generatedCitation_item (Option.isSome_of_eq_some held)
    exact item_not_personal accepted.distinct (List.mem_map.mpr ⟨item, present, same⟩)
  | revised base patches content snapshot ih =>
    obtain ⟨earlier, applied⟩ := accepted.applied
    have kept : content.data.personalIds = base.content.data.personalIds := applied.personal.1
    change key.1 ∉ content.data.personalIds
    rw [kept]
    rcases (replay_eq_some _).mp held with ⟨before, patch, later, split, stored, -⟩ | ⟨held, -⟩
    · have member : patch ∈ patches := split ▸ List.mem_append_right _ List.mem_cons_self
      have named := usesEffect_store stored
      exact item_not_personal earlier.distinct (named.1 ▸ applied.target_mem patch member)
    · split at held
      · exact ih earlier held
      · cases held

/-- A citation that the last patch list stored for an item it then took out. -/
def Orphaned (lineage : SessionLineage chars) (key : FieldKey) (cited : List UUID) : Prop :=
  key.1 ∉ lineage.content.data.itemIds ∧ LastStored usesEffect lineage.lastPatches key cited

/-- What is attributed to an item that is not there is orphaned. -/
theorem attribution_absent (lineage : SessionLineage chars) {key : FieldKey}
    (absent : key.1 ∉ lineage.content.data.itemIds) {cited : List UUID} :
    lineage.attribution key = some cited ↔ lineage.Orphaned key cited := by
  cases lineage with
  | generated content snapshot citedBy =>
    constructor
    · intro held
      obtain ⟨item, present, same, -⟩ := generatedCitation_item (Option.isSome_of_eq_some held)
      exact absurd ((ResumeContent.mem_itemIds _).mpr (.inr ⟨item, present, same⟩)) absent
    · rintro ⟨-, before, patch, later, split, -⟩
      simp [lastPatches] at split
  | revised base patches content snapshot =>
    refine (replay_eq_some _).trans ?_
    have gone : key.1 ∉ content.data.itemIds := absent
    simp [gone, Orphaned, absent, lastPatches]

/-- The attributed facts are the cited ones and those of orphans. -/
theorem Accepted.attributes_iff (accepted : lineage.Accepted uuid5 sessionId facts) (fact : UUID) :
    lineage.Attributes fact ↔
      lineage.Cites fact ∨ ∃ key cited, lineage.Orphaned key cited ∧ fact ∈ cited := by
  constructor
  · rintro ⟨key, cited, held, member⟩
    by_cases present : key.1 ∈ lineage.content.data.itemIds
    · have notPersonal := accepted.attribution_personal held
      obtain ⟨item, inside, same⟩ :=
        ((ResumeContent.mem_itemIds _).mp present).resolve_left notPersonal
      have written : lineage.lastCitation (item.id, key.2) = some cited := by
        rw [← accepted.attribution_present inside, same]
        exact held
      have field := accepted.fieldsHeld item inside key.2 (Option.isSome_of_eq_some written)
      obtain ⟨value, stored⟩ := Option.isSome_iff_exists.mp field
      exact .inl ⟨item, inside, key.2, value, cited, stored, written, member⟩
    · exact .inr ⟨key, cited, (attribution_absent lineage present).mp held, member⟩
  · rintro (⟨item, inside, field, value, cited, stored, written, member⟩ |
      ⟨key, cited, orphaned, member⟩)
    · exact ⟨(item.id, field), cited, (accepted.attribution_present inside field).trans written,
        member⟩
    · exact ⟨key, cited, (attribution_absent lineage orphaned.1).mpr orphaned, member⟩

end SessionLineage
end Pathfinder

/-!
## What the fields of a content show

Reading every field in one fixed way, blind to emphasis, and the replay of the
replacements that keeps such a reading in step with the edited content.
-/
namespace Pathfinder
open LastWriter

universe u
variable {chars : CharacterTables} {β : Type u}

/-- A way to read a field that does not look at its emphasis. -/
structure Reading (β : Type u) where
  read : FieldValue → Option β
  plain : ∀ text emphasis, read (.styled ⟨text, emphasis⟩) = read (.styled ⟨text, []⟩)

def Reading.of (reading : Reading β) (item : Item) (field : PatchField) : Option β :=
  (item.fields field).bind reading.read

/-- Overwriting a field by a value: it then reads as the value does. -/
def Reading.stored (reading : Reading β) (value : FieldValue) : Effect β :=
  match reading.read value with
  | some shown => .store shown
  | none => .clear

/-- What a patch does to the reading of a field. -/
def Reading.effect (reading : Reading β) (patch : PatchV1 chars) (key : FieldKey) : Effect β :=
  match patch.operation with
  | .replaceText field text _ =>
    if (patch.itemId, field) = key then reading.stored (.styled ⟨text, []⟩) else .keep
  | .replaceItems field items _ =>
    if (patch.itemId, field) = key then reading.stored (.items items) else .keep
  | .remove | .move _ | .emphasize _ _ => .keep

/-- The function knows the reading of every field. -/
def Reading.Known (reading : Reading β) (content : ResumeContent)
    (held : FieldKey → Option β) : Prop :=
  ∀ item ∈ content.items, ∀ field, reading.of item field = held (item.id, field)

/-- The reading of a content. -/
def Reading.shown (reading : Reading β) (content : ResumeContent) (key : FieldKey) : Option β :=
  (content.items.find? fun item => item.id = key.1).bind fun item => reading.of item key.2

namespace Reading
variable {reading : Reading β}

variable (reading) in
theorem known_shown {content : ResumeContent} (unique : (content.items.map Item.id).Nodup) :
    reading.Known content (reading.shown content) := by
  intro item present field
  have found : (content.items.find? fun other => other.id = item.id) = some item :=
    KeyedList.find?_key unique present
  simp [shown, found]

theorem of_write (item : Item) (target field : PatchField) (value : FieldValue) :
    reading.of (item.write target value) field =
      if field = target then reading.read value else reading.of item field := by
  by_cases same : field = target
  · subst same
    simp [of, Item.write]
  · simp [of, Item.write, same]

theorem stored_apply (value : FieldValue) (before : Option β) :
    (reading.stored value).apply before = reading.read value := by
  unfold stored
  cases reading.read value <;> rfl

section Step
variable {permitted : List UUID} {claims : UUID → Option FactClaim}
  {before after : ResumeContent} {patch : PatchV1 chars} {item : Item}
  {held : FieldKey → Option β}

/-- A rewritten item reads as the patch left it. -/
theorem of_rewrite (step : PatchStep permitted claims before after patch item)
    (known : ∀ field, reading.of item field = held (item.id, field)) {new : Item}
    (fresh : patch.operation.rewrite item = some new) (field : PatchField) :
    reading.of new field = (reading.effect patch (item.id, field)).apply (held (item.id, field)) := by
  have target := step.target
  have accepted := step.accepted
  rw [← known field]
  cases operation : patch.operation with
  | remove => rw [operation] at fresh; cases fresh
  | move position => rw [operation] at fresh; cases fresh
  | replaceText field' text facts =>
    rw [operation] at fresh
    cases fresh
    rw [of_write]
    by_cases same : field = field'
    · simp [effect, operation, target, same, stored_apply]
    · simp [effect, operation, same, Ne.symm same, Effect.apply]
  | replaceItems field' items facts =>
    rw [operation] at fresh
    cases fresh
    rw [of_write]
    by_cases same : field = field'
    · simp [effect, operation, target, same, stored_apply]
    · simp [effect, operation, same, Ne.symm same, Effect.apply]
  | emphasize field' emphasis =>
    rw [operation] at fresh accepted
    obtain ⟨old, held⟩ := accepted
    simp only [PatchOperation.rewrite, held] at fresh
    cases fresh
    rw [of_write]
    by_cases same : field = field'
    · subst same
      have plain := reading.plain old.text
      simp [effect, operation, Effect.apply, of, held, plain emphasis, plain old.emphasis]
    · simp [effect, operation, same, Effect.apply]

theorem Known.step (known : reading.Known before held)
    (step : PatchStep permitted claims before after patch item) :
    reading.Known after fun key => (reading.effect patch key).apply (held key) := by
  intro survivor stays field
  rcases (step.edited survivor).mp stays with fresh | ⟨present, kept⟩
  · rw [(PatchOperation.rewrite_same step.accepted fresh).id]
    exact of_rewrite step (known item step.found) fresh field
  · rw [known survivor present field]
    cases operation : patch.operation with
    | replaceText field' text facts =>
      rw [operation] at kept
      have other : patch.itemId ≠ survivor.id := Ne.symm kept
      simp [effect, operation, other, Effect.apply]
    | replaceItems field' items facts =>
      rw [operation] at kept
      have other : patch.itemId ≠ survivor.id := Ne.symm kept
      simp [effect, operation, other, Effect.apply]
    | remove => simp [effect, operation, Effect.apply]
    | move position => simp [effect, operation, Effect.apply]
    | emphasize field' emphasis => simp [effect, operation, Effect.apply]

/-- A reading stays known along an accepted list of patches. -/
theorem Known.applied {patches : List (PatchV1 chars)} (known : reading.Known before held)
    (applied : Applied permitted claims before patches after) :
    reading.Known after (replay reading.effect held patches) := by
  induction applied generalizing held with
  | nil data => exact known
  | cons step _ ih => exact ih (known.step step)

end Step
end Reading
end Pathfinder
