import Pathfinder.Db.ResumeConfirmation
import Pathfinder.Resume.Patches

/-!
# Session lineages

A published session as its versions were made: a generated content, in which
every bullet is the claim of the fact it cites, then recorded patch lists, each
accepted by `apply_scoped_patches` against the facts of its own snapshot (or
empty, where only preferences were revised). Over it, who wrote each field last.
-/
namespace Pathfinder
open LastWriter
variable {chars : CharacterTables}

inductive SessionLineage (chars : CharacterTables) where
  | generated (content : ResumeContentV1) (snapshot : List UUID) (cited : UUID → UUID)
  | revised (base : SessionLineage chars) (patches : List (PatchV1 chars))
      (content : ResumeContentV1) (snapshot : List UUID)

/-- The facts a replacement of a field cites. -/
def PatchV1.cites (patch : PatchV1 chars) (key : FieldKey) : Option (List UUID) :=
  match patch.operation with
  | .replaceText field _ facts | .replaceItems field _ facts =>
    if (patch.itemId, field) = key then some facts else none
  | .remove | .move _ | .emphasize _ _ => none

/-- The citation a patch leaves on a field: a replacement writes it. -/
def citationEffect (patch : PatchV1 chars) (key : FieldKey) : Effect (List UUID) :=
  match patch.cites key with
  | some facts => .store facts
  | none => .keep

/-- What the replay of a patch does to an entry of `uses`: a removal of the item
drops it too. -/
def usesEffect (patch : PatchV1 chars) (key : FieldKey) : Effect (List UUID) :=
  if patch.removes key.1 then .clear else citationEffect patch key

/-- The citations of a generated content: each bullet cites its fact, a project's
summary that of the first bullet. -/
def generatedCitation (content : ResumeContent) (cited : UUID → UUID) (key : FieldKey) :
    Option (List UUID) :=
  match key.2 with
  | .bullet => if key.1 ∈ content.bulletIds then some [cited key.1] else none
  | .summary => (content.projects.find? fun project => project.id = key.1).bind fun project =>
      project.bullets.head?.map fun bullet => [cited bullet.id]
  | _ => none

namespace SessionLineage

def content : SessionLineage chars → ResumeContentV1
  | generated content _ _ | revised _ _ content _ => content

def snapshot : SessionLineage chars → List UUID
  | generated _ snapshot _ | revised _ _ _ snapshot => snapshot

/-- The lineages a session can have, over the facts `facts` of the workspace. -/
inductive Accepted (uuid5 : UUID → Text → UUID) (sessionId : UUID)
    (facts : UUID → Option FactClaim) : SessionLineage chars → Prop
  | generated {content : ResumeContentV1} {snapshot : List UUID} {cited : UUID → UUID}
      (distinct : content.data.itemIds.Nodup)
      (bullets : ∀ project ∈ content.data.projects, ∀ bullet ∈ project.bullets,
        cited bullet.id ∈ snapshot ∧ bullet.id = uuid5 sessionId (uuidText (cited bullet.id)) ∧
          ∃ fact, facts (cited bullet.id) = some fact ∧ bullet.styled = ⟨fact.claim, []⟩)
      (summaries : ∀ project ∈ content.data.projects, ∃ bullet,
        project.bullets.head? = some bullet ∧ project.summary = bullet.styled) :
      Accepted uuid5 sessionId facts (.generated content snapshot cited)
  | revised {base : SessionLineage chars} {patches : List (PatchV1 chars)}
      {content : ResumeContentV1} {snapshot targets : List UUID}
      {preferences : ResumePreferencesV1 chars} {diff : RevisionDiff}
      (earlier : Accepted uuid5 sessionId facts base)
      (applied : applyScopedPatches base.content patches targets preferences snapshot
        (fun id => if id ∈ snapshot then facts id else none) = .ok (content, diff)) :
      Accepted uuid5 sessionId facts (.revised base patches content snapshot)
  | preference {base : SessionLineage chars} {snapshot : List UUID}
      (earlier : Accepted uuid5 sessionId facts base) :
      Accepted uuid5 sessionId facts (.revised base [] base.content snapshot)

/-- The patches of the current version; a generated one has none. -/
def lastPatches : SessionLineage chars → List (PatchV1 chars)
  | generated _ _ _ => []
  | revised _ patches _ _ => patches

/-- The facts cited by the last generation or replacement that wrote a field. -/
def lastCitation : SessionLineage chars → FieldKey → Option (List UUID)
  | generated content _ cited => generatedCitation content.data cited
  | revised base patches _ _ => replay citationEffect base.lastCitation patches

/-- The dictionary `uses` as the replay leaves it. -/
def attribution : SessionLineage chars → FieldKey → Option (List UUID)
  | generated content _ cited => generatedCitation content.data cited
  | revised base patches content _ => replay usesEffect
      (fun key => if key.1 ∈ content.data.itemIds then base.attribution key else none) patches

/-- Some field of an item of the current content cites the fact. -/
def Cites (lineage : SessionLineage chars) (fact : UUID) : Prop :=
  ∃ item ∈ lineage.content.data.items, ∃ field value cited, item.fields field = some value ∧
    lineage.lastCitation (item.id, field) = some cited ∧ fact ∈ cited

/-- The facts `uses` holds. -/
def Attributes (lineage : SessionLineage chars) (fact : UUID) : Prop :=
  ∃ key cited, lineage.attribution key = some cited ∧ fact ∈ cited

end SessionLineage
end Pathfinder

/-!
## Accepted lineages

What `apply_scoped_patches` guarantees along a whole lineage: items stay told
apart, replacements cite something, and a citation belongs to a field its item has.
-/
namespace Pathfinder
open LastWriter
variable {chars : CharacterTables}

theorem applyScopedPatches_ok {original content : ResumeContentV1}
    {patches : List (PatchV1 chars)} {targets : List UUID}
    {preferences : ResumePreferencesV1 chars} {permitted : List UUID}
    {claims : UUID → Option FactClaim} {diff : RevisionDiff}
    (unique : (original.data.items.map Item.id).Nodup)
    (ran : applyScopedPatches original patches targets preferences permitted claims =
      .ok (content, diff)) :
    patches ≠ [] ∧ Applied permitted claims original.data patches content.data := by
  unfold applyScopedPatches at ran
  split at ran
  · cases ran
  next inScope =>
  refine ⟨fun empty => inScope (.inl empty), ?_⟩
  split at ran
  · cases ran
  next data changes applied =>
  split at ran
  · cases ran
  next updated validated =>
  split at ran
  · cases ran
  split at ran
  · cases ran
  cases ran
  unfold ResumeContentV1.modelValidate at validated
  split at validated
  · cases validated
    exact applyPatches_ok unique applied
  · cases validated

/-- A citation is that of the operation on the item it names. -/
theorem PatchV1.cites_some {patch : PatchV1 chars} {key : FieldKey} {facts : List UUID}
    (cited : patch.cites key = some facts) :
    patch.itemId = key.1 ∧ patch.operation.factVersionIds = facts := by
  simp only [PatchV1.cites] at cited
  split at cited
  case h_3 => cases cited
  case h_4 => cases cited
  case h_5 => cases cited
  all_goals
    next operation =>
    split at cited
    next same =>
      cases cited
      exact ⟨congrArg Prod.fst same, by rw [operation]; rfl⟩
    · cases cited

namespace PatchStep
variable {permitted : List UUID} {claims : UUID → Option FactClaim}
  {before after : ResumeContent} {patch : PatchV1 chars} {item : Item}

/-- An accepted replacement cites something. -/
theorem cites_nonempty (step : PatchStep permitted claims before after patch item)
    {key : FieldKey} {facts : List UUID} (cited : patch.cites key = some facts) : facts ≠ [] := by
  obtain ⟨_, same⟩ := PatchV1.cites_some cited
  have accepted := step.accepted
  cases operation : patch.operation with
  | replaceText field text cites =>
    rw [operation] at accepted same
    exact same ▸ accepted.1
  | replaceItems field items cites =>
    rw [operation] at accepted same
    exact same ▸ accepted.1
  | remove => simp [PatchV1.cites, operation] at cited
  | move position => simp [PatchV1.cites, operation] at cited
  | emphasize field emphasis => simp [PatchV1.cites, operation] at cited

end PatchStep

namespace Applied
variable {permitted : List UUID} {claims : UUID → Option FactClaim}
  {before after : ResumeContent} {patches : List (PatchV1 chars)}

theorem cites_nonempty (applied : Applied permitted claims before patches after) :
    ∀ patch ∈ patches, ∀ key facts, patch.cites key = some facts → facts ≠ [] := by
  induction applied with
  | nil data => simp
  | cons step _ ih =>
    intro patch member key facts cited
    rcases List.mem_cons.mp member with rfl | member
    · exact step.cites_nonempty cited
    · exact ih patch member key facts cited

/-- A patch of the list targets an item of the content before it. -/
theorem target_mem (applied : Applied permitted claims before patches after) :
    ∀ patch ∈ patches, patch.itemId ∈ before.items.map Item.id := by
  induction applied with
  | nil data => simp
  | cons step _ ih =>
    intro patch member
    rcases List.mem_cons.mp member with rfl | member
    · exact List.mem_map.mpr ⟨_, step.found, step.target⟩
    · exact step.ids.subset (ih patch member)

theorem itemIds (applied : Applied permitted claims before patches after)
    (distinct : before.itemIds.Nodup) : after.itemIds.Nodup := by
  obtain ⟨part, same, sub⟩ := applied.ids
  rw [before.itemIds_perm.nodup_iff] at distinct
  rw [after.itemIds_perm.nodup_iff, applied.personal.1]
  exact ((same.append_left _).nodup_iff).mp (distinct.sublist (sub.append_left _))

end Applied

namespace SessionLineage
variable {uuid5 : UUID → Text → UUID} {sessionId : UUID} {facts : UUID → Option FactClaim}
  {lineage : SessionLineage chars}

theorem Accepted.distinct (accepted : lineage.Accepted uuid5 sessionId facts) :
    lineage.content.data.itemIds.Nodup := by
  induction accepted with
  | generated distinct _ _ => exact distinct
  | revised _ applied ih =>
    exact (applyScopedPatches_ok (ResumeContent.items_unique ih) applied).2.itemIds ih
  | preference _ ih => exact ih

/-- A later version is an earlier one with patches applied. -/
theorem Accepted.applied {base : SessionLineage chars} {patches : List (PatchV1 chars)}
    {content : ResumeContentV1} {snapshot : List UUID}
    (accepted : (SessionLineage.revised base patches content snapshot).Accepted uuid5 sessionId facts) :
    base.Accepted uuid5 sessionId facts ∧
      Applied snapshot (fun id => if id ∈ snapshot then facts id else none)
        base.content.data patches content.data := by
  cases accepted with
  | revised earlier applied =>
    exact ⟨earlier,
      (applyScopedPatches_ok (ResumeContent.items_unique earlier.distinct) applied).2⟩
  | preference earlier => exact ⟨earlier, .nil _⟩

end SessionLineage
end Pathfinder
