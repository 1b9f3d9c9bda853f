import Pathfinder.Domain.ResumeRevision

/-!
# Patches on the dump

`apply_scoped_patches` edits `model_dump` in place, where a project keeps `bullets` and
`bullet_ids` as two lists that are edited by one index. Here they are two lists; the
edits compute what those on the list of pairs do.
-/
namespace Pathfinder

/-- A project of the dump. -/
structure ProjectDump where
  id : UUID
  title : StyledText
  period : StyledText
  technologies : List Text
  summary : StyledText
  bullets : List StyledText
  bulletIds : List UUID
  source : SourceLocationV1
  reviewStatus : ReviewMark

/-- `original.model_dump(mode="json")`. -/
structure ContentDump where
  displayNameId : UUID
  displayName : Text
  displayNameReviewStatus : ReviewMark
  contact : List ContactField
  education : List EducationEntry
  projects : List ProjectDump
  skills : List SkillCategory

def ProjectEntry.dump (project : ProjectEntry) : ProjectDump :=
  { id := project.id, title := project.title, period := project.period,
    technologies := project.technologies, summary := project.summary,
    bullets := project.bullets.map Bullet.styled, bulletIds := project.bulletIds,
    source := project.source, reviewStatus := project.reviewStatus }

def ResumeContent.dump (content : ResumeContent) : ContentDump :=
  { displayNameId := content.displayNameId, displayName := content.displayName,
    displayNameReviewStatus := content.displayNameReviewStatus, contact := content.contact,
    education := content.education, projects := content.projects.map ProjectEntry.dump,
    skills := content.skills }

/-- `check_bullets`, and the pairs it lets through. -/
def ProjectDump.entry? (project : ProjectDump) : Option ProjectEntry :=
  if project.bullets.length = project.bulletIds.length then
    some { id := project.id, title := project.title, period := project.period,
           technologies := project.technologies, summary := project.summary,
           bullets := List.zipWith Bullet.mk project.bulletIds project.bullets,
           source := project.source, reviewStatus := project.reviewStatus }
  else none

/-- `ResumeContentV1.model_validate(data)` on the dump. -/
def ContentDump.modelValidate (data : ContentDump) : Except StoreError ResumeContentV1 :=
  match data.projects.mapM ProjectDump.entry? with
  | none => .error (.value "resume content is invalid")
  | some projects => ResumeContentV1.modelValidate
    { displayNameId := data.displayNameId, displayName := data.displayName,
      displayNameReviewStatus := data.displayNameReviewStatus, contact := data.contact,
      education := data.education, projects := projects, skills := data.skills }

/-! ## Fields and locations -/

def ProjectDump.field? (project : ProjectDump) : PatchField → Option FieldValue
  | .title => some (.styled project.title)
  | .summary => some (.styled project.summary)
  | .period => some (.styled project.period)
  | .technologies => some (.items project.technologies)
  | _ => none

def ProjectDump.setField (project : ProjectDump) : PatchField → FieldValue → ProjectDump
  | .title, .styled value => { project with title := value }
  | .summary, .styled value => { project with summary := value }
  | .period, .styled value => { project with period := value }
  | .technologies, .items values => { project with technologies := values }
  | _, _ => project

/-- What `_locate` answers: a member of a group, or an index into both lists of bullets. -/
inductive DumpLocation where
  | education (index : Nat) (entry : EducationEntry)
  | projects (index : Nat) (project : ProjectDump)
  | bullet (index : Nat) (project : ProjectDump) (position : Nat)
  | skills (index : Nat) (skill : SkillCategory)

/-- `_locate`; `none` where it raises. -/
def ContentDump.locate (data : ContentDump) (itemId : UUID) : Option DumpLocation :=
  match KeyedList.locate (fun entry : EducationEntry => decide (entry.id = itemId))
      data.education with
  | some (index, entry) => some (.education index entry)
  | none =>
    match KeyedList.locate (fun project : ProjectDump =>
        decide (project.id = itemId ∨ itemId ∈ project.bulletIds)) data.projects with
    | some (index, project) =>
      if project.id = itemId then some (.projects index project)
      else some (.bullet index project (project.bulletIds.idxOf itemId))
    | none => (KeyedList.locate (fun skill : SkillCategory => decide (skill.id = itemId))
        data.skills).map fun (index, skill) => .skills index skill

namespace DumpLocation

/-- `group[index]` for a bullet, `item[patch.field]` elsewhere, for an allowed field. -/
def field? : DumpLocation → PatchField → Option FieldValue
  | education _ entry, field => entry.field? field
  | projects _ project, field => project.field? field
  | bullet _ project position, .bullet => project.bullets[position]?.map .styled
  | bullet .., _ => none
  | skills _ skill, field => skill.field? field

def groupSize (data : ContentDump) : DumpLocation → Nat
  | education _ _ => data.education.length
  | projects _ _ => data.projects.length
  | bullet _ project _ => project.bullets.length
  | skills _ _ => data.skills.length

def write (data : ContentDump) (field : PatchField) (value : FieldValue) :
    DumpLocation → ContentDump
  | education index entry =>
    { data with education := data.education.set index (entry.setField field value) }
  | projects index project =>
    { data with projects := data.projects.set index (project.setField field value) }
  | bullet index project position =>
    match field, value with
    | .bullet, .styled styled =>
      let bullets := project.bullets.set position styled
      { data with projects := data.projects.set index { project with bullets := bullets } }
    | _, _ => data
  | skills index skill => { data with skills := data.skills.set index (skill.setField field value) }

/-- `ids.pop(index)` and `group.pop(index)`. -/
def remove (data : ContentDump) : DumpLocation → ContentDump
  | education index _ => { data with education := data.education.eraseIdx index }
  | projects index _ => { data with projects := data.projects.eraseIdx index }
  | bullet index project position =>
    let edited := { project with
      bullets := project.bullets.eraseIdx position
      bulletIds := project.bulletIds.eraseIdx position }
    { data with projects := data.projects.set index edited }
  | skills index _ => { data with skills := data.skills.eraseIdx index }

/-- `group.insert(position, group.pop(index))`, and so on `ids`. -/
def move (data : ContentDump) (target : Nat) : DumpLocation → ContentDump
  | education index _ => { data with education := KeyedList.moveTo data.education index target }
  | projects index _ => { data with projects := KeyedList.moveTo data.projects index target }
  | bullet index project position =>
    let edited := { project with
      bullets := KeyedList.moveTo project.bullets position target
      bulletIds := KeyedList.moveTo project.bulletIds position target }
    { data with projects := data.projects.set index edited }
  | skills index _ => { data with skills := KeyedList.moveTo data.skills index target }

def locked (locked : List UUID) (itemId : UUID) : DumpLocation → Bool
  | bullet _ project _ => decide (itemId ∈ locked) || decide (project.id ∈ locked)
  | education _ _ | projects _ _ | skills _ _ => decide (itemId ∈ locked)

def holdsLocked (locked : List UUID) : DumpLocation → Bool
  | projects _ project => project.bulletIds.any fun id => decide (id ∈ locked)
  | education _ _ | bullet .. | skills _ _ => false

end DumpLocation

section Apply
variable {chars : CharacterTables}

/-- One round of the loop over `patches`. -/
def ContentDump.applyPatch (preferences : ResumePreferencesV1 chars)
    (permittedFactIds : List UUID) (factClaims : UUID → Option FactClaim) (data : ContentDump)
    (patch : PatchV1 chars) : Except StoreError (ContentDump × Change) :=
  let locked := preferences.values.lockedItemIds
  if !(patch.operation.factVersionIds.all fun id => decide (id ∈ permittedFactIds)) then
    .error (.validation "patch cites an unavailable fact")
  else match data.locate patch.itemId with
  | none => .error (.validation "patch target does not exist")
  | some location =>
    if location.locked locked patch.itemId then .error (.validation "patch target is locked")
    else if patch.operation = .remove ∧ location.holdsLocked locked then
      .error (.validation "project contains a locked bullet")
    else match patch.operation with
    | .remove => .ok (location.remove data, .removed patch.itemId)
    | .move position =>
      if location.groupSize data ≤ position then
        .error (.validation "patch position is outside its section")
      else .ok (location.move data position, .moved patch.itemId position)
    | .replaceText field _ _ | .replaceItems field _ _ | .emphasize field _ =>
      match location.field? field with
      | none => .error (.validation "patch field is invalid for the target")
      | some value =>
        (replacement chars factClaims value patch.operation).map fun stored =>
          (location.write data field stored, .updated patch.itemId patch.operation)

def ContentDump.applyPatches (preferences : ResumePreferencesV1 chars)
    (permittedFactIds : List UUID) (factClaims : UUID → Option FactClaim) :
    ContentDump → List (PatchV1 chars) → Except StoreError (ContentDump × List Change)
  | data, [] => .ok (data, [])
  | data, patch :: rest =>
    match ContentDump.applyPatch preferences permittedFactIds factClaims data patch with
    | .error reason => .error reason
    | .ok (edited, change) =>
      (ContentDump.applyPatches preferences permittedFactIds factClaims edited rest).map
        fun (final, changes) => (final, change :: changes)

/-- `apply_scoped_patches`, with the dump as it is edited. -/
def applyScopedPatchesInPlace (original : ResumeContentV1) (patches : List (PatchV1 chars))
    (targetItemIds : List UUID) (preferences : ResumePreferencesV1 chars)
    (permittedFactIds : List UUID) (factClaims : UUID → Option FactClaim) :
    Except StoreError (ResumeContentV1 × RevisionDiff) :=
  if patches = [] ∨ !(patches.all fun patch => decide (patch.itemId ∈ targetItemIds)) then
    .error (.validation "patch scope is invalid")
  else match ContentDump.applyPatches preferences permittedFactIds factClaims
      original.data.dump patches with
  | .error reason => .error reason
  | .ok (data, changes) =>
    match data.modelValidate with
    | .error _ => .error (.validation "revision violates content or lock constraints")
    | .ok updated =>
      match requireLockedItemsUnchanged original.data updated.data preferences with
      | .error reason => .error reason
      | .ok () =>
        if hardConstraintIssues updated.data preferences ≠ [] then
          .error (.validation "revision violates hard constraints")
        else .ok (updated, ⟨changes, changes.map Change.impact⟩)

end Apply

end Pathfinder
