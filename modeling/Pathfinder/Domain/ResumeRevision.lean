import Pathfinder.Library.KeyedList
import Pathfinder.Domain.ResumeProfile

/-!
# Scoped patches

`domain/resume_revision.py`: the operations of a `PatchV1`, where a patch lands
in a content, and `apply_scoped_patches`.
-/
namespace Pathfinder

inductive FactKind where
  | implementation | plan | experiment | personalStatement
  deriving DecidableEq, Repr

/-- `conditions_json`. -/
structure FactConditions where
  environment : Option Text
  scope : Option Text
  metricBasis : Option Text
  deriving DecidableEq, Repr

/-- What `fact_claims` holds under a fact: `(claim, kind)`. -/
structure FactClaim where
  claim : Text
  kind : FactKind
  deriving DecidableEq, Repr

inductive PatchField where
  | bullet | title | summary | period | institution | qualification | label | technologies | items
  deriving DecidableEq, Repr

/-- The fields that hold a list of texts. -/
def PatchField.listed : PatchField → Bool
  | technologies | items => true
  | bullet | title | summary | period | institution | qualification | label => false

/-- The operations of a patch, each with the fields `valid_shape` lets it carry. -/
inductive PatchOperation where
  | replaceText (field : PatchField) (text : Text) (factVersionIds : List UUID)
  | replaceItems (field : PatchField) (items : List Text) (factVersionIds : List UUID)
  | remove
  | move (position : Nat)
  | emphasize (field : PatchField) (emphasis : List EmphasisSpanV1)
  deriving DecidableEq, Repr

namespace PatchOperation

def factVersionIds : PatchOperation → List UUID
  | replaceText _ _ facts | replaceItems _ _ facts => facts
  | remove | move _ | emphasize _ _ => []

/-- The field bounds of `PatchV1` and the rest of `valid_shape`. -/
def valid (chars : CharacterTables) : PatchOperation → Bool
  | replaceText field text facts =>
    !field.listed && (1 ≤ text.length && text.length ≤ 4000) && decide facts.Nodup
  | replaceItems field items facts =>
    field.listed && items.length ≤ 40 &&
      items.all (fun value => !blank chars value && value.length ≤ 120) && decide facts.Nodup
  | remove | move _ => true
  | emphasize field emphasis => !field.listed && emphasis.all fun span => 1 ≤ span.stop

end PatchOperation

@[simp] theorem PatchOperation.remove_valid (chars : CharacterTables) :
    PatchOperation.remove.valid chars = true := rfl

structure PatchV1 (chars : CharacterTables) where
  itemId : UUID
  operation : PatchOperation
  valid : operation.valid chars = true
  deriving DecidableEq

/-! ## Fields -/

inductive FieldValue where
  | styled (value : StyledText)
  | label (value : Text)
  | items (values : List Text)
  deriving DecidableEq, Repr

/-- `value.get("text", "") if isinstance(value, dict) else " ".join(value)`; a
joined string comes out with its characters apart. -/
def FieldValue.oldText : FieldValue → Text
  | styled value => value.text
  | label value => joinSpaces (value.map fun c => [c])
  | items values => joinSpaces values

/-- `item[field]` of an education entry, for its allowed fields. -/
def EducationEntry.field? (entry : EducationEntry) : PatchField → Option FieldValue
  | .institution => some (.styled entry.institution)
  | .qualification => some (.styled entry.qualification)
  | .period => some (.styled entry.period)
  | _ => none

def EducationEntry.setField (entry : EducationEntry) : PatchField → FieldValue → EducationEntry
  | .institution, .styled value => { entry with institution := value }
  | .qualification, .styled value => { entry with qualification := value }
  | .period, .styled value => { entry with period := value }
  | _, _ => entry

def ProjectEntry.field? (project : ProjectEntry) : PatchField → Option FieldValue
  | .title => some (.styled project.title)
  | .summary => some (.styled project.summary)
  | .period => some (.styled project.period)
  | .technologies => some (.items project.technologies)
  | _ => none

def ProjectEntry.setField (project : ProjectEntry) : PatchField → FieldValue → ProjectEntry
  | .title, .styled value => { project with title := value }
  | .summary, .styled value => { project with summary := value }
  | .period, .styled value => { project with period := value }
  | .technologies, .items values => { project with technologies := values }
  | _, _ => project

def Bullet.field? (bullet : Bullet) : PatchField → Option FieldValue
  | .bullet => some (.styled bullet.styled)
  | _ => none

def Bullet.setField (bullet : Bullet) : PatchField → FieldValue → Bullet
  | .bullet, .styled value => { bullet with styled := value }
  | _, _ => bullet

def SkillCategory.field? (skill : SkillCategory) : PatchField → Option FieldValue
  | .label => some (.label skill.label)
  | .items => some (.items skill.items)
  | _ => none

def SkillCategory.setField (skill : SkillCategory) : PatchField → FieldValue → SkillCategory
  | .label, .label value => { skill with label := value }
  | .items, .items values => { skill with items := values }
  | _, _ => skill

/-! ## Locations -/

/-- What `_locate` answers: the section, and the place in it. -/
inductive Location where
  | education (index : Nat) (entry : EducationEntry)
  | projects (index : Nat) (project : ProjectEntry)
  | bullet (index : Nat) (project : ProjectEntry) (position : Nat) (bullet : Bullet)
  | skills (index : Nat) (skill : SkillCategory)

/-- The first project that is the item or has it among its bullets. -/
def locateInProjects (projects : List ProjectEntry) (itemId : UUID) : Option Location :=
  (KeyedList.locate (fun project => decide (project.id = itemId ∨ itemId ∈ project.bulletIds))
    projects).bind fun (index, project) =>
      if project.id = itemId then some (.projects index project)
      else (KeyedList.locate (fun bullet : Bullet => decide (bullet.id = itemId))
        project.bullets).map fun (position, bullet) => .bullet index project position bullet

/-- `_locate`; `none` where it raises. -/
def locate (data : ResumeContent) (itemId : UUID) : Option Location :=
  match KeyedList.locate (fun entry : EducationEntry => decide (entry.id = itemId))
      data.education with
  | some (index, entry) => some (.education index entry)
  | none =>
    match locateInProjects data.projects itemId with
    | some location => some location
    | none => (KeyedList.locate (fun skill : SkillCategory => decide (skill.id = itemId))
        data.skills).map fun (index, skill) => .skills index skill

namespace Location

def field? : Location → PatchField → Option FieldValue
  | education _ entry, field => entry.field? field
  | projects _ project, field => project.field? field
  | bullet _ _ _ found, field => found.field? field
  | skills _ skill, field => skill.field? field

/-- The number of members of the group the location is in. -/
def groupSize (data : ResumeContent) : Location → Nat
  | education _ _ => data.education.length
  | projects _ _ => data.projects.length
  | bullet _ project _ _ => project.bullets.length
  | skills _ _ => data.skills.length

/-- `item[field] = replacement`, or `group[index] = replacement` for a bullet. -/
def write (data : ResumeContent) (field : PatchField) (value : FieldValue) :
    Location → ResumeContent
  | education index entry =>
    { data with education := data.education.set index (entry.setField field value) }
  | projects index project =>
    { data with projects := data.projects.set index (project.setField field value) }
  | bullet index project position found =>
    let bullets := project.bullets.set position (found.setField field value)
    { data with projects := data.projects.set index { project with bullets := bullets } }
  | skills index skill => { data with skills := data.skills.set index (skill.setField field value) }

/-- `group.pop(index)`, for a bullet also in `bullet_ids`. -/
def remove (data : ResumeContent) : Location → ResumeContent
  | education index _ => { data with education := data.education.eraseIdx index }
  | projects index _ => { data with projects := data.projects.eraseIdx index }
  | bullet index project position _ =>
    let bullets := project.bullets.eraseIdx position
    { data with projects := data.projects.set index { project with bullets := bullets } }
  | skills index _ => { data with skills := data.skills.eraseIdx index }

/-- `group.insert(position, group.pop(index))`, for a bullet also in `bullet_ids`. -/
def move (data : ResumeContent) (target : Nat) : Location → ResumeContent
  | education index _ => { data with education := KeyedList.moveTo data.education index target }
  | projects index _ => { data with projects := KeyedList.moveTo data.projects index target }
  | bullet index project position _ =>
    let bullets := KeyedList.moveTo project.bullets position target
    { data with projects := data.projects.set index { project with bullets := bullets } }
  | skills index _ => { data with skills := KeyedList.moveTo data.skills index target }

end Location

/-! ## `apply_scoped_patches` -/

/-- An entry of `RevisionDiff.changes`. -/
inductive Change where
  | removed (itemId : UUID)
  | moved (itemId : UUID) (position : Nat)
  | updated (itemId : UUID) (operation : PatchOperation)
  deriving DecidableEq, Repr

structure RevisionDiff where
  changes : List Change
  impact : List Text
  deriving DecidableEq, Repr

/-- The value of `PatchField` in the wire format. -/
def PatchField.value : PatchField → String
  | bullet => "bullet"
  | title => "title"
  | summary => "summary"
  | period => "period"
  | institution => "institution"
  | qualification => "qualification"
  | label => "label"
  | technologies => "technologies"
  | items => "items"

def Change.impact : Change → Text
  | removed itemId =>
    "Removed item ".toList ++ uuidText itemId ++ "; check JD coverage and page layout.".toList
  | moved itemId _ =>
    "Moved item ".toList ++ uuidText itemId ++ "; check section order and page layout.".toList
  | updated itemId operation =>
    let field := match operation with
      | .replaceText field _ _ | .replaceItems field _ _ | .emphasize field _ => field.value
      | .remove | .move _ => "None"
    "Updated ".toList ++ field.toList ++ " of item ".toList ++ uuidText itemId ++
      "; check facts, JD coverage and page layout.".toList

section Apply
variable {chars : CharacterTables}

/-- The fact rules of a replacement by `newText` of `oldText`. -/
def requireSupported (chars : CharacterTables) (factClaims : UUID → Option FactClaim)
    (factVersionIds : List UUID) (oldText newText : Text) : Except StoreError Unit :=
  let cited := factVersionIds.filterMap factClaims
  let allowedNumbers := numericTokens chars oldText ++
    cited.flatMap fun fact => numericTokens chars fact.claim
  if cited.length ≠ factVersionIds.length then
    .error (.validation "patch fact details are unavailable")
  else if cited.any fun fact => fact.kind = .plan && !plannedWording chars newText then
    .error (.validation "a planned fact needs explicit planned wording")
  else if !(numericTokens chars newText).all fun number => decide (number ∈ allowedNumbers) then
    .error (.validation "new numbers are not present in cited facts")
  else .ok ()

/-- The value a replacement or an emphasis stores over `value`. -/
def replacement (chars : CharacterTables) (factClaims : UUID → Option FactClaim)
    (value : FieldValue) :
    PatchOperation → Except StoreError FieldValue
  | .replaceText _ text facts =>
    match requireSupported chars factClaims facts value.oldText text with
    | .error reason => .error reason
    | .ok () =>
      match value with
      | .styled _ =>
        if facts = [] then .error (.validation "text changes require confirmed fact references")
        else .ok (.styled ⟨text, []⟩)
      -- `assert isinstance(value, dict)`: a skill's label is a plain string
      | .label _ | .items _ => .error (.value "AssertionError")
  | .replaceItems _ items facts =>
    match requireSupported chars factClaims facts value.oldText (joinSpaces items) with
    | .error reason => .error reason
    | .ok () =>
      if facts = [] then .error (.validation "item changes require confirmed fact references")
      else .ok (.items items)
  | .emphasize _ emphasis =>
    match value with
    | .styled styled => .ok (.styled { styled with emphasis := emphasis })
    | .label _ | .items _ => .error (.value "AssertionError")
  | .remove | .move _ => .ok value

/-- `patch.item_id in locked or (section == "bullet" and UUID(item["id"]) in locked)`. -/
def Location.locked (locked : List UUID) (itemId : UUID) : Location → Bool
  | bullet _ project _ _ => decide (itemId ∈ locked) || decide (project.id ∈ locked)
  | education _ _ | projects _ _ | skills _ _ => decide (itemId ∈ locked)

/-- A project whose removal would take a locked bullet with it. -/
def Location.holdsLocked (locked : List UUID) : Location → Bool
  | projects _ project => project.bulletIds.any fun id => decide (id ∈ locked)
  | education _ _ | bullet _ _ _ _ | skills _ _ => false

/-- One round of the loop over `patches`. -/
def applyPatch (preferences : ResumePreferencesV1 chars) (permittedFactIds : List UUID)
    (factClaims : UUID → Option FactClaim) (data : ResumeContent) (patch : PatchV1 chars) :
    Except StoreError (ResumeContent × Change) :=
  let locked := preferences.values.lockedItemIds
  if !(patch.operation.factVersionIds.all fun id => decide (id ∈ permittedFactIds)) then
    .error (.validation "patch cites an unavailable fact")
  else match locate data patch.itemId with
  | none => .error (.validation "patch target does not exist")
  | some location =>
    if location.locked locked patch.itemId then .error (.validation "patch target is locked")
    else if patch.operation = .remove ∧ location.holdsLocked locked then
      .error (.validation "project contains a locked bullet")
    else match patch.operation with
    | .remove => .ok (location.remove data, .removed patch.itemId)
    | .move position =>
      if location.groupSize data ≤ position then
        .error (.validation "patch position is outside its section")
      else .ok (location.move data position, .moved patch.itemId position)
    | .replaceText field _ _ | .replaceItems field _ _ | .emphasize field _ =>
      match location.field? field with
      | none => .error (.validation "patch field is invalid for the target")
      | some value =>
        (replacement chars factClaims value patch.operation).map fun stored =>
          (location.write data field stored, .updated patch.itemId patch.operation)

/-- The loop over `patches`: the edited dump and the changes. -/
def applyPatches (preferences : ResumePreferencesV1 chars) (permittedFactIds : List UUID)
    (factClaims : UUID → Option FactClaim) :
    ResumeContent → List (PatchV1 chars) → Except StoreError (ResumeContent × List Change)
  | data, [] => .ok (data, [])
  | data, patch :: rest =>
    match applyPatch preferences permittedFactIds factClaims data patch with
    | .error reason => .error reason
    | .ok (edited, change) =>
      (applyPatches preferences permittedFactIds factClaims edited rest).map fun (final, changes) =>
        (final, change :: changes)

def applyScopedPatches (original : ResumeContentV1) (patches : List (PatchV1 chars))
    (targetItemIds : List UUID) (preferences : ResumePreferencesV1 chars)
    (permittedFactIds : List UUID) (factClaims : UUID → Option FactClaim) :
    Except StoreError (ResumeContentV1 × RevisionDiff) :=
  if patches = [] ∨ !(patches.all fun patch => decide (patch.itemId ∈ targetItemIds)) then
    .error (.validation "patch scope is invalid")
  else match applyPatches preferences permittedFactIds factClaims original.data patches with
  | .error reason => .error reason
  | .ok (data, changes) =>
    match ResumeContentV1.modelValidate data with
    | .error _ => .error (.validation "revision violates content or lock constraints")
    | .ok updated =>
      match requireLockedItemsUnchanged original.data updated.data preferences with
      | .error reason => .error reason
      | .ok () =>
        if hardConstraintIssues updated.data preferences ≠ [] then
          .error (.validation "revision violates hard constraints")
        else .ok (updated, ⟨changes, changes.map Change.impact⟩)

end Apply
end Pathfinder
