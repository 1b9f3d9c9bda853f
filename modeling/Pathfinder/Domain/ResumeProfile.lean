import Pathfinder.Library.KeyedList
import Pathfinder.Domain.Status
import Pathfinder.Domain.ResumeText

/-!
# Resume content and preferences

`domain/resume_profile.py`. A pydantic model and its JSON dump are one record
here: `ResumeContent` is the dump, which an edit may leave in any state, and
`ResumeContentV1` a dump that `model_validate` accepts. A project's `bullets`
and `bullet_ids` are one list of pairs, which is what `check_bullets` demands.
-/
namespace Pathfinder

structure SourceLocationV1 where
  startLine : Nat
  startColumn : Nat
  endLine : Nat
  endColumn : Nat
  deriving DecidableEq, Repr

def SourceLocationV1.valid (source : SourceLocationV1) : Bool :=
  1 ≤ source.startLine && 1 ≤ source.startColumn && 1 ≤ source.endLine && 1 ≤ source.endColumn

/-- `EmphasisSpanV1`; `stop` is its `end`. -/
structure EmphasisSpanV1 where
  start : Nat
  stop : Nat
  deriving DecidableEq, Repr

structure StyledText where
  text : Text
  emphasis : List EmphasisSpanV1
  deriving DecidableEq, Repr

/-- The length bounds and `check_spans`. -/
def StyledText.valid (value : StyledText) : Bool :=
  (1 ≤ value.text.length && value.text.length ≤ 4000) &&
    value.emphasis.all fun span => span.stop ≤ value.text.length && span.start < span.stop

inductive ReviewMark where
  | pending | reviewed
  deriving DecidableEq, Repr

inductive ContactKind where
  | phone | email | other
  deriving DecidableEq, Repr

structure ContactField where
  id : UUID
  kind : ContactKind
  label : Text
  value : Text
  locked : Bool
  reviewStatus : ReviewMark
  source : SourceLocationV1
  deriving DecidableEq, Repr

def ContactField.valid (field : ContactField) : Bool :=
  (1 ≤ field.label.length && field.label.length ≤ 80) &&
    (1 ≤ field.value.length && field.value.length ≤ 300) && field.source.valid

structure EducationEntry where
  id : UUID
  institution : StyledText
  qualification : StyledText
  period : StyledText
  source : SourceLocationV1
  reviewStatus : ReviewMark
  deriving DecidableEq, Repr

def EducationEntry.valid (entry : EducationEntry) : Bool :=
  entry.institution.valid && entry.qualification.valid && entry.period.valid && entry.source.valid

/-- A member of `bullets` with its member of `bullet_ids`. -/
structure Bullet where
  id : UUID
  styled : StyledText
  deriving DecidableEq, Repr

structure ProjectEntry where
  id : UUID
  title : StyledText
  period : StyledText
  technologies : List Text
  summary : StyledText
  bullets : List Bullet
  source : SourceLocationV1
  reviewStatus : ReviewMark
  deriving DecidableEq, Repr

def ProjectEntry.bulletIds (project : ProjectEntry) : List UUID := project.bullets.map Bullet.id

def ProjectEntry.valid (project : ProjectEntry) : Bool :=
  project.title.valid && project.period.valid && project.summary.valid &&
    project.bullets.all (fun bullet => bullet.styled.valid) && project.source.valid

structure SkillCategory where
  id : UUID
  label : Text
  items : List Text
  source : SourceLocationV1
  reviewStatus : ReviewMark
  deriving DecidableEq, Repr

def SkillCategory.valid (skill : SkillCategory) : Bool :=
  (1 ≤ skill.label.length && skill.label.length ≤ 120) && skill.source.valid

structure ResumeContent where
  displayNameId : UUID
  displayName : Text
  displayNameReviewStatus : ReviewMark
  contact : List ContactField
  education : List EducationEntry
  projects : List ProjectEntry
  skills : List SkillCategory
  deriving DecidableEq, Repr

namespace ResumeContent

def valid (content : ResumeContent) : Bool :=
  (1 ≤ content.displayName.length && content.displayName.length ≤ 200) &&
    content.contact.all ContactField.valid && content.education.all EducationEntry.valid &&
    content.projects.all ProjectEntry.valid && content.skills.all SkillCategory.valid

def bulletIds (content : ResumeContent) : List UUID :=
  content.projects.flatMap ProjectEntry.bulletIds

/-- The members of `item_ids()`. -/
def itemIds (content : ResumeContent) : List UUID :=
  content.displayNameId :: content.contact.map ContactField.id ++
    content.education.map EducationEntry.id ++ content.projects.map ProjectEntry.id ++
    content.bulletIds ++ content.skills.map SkillCategory.id

end ResumeContent

/-- A content that `ResumeContentV1.model_validate` accepts. -/
structure ResumeContentV1 where
  data : ResumeContent
  valid : data.valid = true
  deriving DecidableEq

/-- `ResumeContentV1.model_validate(data)`. -/
def ResumeContentV1.modelValidate (data : ResumeContent) : Except StoreError ResumeContentV1 :=
  if valid : data.valid = true then .ok ⟨data, valid⟩ else .error (.value "resume content is invalid")

/-! ## Preferences -/

inductive ResumeSection where
  | education | projects | skills
  deriving DecidableEq, Repr

inductive PageTarget where
  | one | two
  deriving DecidableEq, Repr

structure PreferenceValues where
  excludedProjectIds : List UUID
  excludedFieldIds : List UUID
  bannedTerms : List Text
  maxBulletsPerProject : Option Nat
  sectionOrder : List ResumeSection
  lockedItemIds : List UUID
  pageTarget : PageTarget
  writingAdvice : Text
  deriving DecidableEq, Repr

/-- The members of `section_order` are distinct and name every section. -/
def sectionOrderValid (order : List ResumeSection) : Bool :=
  decide order.Nodup && ([.education, .projects, .skills] : List ResumeSection).all (· ∈ order)

/-- `not (not term.strip() or len(term) > 100)`. -/
def bannedTermValid (chars : CharacterTables) (term : Text) : Bool :=
  !blank chars term && term.length ≤ 100

/-- The field bounds and `check_unique`. -/
def PreferenceValues.valid (chars : CharacterTables) (values : PreferenceValues) : Bool :=
  decide values.excludedProjectIds.Nodup && decide values.excludedFieldIds.Nodup &&
    decide values.bannedTerms.Nodup && decide values.lockedItemIds.Nodup &&
    sectionOrderValid values.sectionOrder && values.bannedTerms.all (bannedTermValid chars) &&
    values.maxBulletsPerProject.all (· ≤ 20) && values.writingAdvice.length ≤ 2000

/-- `ResumePreferencesV1`: values its validators accept. -/
structure ResumePreferencesV1 (chars : CharacterTables) where
  values : PreferenceValues
  valid : values.valid chars = true

/-- A field of a pydantic model with default `None`: outside `model_fields_set`,
or set, possibly to `None`. -/
abbrev Setting (α : Type) := Option (Option α)

/-- `getattr(model, field)`. -/
def Setting.value {α : Type} (setting : Setting α) : Option α := setting.join

/-- `{**values, field: setting}`, for a field in `model_fields_set`. -/
def Setting.orElse {α : Type} (later earlier : Setting α) : Setting α :=
  match later with
  | none => earlier
  | some value => some value

structure JobPreferenceOverrideV1 where
  excludedProjectIds : Setting (List UUID)
  excludedFieldIds : Setting (List UUID)
  bannedTerms : Setting (List Text)
  maxBulletsPerProject : Setting Nat
  sectionOrder : Setting (List ResumeSection)
  pageTarget : Setting PageTarget
  writingAdvice : Setting Text
  deriving DecidableEq, Repr

/-- The field bounds of `JobPreferenceOverrideV1`. -/
def JobPreferenceOverrideV1.valid (override : JobPreferenceOverrideV1) : Bool :=
  override.maxBulletsPerProject.value.all (· ≤ 20) &&
    override.writingAdvice.value.all (·.length ≤ 2000)

/-- `values[key] = getattr(override, key)` for a key in `model_fields_set`. -/
def overlay {α : Type} (inherited : Option α) : Setting α → Option α
  | none => inherited
  | some value => value

/-- `tuple(dict.fromkeys(values))`: first occurrences, in order. -/
def fromKeys {α : Type} [DecidableEq α] (values : List α) : List α := values.eraseDups

theorem nodup_fromKeys {α : Type} [DecidableEq α] (values : List α) : (fromKeys values).Nodup :=
  KeyedList.nodup_eraseDups values

@[simp] theorem mem_fromKeys {α : Type} [DecidableEq α] {values : List α} {value : α} :
    value ∈ fromKeys values ↔ value ∈ values := List.mem_eraseDups

/-- The three keys to which a job only adds: its own entries behind the global
ones; a key set to `None` is overwritten like any other. -/
def overlayAdding {α : Type} [DecidableEq α] (inherited : List α) :
    Setting (List α) → Option (List α)
  | none => some inherited
  | some none => none
  | some (some replacement) => some (fromKeys (inherited ++ replacement))

/-- `ResumePreferencesV1.model_validate` on values some of which may be `None`. -/
def modelValidatePreferences (chars : CharacterTables) (excludedProjectIds : Option (List UUID))
    (excludedFieldIds : Option (List UUID)) (bannedTerms : Option (List Text))
    (maxBulletsPerProject : Option Nat) (sectionOrder : Option (List ResumeSection))
    (lockedItemIds : List UUID) (pageTarget : Option PageTarget) (writingAdvice : Option Text) :
    Except StoreError (ResumePreferencesV1 chars) :=
  match excludedProjectIds, excludedFieldIds, bannedTerms, sectionOrder, pageTarget,
      writingAdvice with
  | some projects, some fields, some terms, some order, some target, some advice =>
    let values : PreferenceValues :=
      ⟨projects, fields, terms, maxBulletsPerProject, order, lockedItemIds, target, advice⟩
    if valid : values.valid chars = true then .ok ⟨values, valid⟩
    else .error (.value "resume preferences are invalid")
  | _, _, _, _, _, _ => .error (.value "resume preferences are invalid")

def effectivePreferences {chars : CharacterTables} (globalPreferences : ResumePreferencesV1 chars)
    (override : JobPreferenceOverrideV1) : Except StoreError (ResumePreferencesV1 chars) :=
  let values := globalPreferences.values
  modelValidatePreferences chars
    (overlayAdding values.excludedProjectIds override.excludedProjectIds)
    (overlayAdding values.excludedFieldIds override.excludedFieldIds)
    (overlayAdding values.bannedTerms override.bannedTerms)
    (overlay values.maxBulletsPerProject override.maxBulletsPerProject)
    (overlay (some values.sectionOrder) override.sectionOrder)
    values.lockedItemIds
    (overlay (some values.pageTarget) override.pageTarget)
    (overlay (some values.writingAdvice) override.writingAdvice)

/-! ## Rules on content -/

inductive ConstraintIssue where
  | excludedProjectPresent | excludedFieldPresent | bulletLimitExceeded
  | explicitBannedTermPresent
  deriving DecidableEq, Repr

def ConstraintIssue.value : ConstraintIssue → String
  | excludedProjectPresent => "excluded_project_present"
  | excludedFieldPresent => "excluded_field_present"
  | bulletLimitExceeded => "bullet_limit_exceeded"
  | explicitBannedTermPresent => "explicit_banned_term_present"

/-- The texts searched for banned terms. -/
def searchable (content : ResumeContent) : List Text :=
  (content.education.map fun entry =>
      joinSpaces [entry.institution.text, entry.qualification.text]) ++
    (content.projects.map fun project =>
      joinSpaces [project.title.text, project.summary.text,
        joinSpaces (project.bullets.map fun bullet => bullet.styled.text),
        joinSpaces project.technologies]) ++
    content.skills.map fun skill => joinSpaces [skill.label, joinSpaces skill.items]

def hardConstraintIssues {chars : CharacterTables} (content : ResumeContent)
    (preferences : ResumePreferencesV1 chars) : List ConstraintIssue :=
  let values := preferences.values
  (if content.projects.any fun project => decide (project.id ∈ values.excludedProjectIds)
    then [.excludedProjectPresent] else []) ++
  (if content.itemIds.any fun item => decide (item ∈ values.excludedFieldIds)
    then [.excludedFieldPresent] else []) ++
  (if values.maxBulletsPerProject.any fun limit =>
      content.projects.any fun project => decide (limit < project.bullets.length)
    then [.bulletLimitExceeded] else []) ++
  (if values.bannedTerms.any fun term =>
      (searchable content).any fun text => containsFolded chars term text
    then [.explicitBannedTermPresent] else [])

/-- What `require_locked_items_unchanged` compares under one id. -/
inductive LockedValue where
  | education (entry : EducationEntry)
  | project (project : ProjectEntry)
  | skill (skill : SkillCategory)
  | bullet (styled : StyledText)
  deriving DecidableEq, Repr

/-- The dictionary `values(content)` in insertion order. -/
def lockedEntries (content : ResumeContent) : List (UUID × LockedValue) :=
  (content.education.map fun entry => (entry.id, .education entry)) ++
    (content.projects.map fun project => (project.id, .project project)) ++
    (content.skills.map fun skill => (skill.id, .skill skill)) ++
    content.projects.flatMap fun project =>
      project.bullets.map fun bullet => (bullet.id, .bullet bullet.styled)

/-- `values(content).get(item_id)`: of two entries under one id the later counts. -/
def lockedValue (content : ResumeContent) (itemId : UUID) : Option LockedValue :=
  ((lockedEntries content).reverse.find? fun entry => entry.1 = itemId).map Prod.snd

def requireLockedItemsUnchanged {chars : CharacterTables} (original candidate : ResumeContent)
    (preferences : ResumePreferencesV1 chars) : Except StoreError Unit :=
  if original.displayName ≠ candidate.displayName ∨ original.contact ≠ candidate.contact then
    .error (.validation "protected personal fields changed")
  else if preferences.values.lockedItemIds.any fun itemId =>
      lockedValue original itemId ≠ lockedValue candidate itemId then
    .error (.validation "locked resume content changed")
  else .ok ()

end Pathfinder
