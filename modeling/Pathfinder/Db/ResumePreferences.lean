import Pathfinder.Domain.ResumeProfile

/-!
# Preferences of a session and of a round

The preference feedback of `domain/resume_revision.py`, its way through
`request_json`, and `_effective_preferences` of `db/resume_revision.py`. A JSON
object with preference keys is a record of `Setting`s: a key can be absent, null
or hold a value.
-/
namespace Pathfinder
variable {chars : CharacterTables}

structure PreferencesJson where
  excludedProjectIds : Setting (List UUID)
  excludedFieldIds : Setting (List UUID)
  bannedTerms : Setting (List Text)
  maxBulletsPerProject : Setting Nat
  sectionOrder : Setting (List ResumeSection)
  lockedItemIds : Setting (List UUID)
  pageTarget : Setting PageTarget
  writingAdvice : Setting Text
  deriving DecidableEq, Repr

/-- `{**earlier, **later}`. -/
def PreferencesJson.merge (earlier later : PreferencesJson) : PreferencesJson where
  excludedProjectIds := later.excludedProjectIds.orElse earlier.excludedProjectIds
  excludedFieldIds := later.excludedFieldIds.orElse earlier.excludedFieldIds
  bannedTerms := later.bannedTerms.orElse earlier.bannedTerms
  maxBulletsPerProject := later.maxBulletsPerProject.orElse earlier.maxBulletsPerProject
  sectionOrder := later.sectionOrder.orElse earlier.sectionOrder
  lockedItemIds := later.lockedItemIds.orElse earlier.lockedItemIds
  pageTarget := later.pageTarget.orElse earlier.pageTarget
  writingAdvice := later.writingAdvice.orElse earlier.writingAdvice

/-- An override its validators accepted. -/
structure ValidOverride where
  fields : JobPreferenceOverrideV1
  valid : fields.valid = true
  deriving DecidableEq

namespace ValidOverride

/-- `model_dump(exclude_unset=True)`. -/
def dumpSet (override : ValidOverride) : PreferencesJson where
  excludedProjectIds := override.fields.excludedProjectIds
  excludedFieldIds := override.fields.excludedFieldIds
  bannedTerms := override.fields.bannedTerms
  maxBulletsPerProject := override.fields.maxBulletsPerProject
  sectionOrder := override.fields.sectionOrder
  lockedItemIds := none
  pageTarget := override.fields.pageTarget
  writingAdvice := override.fields.writingAdvice

/-- `model_dump(round_trip=True)`: a field that was not set is dumped as null. -/
def dump (override : ValidOverride) : PreferencesJson where
  excludedProjectIds := some override.fields.excludedProjectIds.value
  excludedFieldIds := some override.fields.excludedFieldIds.value
  bannedTerms := some override.fields.bannedTerms.value
  maxBulletsPerProject := some override.fields.maxBulletsPerProject.value
  sectionOrder := some override.fields.sectionOrder.value
  lockedItemIds := none
  pageTarget := some override.fields.pageTarget.value
  writingAdvice := some override.fields.writingAdvice.value

/-- `JobPreferenceOverrideV1.model_validate`: every key that is there is set. -/
def modelValidate (json : PreferencesJson) : Except StoreError ValidOverride :=
  let fields : JobPreferenceOverrideV1 :=
    { excludedProjectIds := json.excludedProjectIds
      excludedFieldIds := json.excludedFieldIds
      bannedTerms := json.bannedTerms
      maxBulletsPerProject := json.maxBulletsPerProject
      sectionOrder := json.sectionOrder
      pageTarget := json.pageTarget
      writingAdvice := json.writingAdvice }
  if json.lockedItemIds.isSome then .error (.value "extra fields are forbidden")
  else if valid : fields.valid = true then .ok ⟨fields, valid⟩
  else .error (.value "job preferences are invalid")

end ValidOverride

namespace ResumePreferencesV1

def dump (preferences : ResumePreferencesV1 chars) : PreferencesJson where
  excludedProjectIds := some (some preferences.values.excludedProjectIds)
  excludedFieldIds := some (some preferences.values.excludedFieldIds)
  bannedTerms := some (some preferences.values.bannedTerms)
  maxBulletsPerProject := some preferences.values.maxBulletsPerProject
  sectionOrder := some (some preferences.values.sectionOrder)
  lockedItemIds := some (some preferences.values.lockedItemIds)
  pageTarget := some (some preferences.values.pageTarget)
  writingAdvice := some (some preferences.values.writingAdvice)

/-- `ResumePreferencesV1.model_validate`, with the defaults of absent keys. -/
def modelValidate (chars : CharacterTables) (json : PreferencesJson) :
    Except StoreError (ResumePreferencesV1 chars) :=
  match json.lockedItemIds.getD (some []) with
  | none => .error (.value "resume preferences are invalid")
  | some locked => modelValidatePreferences chars
      (json.excludedProjectIds.getD (some [])) (json.excludedFieldIds.getD (some []))
      (json.bannedTerms.getD (some [])) json.maxBulletsPerProject.value
      (json.sectionOrder.getD (some [.education, .projects, .skills])) locked
      (json.pageTarget.getD (some .one)) (json.writingAdvice.getD (some []))

end ResumePreferencesV1

/-! ## Preference feedback and its stored request -/

inductive FeedbackScope where
  | round | session | globally
  deriving DecidableEq, Repr

/-- `PreferenceFeedbackV1`; `global_precondition` ties the preferences to the scope. -/
inductive PreferenceFeedbackV1 (chars : CharacterTables) where
  | round (preferences : ValidOverride)
  | session (preferences : ValidOverride)
  | globally (preferences : ResumePreferencesV1 chars) (expectedGlobalPreferenceVersion : Nat)

/-- The keys of `request_json` that decide the preferences. -/
structure PreferenceRequestJson where
  feedbackScope : FeedbackScope
  preferences : PreferencesJson
  expectedGlobalPreferenceVersion : Option Nat
  deriving DecidableEq, Repr

namespace PreferenceFeedbackV1

/-- `payload.model_dump(mode="json", round_trip=True)`. -/
def requestJson : PreferenceFeedbackV1 chars → PreferenceRequestJson
  | round preferences => ⟨.round, preferences.dump, none⟩
  | session preferences => ⟨.session, preferences.dump, none⟩
  | globally preferences expected => ⟨.globally, preferences.dump, some expected⟩

/-- `PreferenceFeedbackV1.model_validate_json`: `parse_scope_preferences` picks the
schema by the scope, `global_precondition` checks the expected version. -/
def modelValidateJson (chars : CharacterTables) (json : PreferenceRequestJson) :
    Except StoreError (PreferenceFeedbackV1 chars) :=
  match json.feedbackScope, json.expectedGlobalPreferenceVersion with
  | .round, none => (ValidOverride.modelValidate json.preferences).map round
  | .session, none => (ValidOverride.modelValidate json.preferences).map session
  | .globally, some expected =>
    if expected = 0 then .error (.value "global preference version precondition is invalid")
    else (ResumePreferencesV1.modelValidate chars json.preferences).map fun preferences =>
      globally preferences expected
  | .round, some _ | .session, some _ | .globally, none =>
    .error (.value "global preference version precondition is invalid")

/-- `request.preferences if request.scope == "round" else None`. -/
def roundOverride : PreferenceFeedbackV1 chars → Option ValidOverride
  | round preferences => some preferences
  | session _ | globally _ _ => none

end PreferenceFeedbackV1

/-! ## Effective preferences -/

/-- A row of `resume_session_preference_versions`. -/
structure ResumeSessionPreferenceVersion where
  version : Nat
  override : ValidOverride
  lockedItemIds : List UUID

/-- What `_effective_preferences` reads of a session. -/
structure SessionPreferences (chars : CharacterTables) where
  globalPreferences : ResumePreferencesV1 chars
  override : ValidOverride
  versions : List ResumeSessionPreferenceVersion

/-- `order_by(version.desc()).limit(1)`. -/
def latestPreferences (versions : List ResumeSessionPreferenceVersion) :
    Option ResumeSessionPreferenceVersion :=
  versions.foldl (fun best row => match best with
    | none => some row
    | some found => if found.version < row.version then some row else some found) none

/-- `_current_preferences`. -/
def currentPreferences (session : SessionPreferences chars) : Nat × ValidOverride × List UUID :=
  match latestPreferences session.versions with
  | none => (0, session.override, [])
  | some latest => (latest.version, latest.override, latest.lockedItemIds)

/-- `model_copy(update={"locked_item_ids": tuple(dict.fromkeys((*locked, *locks)))})`. -/
def ResumePreferencesV1.withLocks (preferences : ResumePreferencesV1 chars) (locks : List UUID) :
    ResumePreferencesV1 chars where
  values := { preferences.values with
    lockedItemIds := fromKeys (preferences.values.lockedItemIds ++ locks) }
  valid := by
    have valid := preferences.valid
    simp only [PreferenceValues.valid, Bool.and_eq_true, decide_eq_true_eq] at valid ⊢
    obtain ⟨⟨⟨⟨⟨⟨⟨projects, fields⟩, terms⟩, -⟩, order⟩, banned⟩, limit⟩, advice⟩ := valid
    exact ⟨⟨⟨⟨⟨⟨⟨projects, fields⟩, terms⟩, nodup_fromKeys _⟩, order⟩, banned⟩, limit⟩,
      advice⟩

/-- `_effective_preferences`. -/
def sessionPreferences (session : SessionPreferences chars)
    (roundOverride : Option ValidOverride) : Except StoreError (ResumePreferencesV1 chars) :=
  let (_, sessionOverride, locks) := currentPreferences session
  let merged : Except StoreError ValidOverride := match roundOverride with
    | none => .ok sessionOverride
    | some round => ValidOverride.modelValidate (sessionOverride.dumpSet.merge round.dumpSet)
  match merged with
  | .error reason => .error reason
  | .ok override =>
    (effectivePreferences session.globalPreferences override.fields).map fun effective =>
      effective.withLocks locks

/-- The preferences `revision_inputs` and `publish` compute from a stored request. -/
def revisionPreferences (session : SessionPreferences chars) (stored : PreferenceRequestJson) :
    Except StoreError (ResumePreferencesV1 chars) :=
  match PreferenceFeedbackV1.modelValidateJson chars stored with
  | .error reason => .error reason
  | .ok request => sessionPreferences session request.roundOverride

end Pathfinder
