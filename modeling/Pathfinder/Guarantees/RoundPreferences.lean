import Pathfinder.Db.ResumePreferences

/-!
# Round preferences after their way through the database

`request_json` is dumped without `exclude_unset`: every field the user left out
comes back as an explicit null. The preferences of the round are the ones the
user asked for only where the feedback leaves nothing to inherit.
-/
namespace Pathfinder
variable {chars : CharacterTables}

/-- The override with every field set, to null where the user set none. -/
def ValidOverride.allSet (override : ValidOverride) : ValidOverride where
  fields :=
    { excludedProjectIds := some override.fields.excludedProjectIds.value
      excludedFieldIds := some override.fields.excludedFieldIds.value
      bannedTerms := some override.fields.bannedTerms.value
      maxBulletsPerProject := some override.fields.maxBulletsPerProject.value
      sectionOrder := some override.fields.sectionOrder.value
      pageTarget := some override.fields.pageTarget.value
      writingAdvice := some override.fields.writingAdvice.value }
  valid := override.valid

/-- The stored request reads back as the override with every field set. -/
theorem modelValidateJson_requestJson (override : ValidOverride) :
    PreferenceFeedbackV1.modelValidateJson chars
      (PreferenceFeedbackV1.round override : PreferenceFeedbackV1 chars).requestJson =
        .ok (.round override.allSet) := by
  have valid := override.allSet.valid
  simp only [ValidOverride.allSet] at valid
  simp [PreferenceFeedbackV1.modelValidateJson, PreferenceFeedbackV1.requestJson,
    ValidOverride.modelValidate, ValidOverride.dump, valid, ValidOverride.allSet, Except.map]

/-- The fields of a session override under those of a round. -/
def overrideMerged (earlier later : JobPreferenceOverrideV1) : JobPreferenceOverrideV1 where
  excludedProjectIds := later.excludedProjectIds.orElse earlier.excludedProjectIds
  excludedFieldIds := later.excludedFieldIds.orElse earlier.excludedFieldIds
  bannedTerms := later.bannedTerms.orElse earlier.bannedTerms
  maxBulletsPerProject := later.maxBulletsPerProject.orElse earlier.maxBulletsPerProject
  sectionOrder := later.sectionOrder.orElse earlier.sectionOrder
  pageTarget := later.pageTarget.orElse earlier.pageTarget
  writingAdvice := later.writingAdvice.orElse earlier.writingAdvice

theorem Setting.orElse_all {α : Type} {later earlier : Setting α} {p : α → Bool}
    (first : earlier.value.all p = true) (second : later.value.all p = true) :
    (later.orElse earlier).value.all p = true := by
  cases later with
  | none => exact first
  | some value => exact second

theorem modelValidate_merge (earlier later : ValidOverride) :
    ∃ merged, ValidOverride.modelValidate (earlier.dumpSet.merge later.dumpSet) = .ok merged ∧
      merged.fields = overrideMerged earlier.fields later.fields := by
  have valid : (overrideMerged earlier.fields later.fields).valid = true := by
    have first := earlier.valid
    have second := later.valid
    simp only [JobPreferenceOverrideV1.valid, Bool.and_eq_true] at first second ⊢
    exact ⟨Setting.orElse_all first.1 second.1, Setting.orElse_all first.2 second.2⟩
  refine ⟨⟨_, valid⟩, ?_, rfl⟩
  have unlocked : ¬ (earlier.dumpSet.merge later.dumpSet).lockedItemIds.isSome = true := by
    simp [ValidOverride.dumpSet, PreferencesJson.merge, Setting.orElse]
  rw [ValidOverride.modelValidate, if_neg unlocked]
  exact dif_pos valid

/-- Preferences of a session under a round, before the locks. -/
theorem sessionPreferences_round (session : SessionPreferences chars) (round : ValidOverride) :
    sessionPreferences session (some round) =
      (effectivePreferences session.globalPreferences
        (overrideMerged (currentPreferences session).2.1.fields round.fields)).map fun effective =>
          effective.withLocks (currentPreferences session).2.2 := by
  obtain ⟨merged, validated, fields⟩ := modelValidate_merge (currentPreferences session).2.1 round
  simp only [sessionPreferences, validated, fields]

/-- A stored round request overlays every field. -/
theorem revisionPreferences_round (session : SessionPreferences chars) (round : ValidOverride) :
    revisionPreferences session
        (PreferenceFeedbackV1.round round : PreferenceFeedbackV1 chars).requestJson =
      sessionPreferences session (some round.allSet) := by
  simp only [revisionPreferences, modelValidateJson_requestJson]
  rfl

theorem overrideMerged_allSet (earlier : JobPreferenceOverrideV1) (round : ValidOverride) :
    overrideMerged earlier round.allSet.fields = round.allSet.fields := rfl

/-! ## What `model_validate` accepts -/

/-- Accepted values are the given ones. -/
theorem modelValidatePreferences_ok {projects fields : Option (List UUID)}
    {terms : Option (List Text)} {limit : Option Nat} {order : Option (List ResumeSection)}
    {locked : List UUID} {target : Option PageTarget} {advice : Option Text}
    {preferences : ResumePreferencesV1 chars} :
    modelValidatePreferences chars projects fields terms limit order locked target advice =
        .ok preferences ↔
      projects = some preferences.values.excludedProjectIds ∧
      fields = some preferences.values.excludedFieldIds ∧
      terms = some preferences.values.bannedTerms ∧
      limit = preferences.values.maxBulletsPerProject ∧
      order = some preferences.values.sectionOrder ∧ locked = preferences.values.lockedItemIds ∧
      target = some preferences.values.pageTarget ∧
      advice = some preferences.values.writingAdvice := by
  constructor
  · intro ran
    unfold modelValidatePreferences at ran
    split at ran
    · simp only at ran
      split at ran
      · cases ran
        exact ⟨rfl, rfl, rfl, rfl, rfl, rfl, rfl, rfl⟩
      · cases ran
    · cases ran
  · rintro ⟨rfl, rfl, rfl, rfl, rfl, rfl, rfl, rfl⟩
    simp [modelValidatePreferences, preferences.valid]

theorem Setting.value_some {α : Type} {setting : Setting α} {value : α} :
    setting.value = some value ↔ setting = some (some value) := Option.join_eq_some_iff

/-- Under a set key, the exclusions are the global ones and the added ones. -/
theorem overlayAdding_some {α : Type} [DecidableEq α] {inherited stored : List α}
    {setting : Option (List α)} :
    overlayAdding inherited (some setting) = some stored ↔
      ∃ added, setting = some added ∧ fromKeys (inherited ++ added) = stored := by
  cases setting <;> simp [overlayAdding]

/-- The round sets every field, with values that pass the checks of the preferences;
it may leave the bullet limit out only where none is inherited. -/
structure LeavesNothingToInherit (chars : CharacterTables) (inheritedLimit : Option Nat)
    (round : JobPreferenceOverrideV1) : Prop where
  projects : ∃ ids, round.excludedProjectIds = some (some ids)
  fields : ∃ ids, round.excludedFieldIds = some (some ids)
  terms : ∃ terms, round.bannedTerms = some (some terms) ∧
    ∀ term ∈ terms, bannedTermValid chars term = true
  order : ∃ order, round.sectionOrder = some (some order) ∧ sectionOrderValid order = true
  target : ∃ target, round.pageTarget = some (some target)
  advice : ∃ advice, round.writingAdvice = some (some advice)
  limit : round.maxBulletsPerProject = none → inheritedLimit = none

/-- The bullet limit a round that does not set one should see. -/
def inheritedLimit (session : SessionPreferences chars) : Option Nat :=
  overlay session.globalPreferences.values.maxBulletsPerProject
    (currentPreferences session).2.1.fields.maxBulletsPerProject

namespace LeavesNothingToInherit
variable {globalPreferences : ResumePreferencesV1 chars} {limit : Option Nat}
  {round : ValidOverride}

/-- Values that leave nothing to inherit are accepted. -/
theorem effective (whole : LeavesNothingToInherit chars limit round.fields) :
    ∃ effective, effectivePreferences globalPreferences round.allSet.fields = .ok effective := by
  obtain ⟨projects, setProjects⟩ := whole.projects
  obtain ⟨fields, setFields⟩ := whole.fields
  obtain ⟨terms, setTerms, spelled⟩ := whole.terms
  obtain ⟨order, setOrder, ordered⟩ := whole.order
  obtain ⟨target, setTarget⟩ := whole.target
  obtain ⟨advice, setAdvice⟩ := whole.advice
  have inherited := globalPreferences.valid
  simp only [PreferenceValues.valid, Bool.and_eq_true, decide_eq_true_eq, List.all_eq_true]
    at inherited
  obtain ⟨⟨⟨⟨-, locked⟩, -⟩, globalTerms⟩, -⟩ := inherited.1
  have bounds := round.valid
  simp only [JobPreferenceOverrideV1.valid, Bool.and_eq_true, setAdvice] at bounds
  have banned : ∀ term ∈ fromKeys (globalPreferences.values.bannedTerms ++ terms),
      bannedTermValid chars term = true := by
    intro term member
    rcases List.mem_append.mp (mem_fromKeys.mp member) with old | added
    · exact globalTerms term old
    · exact spelled term added
  let values : PreferenceValues :=
    { excludedProjectIds := fromKeys (globalPreferences.values.excludedProjectIds ++ projects)
      excludedFieldIds := fromKeys (globalPreferences.values.excludedFieldIds ++ fields)
      bannedTerms := fromKeys (globalPreferences.values.bannedTerms ++ terms)
      maxBulletsPerProject := round.fields.maxBulletsPerProject.value
      sectionOrder := order
      lockedItemIds := globalPreferences.values.lockedItemIds
      pageTarget := target
      writingAdvice := advice }
  have valid : values.valid chars = true := by
    simp only [values, PreferenceValues.valid, Bool.and_eq_true, decide_eq_true_eq,
      List.all_eq_true]
    exact ⟨⟨⟨⟨⟨⟨⟨nodup_fromKeys _, nodup_fromKeys _⟩,
      nodup_fromKeys _⟩, locked⟩, ordered⟩, banned⟩, bounds.1⟩,
      by simpa [Setting.value] using bounds.2⟩
  refine ⟨⟨values, valid⟩, modelValidatePreferences_ok.mpr ?_⟩
  simp [ValidOverride.allSet, setProjects, setFields, setTerms, setOrder, setTarget, setAdvice,
    Setting.value, overlayAdding, overlay, values]

/-- Nothing shines through such a round. -/
theorem effective_merged {earlier : JobPreferenceOverrideV1}
    (whole : LeavesNothingToInherit chars
      (overlay globalPreferences.values.maxBulletsPerProject earlier.maxBulletsPerProject)
      round.fields) :
    effectivePreferences globalPreferences (overrideMerged earlier round.fields) =
      effectivePreferences globalPreferences round.allSet.fields := by
  obtain ⟨projects, setProjects⟩ := whole.projects
  obtain ⟨fields, setFields⟩ := whole.fields
  obtain ⟨terms, setTerms, -⟩ := whole.terms
  obtain ⟨order, setOrder, -⟩ := whole.order
  obtain ⟨target, setTarget⟩ := whole.target
  obtain ⟨advice, setAdvice⟩ := whole.advice
  have limit : overlay globalPreferences.values.maxBulletsPerProject
      (round.fields.maxBulletsPerProject.orElse earlier.maxBulletsPerProject) =
      round.fields.maxBulletsPerProject.value := by
    cases set : round.fields.maxBulletsPerProject with
    | none => exact whole.limit set
    | some value => rfl
  simp only [effectivePreferences, overrideMerged, limit]
  simp [ValidOverride.allSet, setProjects, setFields, setTerms, setOrder, setTarget, setAdvice,
    Setting.value, Setting.orElse, overlay]

/-- Only such a round is accepted with every field set and keeps the inherited limit. -/
theorem of_accepted {earlier : JobPreferenceOverrideV1}
    {effective wanted : ResumePreferencesV1 chars}
    (accepted : effectivePreferences globalPreferences round.allSet.fields = .ok effective)
    (overlaid : effectivePreferences globalPreferences (overrideMerged earlier round.fields) =
      .ok wanted)
    (limits : effective.values.maxBulletsPerProject = wanted.values.maxBulletsPerProject) :
    LeavesNothingToInherit chars
      (overlay globalPreferences.values.maxBulletsPerProject earlier.maxBulletsPerProject)
      round.fields := by
  obtain ⟨projects, fields, terms, limit, order, -, target, advice⟩ :=
    modelValidatePreferences_ok.mp accepted
  have valid := effective.valid
  simp only [PreferenceValues.valid, Bool.and_eq_true, List.all_eq_true] at valid
  obtain ⟨⟨⟨⟨-, ordered⟩, spelled⟩, -⟩, -⟩ := valid
  obtain ⟨addedProjects, setProjects, -⟩ := overlayAdding_some.mp projects
  obtain ⟨addedFields, setFields, -⟩ := overlayAdding_some.mp fields
  obtain ⟨addedTerms, setTerms, stored⟩ := overlayAdding_some.mp terms
  refine ⟨⟨addedProjects, Setting.value_some.mp setProjects⟩,
    ⟨addedFields, Setting.value_some.mp setFields⟩, ⟨addedTerms, Setting.value_some.mp setTerms, ?_⟩,
    ⟨_, Setting.value_some.mp order, ordered⟩, ⟨_, Setting.value_some.mp target⟩,
    ⟨_, Setting.value_some.mp advice⟩, ?_⟩
  · intro term member
    refine spelled term ?_
    rw [← stored]
    exact mem_fromKeys.mpr (List.mem_append_right _ member)
  · intro unset
    have asked := (modelValidatePreferences_ok.mp overlaid).2.2.2.1
    simp only [overrideMerged, unset, Setting.orElse] at asked
    simp only [ValidOverride.allSet, unset, Setting.value, overlay, Option.join_none] at limit
    rw [asked, ← limits, ← limit]

end LeavesNothingToInherit

/-- The preferences computed after the feedback was stored and read back are the
global ones and the session override under exactly the fields the user set, if and
only if the feedback leaves nothing to inherit. -/
theorem round_preferences_kept_iff (session : SessionPreferences chars) (round : ValidOverride) :
    (∃ preferences,
      revisionPreferences session
        (PreferenceFeedbackV1.round round : PreferenceFeedbackV1 chars).requestJson =
          .ok preferences ∧
      sessionPreferences session (some round) = .ok preferences) ↔
    LeavesNothingToInherit chars (inheritedLimit session) round.fields := by
  rw [revisionPreferences_round, sessionPreferences_round, sessionPreferences_round,
    overrideMerged_allSet]
  constructor
  · rintro ⟨preferences, stored, asked⟩
    obtain ⟨effective, accepted, same⟩ := map_ok stored
    obtain ⟨wanted, overlaid, other⟩ := map_ok asked
    have limits : effective.values.maxBulletsPerProject = wanted.values.maxBulletsPerProject := by
      have locked := congrArg (fun p => p.values.maxBulletsPerProject) (same.trans other.symm)
      exact locked
    exact LeavesNothingToInherit.of_accepted accepted overlaid limits
  · intro whole
    obtain ⟨effective, accepted⟩ : ∃ effective,
      effectivePreferences session.globalPreferences round.allSet.fields = .ok effective :=
        whole.effective
    refine ⟨effective.withLocks (currentPreferences session).2.2, ?_, ?_⟩
    · rw [accepted]
      rfl
    · rw [whole.effective_merged, accepted]
      rfl

/-! ## A round that only gives writing advice -/

def plainSession : SessionPreferences asciiTables where
  globalPreferences := ⟨⟨[], [], [], some 3, [.education, .projects, .skills], [], .one, []⟩,
    by decide⟩
  override := ⟨⟨none, none, none, none, none, none, none⟩, rfl⟩
  versions := []

def adviceOnly : ValidOverride :=
  ⟨⟨none, none, none, none, none, none, some (some "Keep it short.".toList)⟩, by decide⟩

/-- The fields left out come back as null, which the preferences refuse. -/
theorem round_preferences_lost : ¬ ∀ (session : SessionPreferences asciiTables)
    (round : ValidOverride), ∃ preferences,
      revisionPreferences session
        (PreferenceFeedbackV1.round round : PreferenceFeedbackV1 asciiTables).requestJson =
          .ok preferences ∧
      sessionPreferences session (some round) = .ok preferences := by
  intro kept
  obtain ⟨preferences, stored, -⟩ := kept plainSession adviceOnly
  have failed : revisionPreferences plainSession
      (PreferenceFeedbackV1.round adviceOnly : PreferenceFeedbackV1 asciiTables).requestJson =
        .error (.value "resume preferences are invalid") := rfl
  cases failed.symm.trans stored

end Pathfinder
