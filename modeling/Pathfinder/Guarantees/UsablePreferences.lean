import Pathfinder.Guarantees.RoundPreferences
import Pathfinder.Profiles.Sound

/-!
# Preferences a session can go on with

Creating a session computes its effective preferences and is refused where they
are invalid. Session feedback only merges the new override into the current one
and stores it; the effective preferences are computed by the runs that follow.
-/
namespace Pathfinder
open KeyedTable Machines

variable {chars : CharacterTables} {cfg : ResumeConfig}

/-- The effective preferences keep what the global ones exclude, ban and lock. -/
structure Protects (globalPreferences effective : ResumePreferencesV1 chars) : Prop where
  projects : globalPreferences.values.excludedProjectIds ⊆ effective.values.excludedProjectIds
  fields : globalPreferences.values.excludedFieldIds ⊆ effective.values.excludedFieldIds
  terms : globalPreferences.values.bannedTerms ⊆ effective.values.bannedTerms
  locked : globalPreferences.values.lockedItemIds ⊆ effective.values.lockedItemIds

/-- The effective preferences of a session can be computed, by its own runs and by
anyone who has access to its profile version. -/
structure SessionUsable (tables : ProfileDb chars) (session : SessionProfile)
    (globalPreferences : ResumePreferencesV1 chars) : Prop where
  named : tables.globalPreferences session = some globalPreferences
  created : ∃ effective,
    effectivePreferences globalPreferences session.override.fields = .ok effective ∧
      Protects globalPreferences effective
  merged : ∃ effective,
    effectivePreferences globalPreferences session.currentPreferences.2.1.fields =
        .ok effective ∧ Protects globalPreferences effective
  read : ∀ tenant named,
    profileInputs tables tenant session.profileVersionId session.preferenceVersionId.version =
      .ok named →
    ∃ effective, effectiveSessionPreferences tables tenant session none = .ok effective ∧
      Protects globalPreferences effective

/-- Every session that is stored is usable. -/
def PreferencesUsable (world : ProfileWorld chars) : Prop :=
  ∀ sessionId session, world.tables.sessionProfiles.get sessionId = some session →
    ∃ globalPreferences, SessionUsable world.tables session globalPreferences

/-- The field is left out, or set to a value that passes `p`. -/
def Setting.usable {α : Type} (p : α → Bool) : Setting α → Bool
  | none => true
  | some none => false
  | some (some value) => p value

/-- No field but the bullet limit is an explicit null, every banned term is short,
nonempty text and the section order has every section once. -/
def overrideUsable (chars : CharacterTables) (override : JobPreferenceOverrideV1) : Bool :=
  override.excludedProjectIds.usable (fun _ => true) &&
    override.excludedFieldIds.usable (fun _ => true) &&
    override.bannedTerms.usable (fun terms => terms.all (bannedTermValid chars)) &&
    override.sectionOrder.usable sectionOrderValid &&
    override.pageTarget.usable (fun _ => true) && override.writingAdvice.usable (fun _ => true)

variable (cfg) in
/-- The request, if it is accepted session feedback, has usable preferences. -/
def FeedbackUsable (world : ProfileWorld chars) (op : ProfileOp chars) : Prop :=
  ∀ tenant request digest commandId facts preferences,
    op = .preference tenant request digest commandId facts →
    request.payload = .session preferences → Fresh (serveProfile cfg world op).2 →
    overrideUsable chars preferences.fields = true

/-! ## What the overlay accepts -/

section Overlay
variable {α : Type} {p : α → Bool}

theorem Setting.usable_orElse {earlier : Setting α} (usable : earlier.usable p = true)
    (later : Setting α) : (later.orElse earlier).usable p = later.usable p := by
  cases later with
  | none => exact usable
  | some value => rfl

theorem Setting.usable_of_overlay {inherited stored : α} {setting : Setting α}
    (accepted : overlay (some inherited) setting = some stored) (valid : p stored = true) :
    setting.usable p = true := by
  rcases setting with - | - | value
  · rfl
  · cases accepted
  · cases accepted
    exact valid

theorem Setting.overlay_of_usable {inherited : α} {setting : Setting α}
    (usable : setting.usable p = true) (valid : p inherited = true) :
    ∃ stored, overlay (some inherited) setting = some stored ∧ p stored = true := by
  rcases setting with - | - | value
  · exact ⟨inherited, rfl, valid⟩
  · cases usable
  · exact ⟨value, rfl, usable⟩

theorem overlay_all {inherited : Option α} {setting : Setting α}
    (first : inherited.all p = true) (second : setting.value.all p = true) :
    (overlay inherited setting).all p = true := by
  cases setting with
  | none => exact first
  | some value => exact second

variable [DecidableEq α]

/-- Entries are added behind the inherited ones, and none is taken away. -/
theorem overlayAdding_keeps {inherited stored : List α} {setting : Setting (List α)}
    (accepted : overlayAdding inherited setting = some stored) : inherited ⊆ stored := by
  rcases setting with - | - | added
  · cases accepted
    exact List.Subset.refl _
  · cases accepted
  · cases accepted
    exact fun entry member => mem_fromKeys.mpr (List.mem_append_left _ member)

theorem Setting.usable_of_overlayAdding {q : List α → Bool} {inherited stored : List α}
    {setting : Setting (List α)} (accepted : overlayAdding inherited setting = some stored)
    (part : ∀ added, added ⊆ stored → q added = true) : setting.usable q = true := by
  rcases setting with - | - | added
  · rfl
  · cases accepted
  · cases accepted
    exact part added fun entry member => mem_fromKeys.mpr (List.mem_append_right _ member)

theorem Setting.overlayAdding_of_usable {q : List α → Bool} {inherited : List α}
    {setting : Setting (List α)} (usable : setting.usable q = true) (single : inherited.Nodup)
    (valid : q inherited = true)
    (joined : ∀ added, q added = true → q (fromKeys (inherited ++ added)) = true) :
    ∃ stored, overlayAdding inherited setting = some stored ∧ stored.Nodup ∧
      q stored = true := by
  rcases setting with - | - | added
  · exact ⟨inherited, rfl, single, valid⟩
  · cases usable
  · exact ⟨_, rfl, nodup_fromKeys _, joined added usable⟩

end Overlay

variable {globalPreferences effective : ResumePreferencesV1 chars}

theorem protects_of_accepted {override : JobPreferenceOverrideV1}
    (accepted : effectivePreferences globalPreferences override = .ok effective) :
    Protects globalPreferences effective := by
  obtain ⟨projects, fields, terms, -, -, locked, -, -⟩ := modelValidatePreferences_ok.mp accepted
  exact ⟨overlayAdding_keeps projects, overlayAdding_keeps fields, overlayAdding_keeps terms,
    fun item member => locked ▸ member⟩

theorem Protects.withLocks (protects : Protects globalPreferences effective)
    (locks : List UUID) : Protects globalPreferences (effective.withLocks locks) :=
  ⟨protects.projects, protects.fields, protects.terms,
    fun _ member => mem_fromKeys.mpr (List.mem_append_left _ (protects.locked member))⟩

theorem usable_of_accepted {override : JobPreferenceOverrideV1}
    (accepted : effectivePreferences globalPreferences override = .ok effective) :
    overrideUsable chars override = true := by
  obtain ⟨projects, fields, terms, -, order, -, target, advice⟩ :=
    modelValidatePreferences_ok.mp accepted
  have valid := effective.valid
  simp only [PreferenceValues.valid, Bool.and_eq_true] at valid
  obtain ⟨⟨⟨⟨-, ordered⟩, spelled⟩, -⟩, -⟩ := valid
  simp only [overrideUsable, Bool.and_eq_true]
  exact ⟨⟨⟨⟨⟨Setting.usable_of_overlayAdding projects fun _ _ => rfl,
    Setting.usable_of_overlayAdding fields fun _ _ => rfl⟩,
    Setting.usable_of_overlayAdding terms fun added part => List.all_eq_true.mpr
      fun term member => List.all_eq_true.mp spelled term (part member)⟩,
    Setting.usable_of_overlay order ordered⟩, Setting.usable_of_overlay target rfl⟩,
    Setting.usable_of_overlay advice rfl⟩

theorem accepted_of_usable (globalPreferences : ResumePreferencesV1 chars)
    {override : JobPreferenceOverrideV1} (bounds : override.valid = true)
    (usable : overrideUsable chars override = true) :
    ∃ effective, effectivePreferences globalPreferences override = .ok effective := by
  have inherited := globalPreferences.valid
  simp only [PreferenceValues.valid, Bool.and_eq_true, decide_eq_true_eq] at inherited
  obtain ⟨⟨⟨⟨⟨⟨⟨oneProject, oneField⟩, oneTerm⟩, locked⟩, ordered⟩, spelled⟩, limited⟩, short⟩ :=
    inherited
  simp only [overrideUsable, Bool.and_eq_true] at usable
  obtain ⟨⟨⟨⟨⟨projectsSet, fieldsSet⟩, termsSet⟩, orderSet⟩, targetSet⟩, adviceSet⟩ := usable
  simp only [JobPreferenceOverrideV1.valid, Bool.and_eq_true] at bounds
  obtain ⟨projects, projectsRead, projectsOnce, -⟩ :=
    Setting.overlayAdding_of_usable projectsSet oneProject rfl fun _ _ => rfl
  obtain ⟨fields, fieldsRead, fieldsOnce, -⟩ :=
    Setting.overlayAdding_of_usable fieldsSet oneField rfl fun _ _ => rfl
  obtain ⟨terms, termsRead, termsOnce, termsSpelled⟩ :=
    Setting.overlayAdding_of_usable termsSet oneTerm spelled fun added valid => by
      refine List.all_eq_true.mpr fun term member => ?_
      rcases List.mem_append.mp (mem_fromKeys.mp member) with old | new
      · exact List.all_eq_true.mp spelled term old
      · exact List.all_eq_true.mp valid term new
  obtain ⟨order, orderRead, orderValid⟩ := Setting.overlay_of_usable orderSet ordered
  obtain ⟨target, targetRead, -⟩ : ∃ target,
      overlay (some globalPreferences.values.pageTarget) override.pageTarget = some target ∧ _ :=
    Setting.overlay_of_usable targetSet rfl
  obtain ⟨advice, adviceRead, -⟩ : ∃ advice,
      overlay (some globalPreferences.values.writingAdvice) override.writingAdvice =
        some advice ∧ _ :=
    Setting.overlay_of_usable adviceSet rfl
  have inheritedShort :
      (some globalPreferences.values.writingAdvice).all (·.length ≤ 2000) = true :=
    decide_eq_true short
  have adviceShort := overlay_all inheritedShort bounds.2
  rw [adviceRead] at adviceShort
  let values : PreferenceValues :=
    { excludedProjectIds := projects
      excludedFieldIds := fields
      bannedTerms := terms
      maxBulletsPerProject :=
        overlay globalPreferences.values.maxBulletsPerProject override.maxBulletsPerProject
      sectionOrder := order
      lockedItemIds := globalPreferences.values.lockedItemIds
      pageTarget := target
      writingAdvice := advice }
  have valid : values.valid chars = true := by
    simp only [values, PreferenceValues.valid, Bool.and_eq_true, decide_eq_true_eq]
    exact ⟨⟨⟨⟨⟨⟨⟨projectsOnce, fieldsOnce⟩, termsOnce⟩, locked⟩, orderValid⟩, termsSpelled⟩,
      overlay_all limited bounds.1⟩, of_decide_eq_true adviceShort⟩
  exact ⟨⟨values, valid⟩, modelValidatePreferences_ok.mpr
    ⟨projectsRead, fieldsRead, termsRead, rfl, orderRead, rfl, targetRead, adviceRead⟩⟩

/-! ## One request -/

/-- The overrides sessions were created with are usable. -/
def CreatedUsable (tables : ProfileDb chars) : Prop :=
  ∀ sessionId session, tables.sessionProfiles.get sessionId = some session →
    overrideUsable chars session.override.fields = true

/-- The overrides sessions have come to are usable. -/
def MergedUsable (tables : ProfileDb chars) : Prop :=
  ∀ sessionId session, tables.sessionProfiles.get sessionId = some session →
    overrideUsable chars session.currentPreferences.2.1.fields = true

theorem overrideUsable_merged {earlier later : JobPreferenceOverrideV1}
    (usable : overrideUsable chars earlier = true) :
    overrideUsable chars (overrideMerged earlier later) = overrideUsable chars later := by
  simp only [overrideUsable, Bool.and_eq_true] at usable
  obtain ⟨⟨⟨⟨⟨projects, fields⟩, terms⟩, order⟩, target⟩, advice⟩ := usable
  simp only [overrideUsable, overrideMerged, Setting.usable_orElse projects,
    Setting.usable_orElse fields, Setting.usable_orElse terms, Setting.usable_orElse order,
    Setting.usable_orElse target, Setting.usable_orElse advice]

/-- A session whose two overrides are usable is. -/
theorem sessionUsable_of {tables : ProfileDb chars} {session : SessionProfile}
    (named : tables.globalPreferences session = some globalPreferences)
    (created : overrideUsable chars session.override.fields = true)
    (merged : overrideUsable chars session.currentPreferences.2.1.fields = true) :
    SessionUsable tables session globalPreferences := by
  obtain ⟨first, accepted⟩ := accepted_of_usable globalPreferences session.override.valid created
  obtain ⟨last, computed⟩ :=
    accepted_of_usable globalPreferences session.currentPreferences.2.1.valid merged
  refine ⟨named, ⟨first, accepted, protects_of_accepted accepted⟩,
    ⟨last, computed, protects_of_accepted computed⟩, ?_⟩
  rintro tenant ⟨version, preference⟩ read
  obtain ⟨rows, stored, -, preferred⟩ := profileInputs_ok read
  have same : preference.preferences = globalPreferences := by
    rw [ProfileDb.globalPreferences, stored, Option.bind_some, preferred] at named
    exact Option.some.inj named
  refine ⟨last.withLocks session.currentPreferences.2.2, ?_,
    (protects_of_accepted computed).withLocks _⟩
  have locked : sessionPreferences (session.preferencesUnder globalPreferences) none =
      (effectivePreferences globalPreferences
        session.currentPreferences.2.1.fields).map fun effective =>
          effective.withLocks session.currentPreferences.2.2 := rfl
  rw [effectiveSessionPreferences, read]
  dsimp only
  rw [same, locked, computed]
  rfl

theorem preferencesUsable_iff {world : ProfileWorld chars} (sound : TablesSound world.tables)
    (created : CreatedUsable world.tables) :
    PreferencesUsable world ↔ MergedUsable world.tables := by
  constructor
  · intro usable sessionId session stored
    obtain ⟨globalPreferences, here⟩ := usable sessionId session stored
    obtain ⟨effective, accepted, -⟩ := here.merged
    exact usable_of_accepted accepted
  · intro merged sessionId session stored
    obtain ⟨globalPreferences, named⟩ := (sound.sessions sessionId session stored).named
    exact ⟨globalPreferences, sessionUsable_of named (created sessionId session stored)
      (merged sessionId session stored)⟩

section Step
variable {tables after : ProfileDb chars} {sessionId : UUID} {later : SessionProfile}

theorem mergedUsable_put
    (written : after.sessionProfiles = tables.sessionProfiles.put sessionId later)
    (before : MergedUsable tables) :
    MergedUsable after ↔ overrideUsable chars later.currentPreferences.2.1.fields = true := by
  unfold MergedUsable
  rw [written]
  exact ⟨fun all => all sessionId later (Table.put_get_self _ _ _),
    fun usable => Table.forall_put before usable⟩

/-- Only creating a session writes the override it was created with. -/
theorem createdUsable_step {op : ProfileOp chars} {reply : Except StoreError ResumeReply}
    (step : ProfileStep tables op reply after) (before : CreatedUsable tables) :
    CreatedUsable after := by
  unfold CreatedUsable
  rcases step_sessions step with ⟨same, -⟩ | ⟨-, sessionId, later, write, written⟩
  · rw [same]
    exact before
  · rw [written]
    refine Table.forall_put before ?_
    cases write with
    | created checked =>
      obtain ⟨_, _, -, accepted⟩ := checkCreation_named checked
      exact usable_of_accepted accepted
    | saved payload target stored =>
      have there := before _ _ stored
      exact there
    | locked target stored =>
      have there := before _ _ stored
      exact there

end Step

/-- One request leaves the merged overrides usable exactly if its feedback is. -/
theorem mergedUsable_step {world : ProfileWorld chars} (op : ProfileOp chars)
    (sound : TablesSound world.tables) (before : MergedUsable world.tables) :
    MergedUsable (serveProfile cfg world op).1.tables ↔ FeedbackUsable cfg world op := by
  rcases step_sessions (@serveProfile_step _ cfg world op) with
    ⟨same, stale⟩ | ⟨fresh, sessionId, later, write, written⟩
  · refine iff_of_true ?_ ?_
    · unfold MergedUsable
      rw [same]
      exact before
    · rintro tenant request digest commandId facts preferences rfl payload fresh
      exact absurd fresh (stale (by simp [ProfileOp.writesSession, payload,
        PreferenceFeedbackV1.scope]))
  rw [mergedUsable_put written before]
  cases write with
  | created checked =>
    obtain ⟨_, _, -, accepted⟩ := checkCreation_named checked
    exact iff_of_true (usable_of_accepted accepted) (by rintro _ _ _ _ _ _ ⟨⟩)
  | @saved tenant request digest commandId facts sessionId session preferences merged payload
      target stored merges =>
    obtain ⟨same, validated, fields⟩ :=
      modelValidate_merge session.currentPreferences.2.1 preferences
    cases validated.symm.trans merges
    rw [currentPreferences_save (sound.sessions _ session stored)]
    dsimp only
    rw [fields, overrideUsable_merged (before _ session stored)]
    constructor
    · intro usable _ _ _ _ _ asked same payload' _
      cases same
      cases payload.symm.trans payload'
      exact usable
    · intro usable
      exact usable tenant request digest commandId facts preferences rfl payload fresh
  | @locked tenant request digest commandId facts sessionId session locks target stored =>
    rw [currentPreferences_save (sound.sessions _ session stored)]
    exact iff_of_true (before _ session stored) (by rintro _ _ _ _ _ _ ⟨⟩)

/-! ## Every run -/

variable (chars cfg) in
/-- The preferences of every session stay usable throughout a run exactly if no
accepted session feedback of it sets a field other than the bullet limit to null,
bans an invalid term or orders the sections incompletely. -/
theorem preferences_usable_iff (ops : List (ProfileOp chars)) :
    (profileStores chars cfg).Throughout PreferencesUsable (profileStores chars cfg).start ops ↔
      (profileStores chars cfg).Guarded (FeedbackUsable cfg) (profileStores chars cfg).start
        ops := by
  have base : ∀ world op, TablesSound world.tables ∧ CreatedUsable world.tables →
      TablesSound ((profileStores chars cfg).step world op).1.tables ∧
        CreatedUsable ((profileStores chars cfg).step world op).1.tables :=
    fun world op both => ⟨serveProfile_sound world op both.1,
      createdUsable_step (serveProfile_step world op) both.2⟩
  refine (profileStores chars cfg).throughout_iff_guarded base (fun world op both usable => ?_)
    ⟨start_sound chars cfg, fun _ _ stored => (nomatch stored)⟩
    (fun _ _ stored => (nomatch stored)) ops
  have merged := (preferencesUsable_iff both.1 both.2).mp usable
  rw [← mergedUsable_step op both.1 merged]
  exact preferencesUsable_iff (serveProfile_sound world op both.1)
    (createdUsable_step (serveProfile_step world op) both.2)

/-! ## Feedback with an explicit null -/

namespace Sample

/-- Session feedback on session 50 that sets the page target to null. -/
def unsetPageTarget : ProfileOp asciiTables :=
  .preference member
    ⟨3, "resume_feedback_preference", some 50, 1,
      .session ⟨⟨none, none, none, none, none, some none, none⟩, rfl⟩, some ⟨0, none⟩⟩
      "unset" 303 (sessionFacts 51 90)

end Sample

/-- The feedback is stored, and the effective preferences are refused from then on. -/
theorem preferences_unusable : ¬ ∀ (cfg : ResumeConfig) (ops : List (ProfileOp asciiTables)),
    (profileStores asciiTables cfg).Throughout PreferencesUsable
      (profileStores asciiTables cfg).start ops := by
  intro usable
  have last := (profileStores asciiTables Sample.profileConfig).throughout_last
    (usable Sample.profileConfig (Sample.profileSession ++ [Sample.unsetPageTarget]))
  obtain ⟨globalPreferences, session⟩ := last 50 _ rfl
  obtain ⟨effective, accepted, -⟩ := session.merged
  exact absurd (usable_of_accepted accepted) (by decide)

end Pathfinder
