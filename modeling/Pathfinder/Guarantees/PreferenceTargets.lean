import Pathfinder.Guarantees.RoundPreferences
import Pathfinder.Profiles.Sound

/-!
# Targets of global preferences

`resume_preference_update` checks the targets of the preferences it stores;
global feedback from a session stores a preference version without that check.
Edits and reviews never change the items of a profile, so a version that was
valid when it was written stays valid.
-/
namespace Pathfinder
open KeyedTable Machines Journals

variable {chars : CharacterTables} {cfg : ResumeConfig}

/-- The preference versions a request stores have their targets in the content that
is current then. -/
def WrittenValid (tables after : ProfileDb chars) : Prop :=
  ∀ profileId rows row version, after.profiles.get profileId = some rows →
    row ∈ rows.preferences →
    (∀ before, tables.profiles.get profileId = some before → row ∉ before.preferences) →
    rows.currentVersion = some version →
    validatePreferenceTargets version.content.data row.preferences = .ok ()

/-- A session with the current versions of a profile and no override of its own is
refused only to those who have no access. -/
def CreatableUnset (world : ProfileWorld chars) : Prop :=
  ∀ tenant profileId rows version preference projectIds reason,
    world.tables.profiles.get profileId = some rows → rows.currentVersion = some version →
    rows.currentPreference = some preference →
    checkCreation world.tables tenant
      ⟨⟨profileId, version.version⟩, preference.version, projectIds, .unset⟩ = .error reason →
    reason = .notFound

variable (cfg) in
/-- The request writes valid preference versions only. -/
def WritesValid (world : ProfileWorld chars) (op : ProfileOp chars) : Prop :=
  WrittenValid world.tables (serveProfile cfg world op).1.tables

variable (cfg) in
/-- The request, if it is accepted global feedback, has its targets in the current
content of the profile. -/
def FeedbackTargetsValid (world : ProfileWorld chars) (op : ProfileOp chars) : Prop :=
  ∀ tenant request digest commandId facts preferences expected sessionId session rows version,
    op = .preference tenant request digest commandId facts →
    request.payload = .globally preferences expected → Fresh (serveProfile cfg world op).2 →
    request.targetId = some sessionId →
    world.tables.sessionProfiles.get sessionId = some session →
    world.tables.profiles.get session.profileVersionId.profileId = some rows →
    rows.currentVersion = some version →
    validatePreferenceTargets version.content.data preferences = .ok ()

/-! ## One request -/

/-- Every stored preference version is valid against every version of the content. -/
def TargetsKnown (tables : ProfileDb chars) : Prop :=
  ∀ profileId rows row version, tables.profiles.get profileId = some rows →
    row ∈ rows.preferences → version ∈ rows.versions →
    validatePreferenceTargets version.content.data row.preferences = .ok ()

theorem defaultPreferences_valid (content : ResumeContent) :
    validatePreferenceTargets content (defaultPreferences : ResumePreferencesV1 chars) = .ok () :=
  rfl

/-- A preference version that is new to a sound profile is not among its old ones. -/
theorem newPreference_new {rows : ProfileRows chars} (sound : ProfileSound rows)
    (preferences : ResumePreferencesV1 chars) :
    (⟨rows.profile.currentPreferenceVersion + 1, preferences⟩ : ResumePreferenceVersion chars) ∉
      rows.preferences := by
  intro member
  have listed : rows.profile.currentPreferenceVersion + 1 ∈
      List.range' 1 rows.preferences.length :=
    sound.preferences ▸ List.mem_map_of_mem (f := ResumePreferenceVersion.version) member
  have bounds := (List.mem_range'_1.mp listed).2
  rw [sound.currentPreference] at bounds
  omega

section Step
variable {tables after : ProfileDb chars} {profileId : UUID} {rows later : ProfileRows chars}

/-- Only what is stored under the written profile can be new. -/
theorem writtenValid_put (written : after.profiles = tables.profiles.put profileId later) :
    WrittenValid tables after ↔
      ∀ row version, row ∈ later.preferences →
        (∀ before, tables.profiles.get profileId = some before → row ∉ before.preferences) →
        later.currentVersion = some version →
        validatePreferenceTargets version.content.data row.preferences = .ok () := by
  unfold WrittenValid
  rw [written]
  constructor
  · intro all row version member new current
    exact all profileId later row version (Table.put_get_self _ _ _) member new current
  · intro here id rows row version stored member new current
    by_cases same : id = profileId
    · subst same
      rw [Table.put_get_self] at stored
      cases stored
      exact here row version member new current
    · rw [Table.put_get_of_ne _ _ same] at stored
      exact absurd member (new rows stored)

/-- A write that keeps the preference versions writes none. -/
theorem writtenValid_kept (written : after.profiles = tables.profiles.put profileId later)
    (stored : tables.profiles.get profileId = some rows)
    (kept : later.preferences = rows.preferences) : WrittenValid tables after :=
  (writtenValid_put written).mpr fun _ _ member new _ =>
    absurd (kept ▸ member) (new rows stored)

/-- A new preference version is valid if its targets are in the current content. -/
theorem writtenValid_newPreference (sound : ProfileSound rows)
    {preferences : ResumePreferencesV1 chars}
    (written : after.profiles = tables.profiles.put profileId (rows.newPreference preferences))
    (stored : tables.profiles.get profileId = some rows) :
    WrittenValid tables after ↔ ∀ version, rows.currentVersion = some version →
      validatePreferenceTargets version.content.data preferences = .ok () := by
  rw [writtenValid_put written]
  constructor
  · intro all version current
    refine all ⟨_, preferences⟩ version
      (List.mem_append_right _ (List.mem_singleton.mpr rfl)) ?_ current
    intro before found
    cases stored.symm.trans found
    exact newPreference_new sound preferences
  · intro valid row version member new current
    rcases List.mem_append.mp member with there | here
    · exact absurd there (new rows stored)
    · rw [List.mem_singleton.mp here]
      exact valid version current

end Step

/-- One request writes valid versions exactly if its global feedback is valid. -/
theorem step_writes {world : ProfileWorld chars} (op : ProfileOp chars)
    (sound : TablesSound world.tables) :
    WritesValid cfg world op ↔ FeedbackTargetsValid cfg world op := by
  unfold WritesValid
  rcases step_profiles (@serveProfile_step _ cfg world op) with
    ⟨same, stale⟩ | ⟨fresh, profileId, later, write, written⟩
  · refine iff_of_true ?_ ?_
    · intro profileId rows row version stored member new
      exact absurd member (new rows (same ▸ stored))
    · rintro tenant request digest commandId facts preferences expected sessionId session rows
        version rfl payload fresh
      exact absurd fresh (stale (by simp [ProfileOp.writesProfile, payload,
        PreferenceFeedbackV1.scope]))
  cases write with
  | @imported tenant request digest commandId facts preview payload absent =>
    refine iff_of_true ((writtenValid_put written).mpr ?_) (by rintro _ _ _ _ _ _ _ _ _ _ _ ⟨⟩)
    intro row version member _ _
    rw [List.mem_singleton.mp member]
    exact defaultPreferences_valid _
  | @edited tenant request digest commandId facts profileId rows later target stored edit =>
    refine iff_of_true ?_ (by rintro _ _ _ _ _ _ _ _ _ _ _ ⟨⟩)
    generalize request.payload = payload at edit
    cases edit with
    | version current same => exact writtenValid_kept written stored rfl
    | review found => exact writtenValid_kept written stored rfl
    | @preference expected old preferences current valid =>
      refine (writtenValid_newPreference (sound.profiles _ rows stored) written stored).mpr ?_
      intro version here
      cases current.symm.trans here
      exact valid
  | @preferred tenant request digest commandId facts sessionId session rows preferences expected
      payload target named stored =>
    rw [writtenValid_newPreference (sound.profiles _ rows stored) written stored]
    constructor
    · intro valid _ _ _ _ _ other _ _ _ rows' version same asked _ targeted found there current
      cases same
      cases payload.symm.trans asked
      cases target.symm.trans targeted
      cases named.symm.trans found
      cases stored.symm.trans there
      exact valid version current
    · intro valid version current
      exact valid tenant request digest commandId facts preferences expected sessionId session
        rows version rfl payload fresh target named stored current

/-! ## Every run -/

/-- What was valid when it was written is valid against every version of the content. -/
theorem step_known {tables after : ProfileDb chars} {op : ProfileOp chars}
    {reply : Except StoreError ResumeReply} (step : ProfileStep tables op reply after)
    (sound : TablesSound tables) (written : WrittenValid tables after)
    (known : TargetsKnown tables) : TargetsKnown after := by
  intro profileId rows row version stored member listed
  have there := (step_sound step sound).profiles profileId rows stored
  by_cases new : ∀ before, tables.profiles.get profileId = some before → row ∉ before.preferences
  · obtain ⟨current, last⟩ : ∃ current, rows.currentVersion = some current := by
      rw [there.currentVersion_last]
      exact Option.isSome_iff_exists.mp (List.getLast?_isSome.mpr there.stored.1)
    rw [(there.items current (there.current_mem last) version listed).targets]
    exact written profileId rows row current stored member new last
  · simp only [not_forall, not_not] at new
    obtain ⟨before, found, earlier⟩ := new
    obtain ⟨later, same, grown⟩ := profiles_grow step found
    cases stored.symm.trans same
    obtain ⟨first, held⟩ := List.exists_mem_of_ne_nil _ (sound.profiles _ before found).stored.1
    rw [(there.items first (grown.versions.subset held) version listed).targets]
    exact known profileId before row first found earlier held

theorem effectivePreferences_unset (preferences : ResumePreferencesV1 chars) :
    effectivePreferences preferences ValidOverride.unset.fields = .ok preferences :=
  modelValidatePreferences_ok.mpr ⟨rfl, rfl, rfl, rfl, rfl, rfl, rfl, rfl⟩

/-- The row a `find?` by its own number returns is the row itself. -/
theorem find?_own {α : Type} {k : α → Nat} {rows : List α} {number : Nat} {row : α}
    (found : rows.find? (fun row => k row == number) = some row) :
    rows.find? (fun other => k other == k row) = some row := by
  have same : k row = number := by simpa using List.find?_some found
  rw [same, found]

/-- Where all targets are known, no session without an override is refused for them. -/
theorem creatable_known {world : ProfileWorld chars} (sound : TablesSound world.tables)
    (known : TargetsKnown world.tables) : CreatableUnset world := by
  intro tenant profileId rows version preference projectIds reason stored current preferred refused
  have here := sound.profiles profileId rows stored
  unfold checkCreation at refused
  split at refused
  next failed =>
    cases refused
    exact profileInputs_error failed
  next version' preference' named =>
    obtain ⟨rows', found, listed, chosen⟩ := profileInputs_ok named
    cases stored.symm.trans found
    cases listed.symm.trans (find?_own (k := ResumeProfileVersion.version) current)
    cases chosen.symm.trans (find?_own (k := ResumePreferenceVersion.version) preferred)
    rw [effectivePreferences_unset] at refused
    dsimp only at refused
    rw [known profileId rows preference version stored (List.mem_of_find?_eq_some preferred)
      (here.current_mem current)] at refused
    exact projectsAccess_error refused

variable (chars cfg) in
/-- In a run whose accepted global feedback names targets of the current content,
and in no other, every preference version is valid for the content that is current
when it is written, and no session with the current versions of a profile and no
override is refused for its preference targets. -/
theorem preference_targets_valid_iff (ops : List (ProfileOp chars)) :
    ((profileStores chars cfg).Guarded (WritesValid cfg) (profileStores chars cfg).start ops ∧
      (profileStores chars cfg).Throughout CreatableUnset (profileStores chars cfg).start ops) ↔
    (profileStores chars cfg).Guarded (FeedbackTargetsValid cfg)
      (profileStores chars cfg).start ops := by
  have base : ∀ world op, TablesSound world.tables →
      TablesSound ((profileStores chars cfg).step world op).1.tables :=
    fun world op sound => serveProfile_sound world op sound
  have same := (profileStores chars cfg).guarded_congr base
    (fun world op sound => @step_writes _ cfg _ op sound) (start_sound chars cfg) ops
  refine ⟨fun both => same.mp both.1, fun guarded => ⟨same.mpr guarded, ?_⟩⟩
  refine (profileStores chars cfg).throughout_mono
    (P := fun world => TablesSound world.tables ∧ TargetsKnown world.tables)
    (fun world both => creatable_known both.1 both.2) ?_
  refine (profileStores chars cfg).guarded_throughout (fun world op written both => ?_)
    ⟨start_sound chars cfg, fun _ _ _ _ stored => (nomatch stored)⟩ ops (same.mpr guarded)
  exact ⟨base world op both.1, step_known (serveProfile_step world op) both.1 written both.2⟩

/-! ## Feedback that excludes an unknown project -/

namespace Sample

/-- Global feedback from session 50 that excludes a project the profile does not have. -/
def excludeUnknown : ProfileOp asciiTables :=
  .preference member
    ⟨3, "resume_feedback_preference", some 50, 1,
      .globally ⟨⟨[99], [], [], none, [.education, .projects, .skills], [], .one, []⟩, by decide⟩ 1,
      some ⟨0, none⟩⟩ "exclude" 303 (sessionFacts 51 90)

end Sample

/-- The feedback is stored, and a session with the current versions is refused. -/
theorem preference_targets_unknown : ¬ ∀ (cfg : ResumeConfig) (ops : List (ProfileOp asciiTables)),
    (profileStores asciiTables cfg).Guarded (WritesValid cfg) (profileStores asciiTables cfg).start
        ops ∧
      (profileStores asciiTables cfg).Throughout CreatableUnset
        (profileStores asciiTables cfg).start ops := by
  intro valid
  have creatable := (profileStores asciiTables Sample.profileConfig).throughout_last
    (valid Sample.profileConfig (Sample.profileSession ++ [Sample.excludeUnknown])).2
  have missing := creatable Sample.member 40 _ _ _ [61]
    (.validation "excluded project is not in the current profile") rfl rfl rfl rfl
  cases missing

end Pathfinder
