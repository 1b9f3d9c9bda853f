import Pathfinder.Library.Journal
import Pathfinder.Profiles.Steps

/-!
# What holds of every profile

The versions of a profile, its preferences and the reviews of each claim are
numbered from one, all versions have the same items, and the version rows a
session names are there.
-/
namespace Pathfinder
open KeyedTable Machines Journals

variable {chars : CharacterTables} {cfg : ResumeConfig}

/-- The two contents have the same items, and the same projects among them. -/
structure SameItems (content other : ResumeContentV1) : Prop where
  items : other.data.itemIds = content.data.itemIds
  projects : other.data.projects.map ProjectEntry.id = content.data.projects.map ProjectEntry.id

theorem SameItems.refl (content : ResumeContentV1) : SameItems content content := ⟨rfl, rfl⟩

theorem SameItems.symm {content other : ResumeContentV1} (same : SameItems content other) :
    SameItems other content := ⟨same.items.symm, same.projects.symm⟩

theorem SameItems.trans {content other third : ResumeContentV1} (first : SameItems content other)
    (second : SameItems other third) : SameItems content third :=
  ⟨second.items.trans first.items, second.projects.trans first.projects⟩

/-- Contents with the same items accept the same preference targets. -/
theorem SameItems.targets {content other : ResumeContentV1} (same : SameItems content other)
    (preferences : ResumePreferencesV1 chars) :
    validatePreferenceTargets other.data preferences =
      validatePreferenceTargets content.data preferences := by
  simp only [validatePreferenceTargets, same.items, same.projects]

/-- A map that keeps the ids keeps the list of ids. -/
theorem map_ids_kept {α : Type} {f : α → α} {k : α → UUID} (kept : ∀ item, k (f item) = k item)
    (items : List α) : (items.map f).map k = items.map k := by
  simp [List.map_map, Function.comp_def, kept]

theorem editContact_items {content later : ResumeContentV1} {payload : ContactEditV1}
    (ran : editContact content payload = .ok later) : SameItems content later := by
  unfold editContact at ran
  split at ran
  · split at ran
    · cases ran
      exact ⟨rfl, rfl⟩
    · cases ran
  · split at ran
    · cases ran
    cases ran
    refine ⟨?_, rfl⟩
    simp only [ResumeContent.itemIds, ResumeContentV1.setContact, ResumeContent.bulletIds]
    rw [map_ids_kept (k := ContactField.id) (fun item => by split <;> rfl)]

theorem markReviewed_items (content : ResumeContentV1) (itemId : UUID) :
    SameItems content (content.markReviewed itemId) := by
  have projects : (content.markReviewed itemId).data.projects.map ProjectEntry.id =
      content.data.projects.map ProjectEntry.id :=
    map_ids_kept (fun item => by split <;> rfl) _
  have bullets : (content.markReviewed itemId).data.bulletIds = content.data.bulletIds := by
    simp only [ResumeContent.bulletIds, ResumeContentV1.markReviewed, List.flatMap_map]
    congr 1
    funext item
    split <;> rfl
  refine ⟨?_, projects⟩
  simp only [ResumeContent.itemIds, projects, bullets]
  simp only [ResumeContentV1.markReviewed]
  rw [map_ids_kept (k := ContactField.id) (fun item => by split <;> rfl),
    map_ids_kept (k := EducationEntry.id) (fun item => by split <;> rfl),
    map_ids_kept (k := SkillCategory.id) (fun item => by split <;> rfl)]

theorem reviewItem_items {content later : ResumeContentV1} {itemId : UUID}
    (ran : reviewItem content itemId = .ok later) : SameItems content later := by
  unfold reviewItem at ran
  split at ran
  · cases ran
    exact ⟨rfl, rfl⟩
  · split at ran
    · cases ran
    cases ran
    exact markReviewed_items content itemId

/-! ## An edit -/

/-- What an accepted edit does to the rows of its profile. -/
inductive ProfileEdit (rows : ProfileRows chars) (reviewId actorUserId : UUID) :
    ProfilePayload chars → ProfileRows chars → Prop
  | version {payload : ProfilePayload chars} {old : ResumeProfileVersion}
      {content : ResumeContentV1} (current : rows.currentVersion = some old)
      (same : SameItems old.content content) (unreviewed : ∀ review, payload ≠ .claimReview review) :
      ProfileEdit rows reviewId actorUserId payload (rows.newVersion content)
  | preference {expectedVersion : Nat} {old : ResumeProfileVersion}
      {preferences : ResumePreferencesV1 chars} (current : rows.currentVersion = some old)
      (valid : validatePreferenceTargets old.content.data preferences = .ok ()) :
      ProfileEdit rows reviewId actorUserId (.preferenceUpdate expectedVersion preferences)
        (rows.newPreference preferences)
  | review {payload : ClaimReviewV1} {claim : ClaimRows}
      (found : rows.claims.get payload.claimId = some claim)
      (unlinked : payload.decision ≠ .linked → payload.projectId = none) :
      ProfileEdit rows reviewId actorUserId (.claimReview payload)
        { rows with claims := rows.claims.put payload.claimId
                      (claim.addReview payload reviewId actorUserId) }

theorem checkReferences_unlinked {materials : MaterialDb} {tenant : TenantContext}
    {payload : ClaimReviewV1} (checked : checkReferences materials tenant payload = .ok ())
    (unlinked : payload.decision ≠ .linked) : payload.projectId = none := by
  unfold checkReferences at checked
  rw [if_neg unlinked] at checked
  split at checked
  · cases checked
  next bare => simpa using (not_or.mp bare).1

theorem editProfile_edit {materials : MaterialDb} {tenant : TenantContext}
    {rows later : ProfileRows chars} {facts : ProfileFacts} {payload : ProfilePayload chars}
    (ran : editProfile materials tenant rows facts payload = .ok later) :
    ProfileEdit rows facts.reviewId tenant.actorUserId payload later := by
  cases payload with
  | profileImport preview => cases ran
  | contactEdit edit =>
    dsimp only [editProfile] at ran
    split at ran
    · cases ran
    next old current =>
      split at ran
      · cases ran
      obtain ⟨content, edited, rfl⟩ := map_ok ran
      exact .version current (editContact_items edited) (fun _ => nofun)
  | itemReview expectedVersion itemId =>
    dsimp only [editProfile] at ran
    split at ran
    · cases ran
    next old current =>
      split at ran
      · cases ran
      obtain ⟨content, edited, rfl⟩ := map_ok ran
      exact .version current (reviewItem_items edited) (fun _ => nofun)
  | preferenceUpdate expectedVersion preferences =>
    dsimp only [editProfile] at ran
    split at ran
    · cases ran
    next old current =>
      split at ran
      · cases ran
      obtain ⟨⟨⟩, valid, rfl⟩ := map_ok ran
      exact .preference current valid
  | claimReview review =>
    dsimp only [editProfile] at ran
    split at ran
    · cases ran
    unfold reviewClaim at ran
    split at ran
    · cases ran
    next claim found =>
      split at ran
      · cases ran
      obtain ⟨⟨⟩, checked, rfl⟩ := map_ok ran
      exact .review found (checkReferences_unlinked checked)

/-! ## The rows of a profile -/

/-- The claims of an import have no reviews. -/
theorem claimTable_unreviewed (ids : List UUID) (claims : List ResumeSourceClaim) :
    ∀ k claim, (claimTable ids claims).get k = some claim →
      claim.reviews = [] ∧ claim.claim.reviewVersion = 0 := by
  unfold claimTable
  suffices all : ∀ (pairs : List (UUID × ResumeSourceClaim)) (table : Table UUID ClaimRows),
      (∀ k claim, table.get k = some claim →
        claim.reviews = [] ∧ claim.claim.reviewVersion = 0) →
      ∀ k claim, (pairs.foldl (fun table entry =>
        table.put entry.1 ⟨{ entry.2 with reviewVersion := 0 }, []⟩) table).get k = some claim →
        claim.reviews = [] ∧ claim.claim.reviewVersion = 0 by
    exact all _ Table.empty (fun k claim found => by cases found)
  intro pairs
  induction pairs with
  | nil => exact fun table before => before
  | cons entry rest ih =>
    intro table before
    exact ih _ (Table.forall_put before ⟨rfl, rfl⟩)

/-- The rows of one profile. -/
structure ProfileSound (rows : ProfileRows chars) : Prop where
  versions : NumberedFrom ResumeProfileVersion.version 1 rows.versions
  currentVersion : rows.profile.currentVersion = rows.versions.length
  preferences : NumberedFrom ResumePreferenceVersion.version 1 rows.preferences
  currentPreference : rows.profile.currentPreferenceVersion = rows.preferences.length
  stored : rows.versions ≠ [] ∧ rows.preferences ≠ []
  items : ∀ first ∈ rows.versions, ∀ second ∈ rows.versions,
    SameItems first.content second.content
  claims : ∀ k claim, rows.claims.get k = some claim →
    NumberedFrom ResumeClaimReview.version 1 claim.reviews ∧
      claim.claim.reviewVersion = claim.reviews.length

/-- In a numbered list the row that carries the last number is the last row. -/
theorem find_last {α : Type} {seq : α → Nat} {rows : List α} (numbered : NumberedFrom seq 1 rows) :
    rows.find? (fun row => seq row == rows.length) = rows.getLast? := by
  cases rows using List.reverseRecOn with
  | nil => rfl
  | append_singleton rest last =>
    have before := numberedFrom_begins numbered (List.prefix_append _ _)
    have carried := numberedFrom_last numbered
    have earlier : rest.find? (fun row => seq row == (rest ++ [last]).length) = none := by
      refine List.find?_eq_none.mpr fun row member => ?_
      have listed : seq row ∈ List.range' 1 rest.length := before ▸ List.mem_map_of_mem member
      have bounds := List.mem_range'_1.mp listed
      rw [List.length_append, List.length_singleton]
      simp only [beq_iff_eq]
      omega
    rw [List.find?_append, earlier, Option.none_or, List.getLast?_concat]
    simp [carried]

namespace ProfileSound
variable {rows : ProfileRows chars}

theorem currentVersion_last (sound : ProfileSound rows) :
    rows.currentVersion = rows.versions.getLast? := by
  rw [ProfileRows.currentVersion, sound.currentVersion, find_last sound.versions]

theorem imported (tenant : TenantContext) (preview : SourcePreview) (ids : List UUID) :
    ProfileSound (importedRows tenant preview ids : ProfileRows chars) := by
  refine ⟨rfl, rfl, rfl, rfl, ⟨by simp [importedRows], by simp [importedRows]⟩, ?_, ?_⟩
  · intro first member second other
    rw [List.mem_singleton.mp member, List.mem_singleton.mp other]
    exact .refl _
  · intro k claim found
    obtain ⟨none_, unreviewed⟩ := claimTable_unreviewed ids preview.claims k claim found
    rw [none_]
    exact ⟨numberedFrom_nil, unreviewed⟩

theorem current_mem (sound : ProfileSound rows) {old : ResumeProfileVersion}
    (current : rows.currentVersion = some old) : old ∈ rows.versions :=
  List.mem_of_getLast? (sound.currentVersion_last ▸ current)

theorem newVersion (sound : ProfileSound rows) {old : ResumeProfileVersion}
    {content : ResumeContentV1} (current : rows.currentVersion = some old)
    (same : SameItems old.content content) : ProfileSound (rows.newVersion content) := by
  have next : 1 + rows.versions.length = rows.profile.currentVersion + 1 := by
    rw [sound.currentVersion, Nat.add_comm]
  have before := sound.items
  have member := sound.current_mem current
  refine ⟨numberedFrom_append sound.versions (numberedFrom_singleton next.symm), ?_,
    sound.preferences, sound.currentPreference, ⟨by simp [ProfileRows.newVersion], sound.stored.2⟩,
    ?_, sound.claims⟩
  · simp [ProfileRows.newVersion, sound.currentVersion]
  · intro first listed second other
    have from_old {row : ResumeProfileVersion} (listed : row ∈ (rows.newVersion content).versions) :
        SameItems old.content row.content := by
      rcases List.mem_append.mp listed with there | new
      · exact before old member row there
      · rw [List.mem_singleton.mp new]
        exact same
    exact (from_old listed).symm.trans (from_old other)

theorem newPreference (sound : ProfileSound rows) (preferences : ResumePreferencesV1 chars) :
    ProfileSound (rows.newPreference preferences) := by
  have next : 1 + rows.preferences.length = rows.profile.currentPreferenceVersion + 1 := by
    rw [sound.currentPreference, Nat.add_comm]
  refine ⟨sound.versions, sound.currentVersion,
    numberedFrom_append sound.preferences (numberedFrom_singleton next.symm), ?_,
    ⟨sound.stored.1, by simp [ProfileRows.newPreference]⟩, sound.items, sound.claims⟩
  simp [ProfileRows.newPreference, sound.currentPreference]

theorem edited (sound : ProfileSound rows) {reviewId actorUserId : UUID}
    {payload : ProfilePayload chars} {later : ProfileRows chars}
    (edit : ProfileEdit rows reviewId actorUserId payload later) : ProfileSound later := by
  cases edit with
  | version current same => exact sound.newVersion current same
  | preference => exact sound.newPreference _
  | @review payload claim found unlinked =>
    refine ⟨sound.versions, sound.currentVersion, sound.preferences, sound.currentPreference,
      sound.stored, sound.items, Table.forall_put sound.claims ?_⟩
    obtain ⟨numbered, counted⟩ := sound.claims _ claim found
    refine ⟨numberedFrom_append numbered (numberedFrom_singleton ?_), ?_⟩
    · rw [counted, Nat.add_comm]
    · simp [ClaimRows.addReview, counted]

end ProfileSound

/-! ## Writes -/

/-- The requests that write to a profile. -/
def ProfileOp.writesProfile : ProfileOp chars → Bool
  | .profile .. => true
  | .preference _ request _ _ _ => request.payload.scope == .globally
  | .setMaterials _ | .resume _ | .createSession .. | .lock .. => false

/-- What a request writes of a profile. -/
inductive ProfileWrite (tables : ProfileDb chars) :
    ProfileOp chars → UUID → ProfileRows chars → Prop
  | imported {tenant request digest commandId facts preview}
      (payload : request.payload = .profileImport (some preview))
      (absent : tables.profiles.get facts.profileId = none) :
      ProfileWrite tables (.profile tenant request digest commandId facts) facts.profileId
        (importedRows tenant preview facts.claimIds)
  | edited {tenant request digest commandId facts profileId rows later}
      (target : request.targetId = some profileId)
      (stored : tables.profiles.get profileId = some rows)
      (edit : ProfileEdit rows facts.reviewId tenant.actorUserId request.payload later) :
      ProfileWrite tables (.profile tenant request digest commandId facts) profileId later
  | preferred {tenant request digest commandId facts sessionId session rows preferences expected}
      (payload : request.payload = .globally preferences expected)
      (target : request.targetId = some sessionId)
      (named : tables.sessionProfiles.get sessionId = some session)
      (stored : tables.profiles.get session.profileVersionId.profileId = some rows) :
      ProfileWrite tables (.preference tenant request digest commandId facts)
        session.profileVersionId.profileId (rows.newPreference preferences)

theorem findProfile_stored {tables : ProfileDb chars} {tenant : TenantContext} {profileId : UUID}
    {edit : Bool} {rows : ProfileRows chars}
    (found : findProfile tables tenant profileId edit = .ok rows) :
    tables.profiles.get profileId = some rows := by
  unfold findProfile at found
  split at found
  · cases found
  next stored =>
    split at found
    · cases found
    cases found
    exact (Option.filter_eq_some_iff.mp stored).1

theorem importProfile_ok {tables after : ProfileDb chars} {tenant : TenantContext}
    {preview : Option SourcePreview} {facts : ProfileFacts}
    (ran : importProfile tables tenant preview facts = .ok after) :
    ∃ complete, preview = some complete ∧ tables.profiles.get facts.profileId = none ∧
      after = tables.putProfile facts.profileId (importedRows tenant complete facts.claimIds) := by
  unfold importProfile at ran
  split at ran
  · cases ran
  next complete =>
    split at ran
    · cases ran
    split at ran
    · cases ran
    next absent =>
      split at ran
      · cases ran
      cases ran
      exact ⟨complete, rfl, by simpa using absent, rfl⟩

/-- A change of locks saves the override as it is. -/
theorem applyLock_ok {tables after : ProfileDb chars} {sessionId : UUID}
    {session : SessionProfile} {change : LockChangeV1}
    (ran : applyLock tables sessionId session change = .ok after) :
    ∃ locks, after = tables.putSessionProfile sessionId
      (session.savePreferences session.currentPreferences.2.1 locks) := by
  unfold applyLock at ran
  split at ran
  · cases ran
  dsimp only at ran
  split at ran
  · cases ran
  split at ran
  · cases ran
  cases ran
  exact ⟨_, rfl⟩

/-- A request writes one profile, or none and then was not accepted as such a write. -/
theorem step_profiles {tables after : ProfileDb chars} {op : ProfileOp chars}
    {reply : Except StoreError ResumeReply} (step : ProfileStep tables op reply after) :
    (after.profiles = tables.profiles ∧ (op.writesProfile = true → ¬ Fresh reply)) ∨
    (Fresh reply ∧ ∃ profileId later, ProfileWrite tables op profileId later ∧
      after.profiles = tables.profiles.put profileId later) := by
  cases step with
  | refused stale same => exact .inl ⟨same.profiles, fun _ => stale⟩
  | materials same | elsewhere same => exact .inl ⟨same.profiles, nofun⟩
  | imported payload fresh ran same =>
    obtain ⟨complete, rfl, absent, rfl⟩ := importProfile_ok ran
    exact .inr ⟨fresh, _, _, .imported payload absent, same.profiles⟩
  | edited target fresh found ran same =>
    exact .inr ⟨fresh, _, _, .edited target (findProfile_stored found) (editProfile_edit ran),
      same.profiles⟩
  | created fresh checked same => exact .inl ⟨same.profiles, nofun⟩
  | @preferred tenant request digest commandId facts reply sessionId session changed after target
      fresh stored ran same =>
    cases payload : request.payload with
    | round preferences =>
      rw [payload] at ran
      cases ran
      exact .inl ⟨same.profiles, by simp [ProfileOp.writesProfile, payload,
        PreferenceFeedbackV1.scope]⟩
    | session preferences =>
      rw [payload] at ran
      obtain ⟨merged, -, rfl⟩ := map_ok ran
      exact .inl ⟨same.profiles, by simp [ProfileOp.writesProfile, payload,
        PreferenceFeedbackV1.scope]⟩
    | globally preferences expected =>
      rw [payload] at ran
      dsimp only [applyPreferences] at ran
      split at ran
      · cases ran
      split at ran
      · cases ran
      next rows profile =>
        split at ran
        · cases ran
        cases ran
        exact .inr ⟨fresh, _, _, .preferred payload target stored profile, same.profiles⟩
  | locked target fresh stored ran same =>
    obtain ⟨locks, rfl⟩ := applyLock_ok ran
    exact .inl ⟨same.profiles, nofun⟩

/-- What a request writes of the preferences of a session. -/
inductive SessionWrite (tables : ProfileDb chars) :
    ProfileOp chars → UUID → SessionProfile → Prop
  | created {tenant request digest commandId facts}
      (checked : checkCreation tables tenant request.payload = .ok ()) :
      SessionWrite tables (.createSession tenant request digest commandId facts) facts.resourceId
        request.payload.sessionProfile
  | saved {tenant request digest commandId facts sessionId session preferences merged}
      (payload : request.payload = .session preferences)
      (target : request.targetId = some sessionId)
      (stored : tables.sessionProfiles.get sessionId = some session)
      (merges : ValidOverride.modelValidate
        (session.currentPreferences.2.1.dumpSet.merge preferences.dumpSet) = .ok merged) :
      SessionWrite tables (.preference tenant request digest commandId facts) sessionId
        (session.savePreferences merged session.currentPreferences.2.2)
  | locked {tenant request digest commandId facts sessionId session locks}
      (target : request.targetId = some sessionId)
      (stored : tables.sessionProfiles.get sessionId = some session) :
      SessionWrite tables (.lock tenant request digest commandId facts) sessionId
        (session.savePreferences session.currentPreferences.2.1 locks)

/-- The requests that write the preferences of a session. -/
def ProfileOp.writesSession : ProfileOp chars → Bool
  | .createSession .. | .lock .. => true
  | .preference _ request _ _ _ => request.payload.scope == .session
  | .setMaterials _ | .resume _ | .profile .. => false

/-- A request writes the preferences of one session, or none and then was not
accepted as such a write. -/
theorem step_sessions {tables after : ProfileDb chars} {op : ProfileOp chars}
    {reply : Except StoreError ResumeReply} (step : ProfileStep tables op reply after) :
    (after.sessionProfiles = tables.sessionProfiles ∧
      (op.writesSession = true → ¬ Fresh reply)) ∨
    (Fresh reply ∧ ∃ sessionId later, SessionWrite tables op sessionId later ∧
      after.sessionProfiles = tables.sessionProfiles.put sessionId later) := by
  cases step with
  | refused stale same => exact .inl ⟨same.sessions, fun _ => stale⟩
  | materials same | elsewhere same => exact .inl ⟨same.sessions, nofun⟩
  | imported payload fresh ran same =>
    obtain ⟨complete, rfl, absent, rfl⟩ := importProfile_ok ran
    exact .inl ⟨same.sessions, nofun⟩
  | edited target fresh found ran same => exact .inl ⟨same.sessions, nofun⟩
  | created fresh checked same => exact .inr ⟨fresh, _, _, .created checked, same.sessions⟩
  | @preferred tenant request digest commandId facts reply sessionId session changed after target
      fresh stored ran same =>
    cases payload : request.payload with
    | round preferences =>
      rw [payload] at ran
      cases ran
      exact .inl ⟨same.sessions, by simp [ProfileOp.writesSession, payload,
        PreferenceFeedbackV1.scope]⟩
    | session preferences =>
      rw [payload] at ran
      obtain ⟨merged, merges, rfl⟩ := map_ok ran
      exact .inr ⟨fresh, _, _, .saved payload target stored merges, same.sessions⟩
    | globally preferences expected =>
      refine .inl ⟨same.sessions.trans ?_, by simp [ProfileOp.writesSession, payload,
        PreferenceFeedbackV1.scope]⟩
      rw [payload] at ran
      dsimp only [applyPreferences] at ran
      split at ran
      · cases ran
      split at ran
      · cases ran
      split at ran
      · cases ran
      cases ran
      rfl
  | locked target fresh stored ran same =>
    obtain ⟨locks, rfl⟩ := applyLock_ok ran
    exact .inr ⟨fresh, _, _, .locked target stored, same.sessions⟩

/-! ## Refusals -/

theorem profileInputs_error {tables : ProfileDb chars} {tenant : TenantContext}
    {profileVersionId : ProfileVersionId} {preferenceVersion : Nat} {reason : StoreError}
    (refused : profileInputs tables tenant profileVersionId preferenceVersion = .error reason) :
    reason = .notFound := by
  unfold profileInputs at refused
  repeat' split at refused
  all_goals cases refused
  all_goals rfl

theorem projectsAccess_error {materials : MaterialDb} {tenant : TenantContext}
    {projectIds : List UUID} {reason : StoreError}
    (refused : projectsAccess materials tenant projectIds = .error reason) :
    reason = .notFound := by
  induction projectIds with
  | nil => cases refused
  | cons projectId rest ih =>
    unfold projectsAccess at refused
    split at refused
    next failed =>
      cases refused
      unfold projectAccess at failed
      repeat' split at failed
      all_goals cases failed
      all_goals rfl
    · exact ih refused

theorem sessionAccess_error {tables : ProfileDb chars} {tenant : TenantContext}
    {sessionId : UUID} {reason : StoreError}
    (refused : sessionAccess tables tenant sessionId = .error reason) :
    reason = .notFound ∨ reason = .invariant "session profile version is missing" := by
  unfold sessionAccess at refused
  split at refused
  · cases refused
    exact .inl rfl
  · split at refused
    · cases refused
      exact .inl rfl
    · split at refused
      · cases refused
        exact .inr rfl
      · split at refused
        next failed =>
          cases refused
          exact .inl (profileInputs_error failed)
        · exact .inl (projectsAccess_error refused)

theorem effectivePreferences_error {preferences : ResumePreferencesV1 chars}
    {override : JobPreferenceOverrideV1} {reason : StoreError}
    (refused : effectivePreferences preferences override = .error reason) :
    reason = .value "resume preferences are invalid" := by
  unfold effectivePreferences modelValidatePreferences at refused
  dsimp only at refused
  split at refused
  · split at refused
    · cases refused
    cases refused
    rfl
  · cases refused
    rfl

/-! ## Every reachable state -/

/-- The global preferences a session was created with. -/
def ProfileDb.globalPreferences (tables : ProfileDb chars) (session : SessionProfile) :
    Option (ResumePreferencesV1 chars) :=
  (tables.profiles.get session.profileVersionId.profileId).bind fun rows =>
    (rows.preferences.find? fun row => row.version == session.preferenceVersionId.version).map
      ResumePreferenceVersion.preferences

theorem profileInputs_ok {tables : ProfileDb chars} {tenant : TenantContext}
    {profileVersionId : ProfileVersionId} {preferenceVersion : Nat}
    {version : ResumeProfileVersion} {preference : ResumePreferenceVersion chars}
    (ran : profileInputs tables tenant profileVersionId preferenceVersion =
      .ok (version, preference)) :
    ∃ rows, tables.profiles.get profileVersionId.profileId = some rows ∧
      rows.versions.find? (fun row => row.version == profileVersionId.version) = some version ∧
      rows.preferences.find? (fun row => row.version == preferenceVersion) = some preference := by
  unfold profileInputs at ran
  split at ran
  · cases ran
  next rows found =>
    split at ran
    · cases ran
    next named =>
      split at ran
      · cases ran
      split at ran
      · cases ran
      next preferred =>
        cases ran
        exact ⟨rows, (Option.filter_eq_some_iff.mp found).1, named, preferred⟩

/-- What a session names is there, and its preference versions are numbered. -/
structure SessionSound (tables : ProfileDb chars) (session : SessionProfile) : Prop where
  named : ∃ preferences, tables.globalPreferences session = some preferences
  numbered : NumberedFrom ResumeSessionPreferenceVersion.version 1 session.preferences

structure TablesSound (tables : ProfileDb chars) : Prop where
  profiles : ∀ profileId rows, tables.profiles.get profileId = some rows → ProfileSound rows
  sessions : ∀ sessionId session, tables.sessionProfiles.get sessionId = some session →
    SessionSound tables session

/-- No version of a profile is taken back. -/
structure Grown (rows later : ProfileRows chars) : Prop where
  versions : rows.versions <+: later.versions
  preferences : rows.preferences <+: later.preferences

theorem Grown.refl (rows : ProfileRows chars) : Grown rows rows :=
  ⟨List.prefix_refl _, List.prefix_refl _⟩

theorem ProfileEdit.grows {rows later : ProfileRows chars} {reviewId actorUserId : UUID}
    {payload : ProfilePayload chars} (edit : ProfileEdit rows reviewId actorUserId payload later) :
    Grown rows later := by
  cases edit with
  | version => exact ⟨List.prefix_append _ _, List.prefix_refl _⟩
  | preference => exact ⟨List.prefix_refl _, List.prefix_append _ _⟩
  | review => exact ⟨List.prefix_refl _, List.prefix_refl _⟩

theorem ProfileWrite.grows {tables : ProfileDb chars} {op : ProfileOp chars} {profileId : UUID}
    {rows later : ProfileRows chars} (write : ProfileWrite tables op profileId later)
    (stored : tables.profiles.get profileId = some rows) : Grown rows later := by
  cases write with
  | imported payload absent =>
    rw [absent] at stored
    cases stored
  | edited target found edit =>
    cases found.symm.trans stored
    exact edit.grows
  | preferred payload target named found =>
    cases found.symm.trans stored
    exact ⟨List.prefix_refl _, List.prefix_append _ _⟩

theorem find?_begins {α : Type} {p : α → Bool} {rows more : List α} {row : α}
    (grown : rows <+: more) (found : rows.find? p = some row) : more.find? p = some row := by
  obtain ⟨added, rfl⟩ := grown
  rw [List.find?_append, found, Option.some_or]

section Reached
variable {tables after : ProfileDb chars} {op : ProfileOp chars}
  {reply : Except StoreError ResumeReply}

/-- A stored profile stays stored and keeps its versions. -/
theorem profiles_grow (step : ProfileStep tables op reply after) {profileId : UUID}
    {rows : ProfileRows chars} (stored : tables.profiles.get profileId = some rows) :
    ∃ later, after.profiles.get profileId = some later ∧ Grown rows later := by
  rcases step_profiles step with ⟨same, -⟩ | ⟨-, other, later, write, written⟩
  · exact ⟨rows, same ▸ stored, .refl rows⟩
  · rw [written]
    by_cases here : profileId = other
    · subst here
      exact ⟨later, Table.put_get_self _ _ _, write.grows stored⟩
    · exact ⟨rows, (Table.put_get_of_ne _ _ here).trans stored, .refl rows⟩

theorem globalPreferences_kept (step : ProfileStep tables op reply after)
    {session : SessionProfile} {preferences : ResumePreferencesV1 chars}
    (known : tables.globalPreferences session = some preferences) :
    after.globalPreferences session = some preferences := by
  obtain ⟨rows, stored, found⟩ := Option.bind_eq_some_iff.mp known
  obtain ⟨row, listed, rfl⟩ := Option.map_eq_some_iff.mp found
  obtain ⟨later, there, grown⟩ := profiles_grow step stored
  rw [ProfileDb.globalPreferences, there, Option.bind_some,
    find?_begins grown.preferences listed]
  rfl

theorem ProfileWrite.sound {profileId : UUID} {later : ProfileRows chars}
    (write : ProfileWrite tables op profileId later)
    (before : ∀ profileId rows, tables.profiles.get profileId = some rows → ProfileSound rows) :
    ProfileSound later := by
  cases write with
  | imported => exact .imported _ _ _
  | edited target stored edit => exact (before _ _ stored).edited edit
  | preferred payload target named stored => exact (before _ _ stored).newPreference _

theorem latestPreferences_eq (versions : List ResumeSessionPreferenceVersion) :
    latestPreferences versions = latestBy ResumeSessionPreferenceVersion.version versions := by
  unfold latestPreferences latestBy
  congr 1
  funext best row
  cases best <;> rfl

/-- What a session saved last is its current preferences. -/
theorem SessionSound.current {session : SessionProfile} (sound : SessionSound tables session) :
    session.currentPreferences = match session.preferences.getLast? with
      | none => (0, session.override, [])
      | some latest => (latest.version, latest.override, latest.lockedItemIds) := by
  rw [← latestBy_numbered sound.numbered, ← latestPreferences_eq]
  rfl

theorem SessionSound.counted {session : SessionProfile} (sound : SessionSound tables session) :
    session.currentPreferences.1 = session.preferences.length := by
  have numbered := sound.numbered
  rw [sound.current]
  generalize session.preferences = versions at numbered
  cases versions using List.reverseRecOn with
  | nil => rfl
  | append_singleton rest latest =>
    rw [List.getLast?_concat, List.length_append]
    exact numberedFrom_last numbered

theorem SessionSound.save {session : SessionProfile} (sound : SessionSound tables session)
    (override : ValidOverride) (locks : List UUID) :
    SessionSound tables (session.savePreferences override locks) :=
  ⟨sound.named, numberedFrom_append sound.numbered
    (numberedFrom_singleton (by rw [sound.counted, Nat.add_comm]))⟩

@[simp] theorem currentPreferences_save {session : SessionProfile}
    (sound : SessionSound tables session) (override : ValidOverride) (locks : List UUID) :
    (session.savePreferences override locks).currentPreferences =
      (session.currentPreferences.1 + 1, override, locks) := by
  rw [(sound.save override locks).current, SessionProfile.savePreferences, List.getLast?_concat]

theorem checkCreation_named {tenant : TenantContext} {payload : SessionCreateV1}
    (checked : checkCreation tables tenant payload = .ok ()) :
    ∃ preferences effective,
      tables.globalPreferences payload.sessionProfile = some preferences ∧
      effectivePreferences preferences payload.override.fields = .ok effective := by
  unfold checkCreation at checked
  split at checked
  · cases checked
  next version preference named =>
    obtain ⟨rows, stored, -, preferred⟩ := profileInputs_ok named
    split at checked
    · cases checked
    next effective accepted =>
      refine ⟨preference.preferences, effective, ?_, accepted⟩
      rw [ProfileDb.globalPreferences, SessionCreateV1.sessionProfile, stored, Option.bind_some,
        preferred]
      rfl

theorem SessionWrite.sound {sessionId : UUID} {later : SessionProfile}
    (write : SessionWrite tables op sessionId later)
    (before : ∀ sessionId session, tables.sessionProfiles.get sessionId = some session →
      SessionSound tables session) : SessionSound tables later := by
  cases write with
  | created checked =>
    obtain ⟨preferences, effective, named, -⟩ := checkCreation_named checked
    exact ⟨⟨preferences, named⟩, numberedFrom_singleton rfl⟩
  | saved payload target stored => exact (before _ _ stored).save _ _
  | locked target stored => exact (before _ _ stored).save _ _

theorem step_sound (step : ProfileStep tables op reply after) (sound : TablesSound tables) :
    TablesSound after := by
  have kept {session : SessionProfile} (before : SessionSound tables session) :
      SessionSound after session := by
    obtain ⟨preferences, known⟩ := before.named
    exact ⟨⟨preferences, globalPreferences_kept step known⟩, before.numbered⟩
  constructor
  · rcases step_profiles step with ⟨same, -⟩ | ⟨-, profileId, later, write, written⟩
    · rw [same]
      exact sound.profiles
    · rw [written]
      exact Table.forall_put sound.profiles (write.sound sound.profiles)
  · rcases step_sessions step with ⟨same, -⟩ | ⟨-, sessionId, later, write, written⟩
    · rw [same]
      exact fun sessionId session stored => kept (sound.sessions sessionId session stored)
    · rw [written]
      exact Table.forall_put
        (fun sessionId session stored => kept (sound.sessions sessionId session stored))
        (kept (write.sound sound.sessions))

end Reached

variable (chars cfg) in
theorem start_sound : TablesSound (profileStores chars cfg).start.tables :=
  ⟨fun _ _ stored => (nomatch stored), fun _ _ stored => (nomatch stored)⟩

theorem serveProfile_sound (world : ProfileWorld chars) (op : ProfileOp chars)
    (sound : TablesSound world.tables) :
    TablesSound ((profileStores chars cfg).step world op).1.tables :=
  step_sound (serveProfile_step world op) sound

end Pathfinder
