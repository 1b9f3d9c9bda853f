import Mathlib.Data.List.Sort
import Pathfinder.Db.ResumeProfiles

/-!
# Sessions and their preferences

`_profile_inputs`, `_session`, `_CreateWriter` and the reading of
`execution_inputs` of `db/resume_generation.py`; the preference and the lock
feedback of `db/resume_revision.py`. The rows of the session itself, its run and
its feedback are written by the writers of `ResumeSessions`.
-/
namespace Pathfinder
open KeyedTable

variable {chars : CharacterTables}

/-- `_profile_inputs`. -/
def profileInputs (tables : ProfileDb chars) (tenant : TenantContext)
    (profileVersionId : ProfileVersionId) (preferenceVersion : Nat) :
    Except StoreError (ResumeProfileVersion × ResumePreferenceVersion chars) :=
  match (tables.profiles.get profileVersionId.profileId).filter fun rows =>
      rows.profile.workspaceId == tenant.workspaceId with
  | none => .error .notFound
  | some rows =>
    match rows.versions.find? fun row => row.version == profileVersionId.version with
    | none => .error .notFound
    | some version =>
      if rows.profile.ownerUserId ≠ tenant.actorUserId ∧ tenant.role ≠ .admin then
        .error .notFound
      else match rows.preferences.find? fun row => row.version == preferenceVersion with
      | none => .error .notFound
      | some preference => .ok (version, preference)

/-- `_project_access` for each project. -/
def projectsAccess (materials : MaterialDb) (tenant : TenantContext) :
    List UUID → Except StoreError Unit
  | [] => .ok ()
  | projectId :: rest =>
    match projectAccess materials tenant projectId with
    | .error reason => .error reason
    | .ok () => projectsAccess materials tenant rest

/-- What `_session` checks of a session row and the rows it refers to. -/
def sessionAccess (tables : ProfileDb chars) (tenant : TenantContext) (sessionId : UUID) :
    Except StoreError Unit :=
  match tables.resume.sessions.get sessionId with
  | none => .error .notFound
  | some rows =>
    if rows.session.ownerUserId ≠ tenant.actorUserId ∧ tenant.role ≠ .admin then .error .notFound
    else match tables.sessionProfiles.get sessionId with
    | none => .error (.invariant "session profile version is missing")
    | some session =>
      match profileInputs tables tenant session.profileVersionId
          session.preferenceVersionId.version with
      | .error reason => .error reason
      | .ok _ => projectsAccess tables.materials tenant session.projectIds

/-! ## Creating a session -/

theorem unset_valid :
    JobPreferenceOverrideV1.valid ⟨none, none, none, none, none, none, none⟩ = true := rfl

/-- `JobPreferenceOverrideV1()`. -/
def ValidOverride.unset : ValidOverride := ⟨_, unset_valid⟩

/-- `SessionCreateV1`, as far as preferences and projects are concerned. -/
structure SessionCreateV1 where
  profileVersionId : ProfileVersionId
  preferenceVersion : Nat
  projectIds : List UUID
  override : ValidOverride

/-- The checks of `_CreateWriter.authorize_and_lock` behind the role. -/
def checkCreation (tables : ProfileDb chars) (tenant : TenantContext) (payload : SessionCreateV1) :
    Except StoreError Unit :=
  match profileInputs tables tenant payload.profileVersionId payload.preferenceVersion with
  | .error reason => .error reason
  | .ok (version, preference) =>
    match effectivePreferences preference.preferences payload.override.fields with
    | .error reason => .error reason
    | .ok effective =>
      match validatePreferenceTargets version.content.data effective with
      | .error reason => .error reason
      | .ok () => projectsAccess tables.materials tenant payload.projectIds

/-- The session's columns and its first preference version. -/
def SessionCreateV1.sessionProfile (payload : SessionCreateV1) : SessionProfile where
  profileVersionId := payload.profileVersionId
  preferenceVersionId := ⟨payload.profileVersionId.profileId, payload.preferenceVersion⟩
  override := payload.override
  projectIds := payload.projectIds
  preferences := [⟨1, payload.override, []⟩]

/-- `_CreateWriter`. -/
def createWriter (facts : CommandFacts) : ResumeCommandWriter (ProfileDb chars) SessionCreateV1 where
  authorizeAndLock tables tenant request :=
    if tenant.role = .reviewer then .error .notFound
    else (checkCreation tables tenant request.payload).map fun _ => none
  apply tables tenant request commandId :=
    let payload := request.payload
    match profileInputs tables tenant payload.profileVersionId payload.preferenceVersion with
    | .error reason => .error reason
    | .ok _ =>
      ((sessionWriter facts).apply tables.resume tenant { request with payload := () }
          commandId).map fun written =>
        ({ tables with resume := written.1 }.putSessionProfile facts.resourceId
            payload.sessionProfile, written.2)

/-! ## Feedback on preferences and locks -/

/-- What `_current_preferences` reads of a session, under its global preferences. -/
def SessionProfile.preferencesUnder (session : SessionProfile)
    (globalPreferences : ResumePreferencesV1 chars) : SessionPreferences chars :=
  ⟨globalPreferences, session.override, session.preferences⟩

/-- `_current_preferences`; it does not read the global ones. -/
def SessionProfile.currentPreferences (session : SessionProfile) : Nat × ValidOverride × List UUID :=
  match latestPreferences session.preferences with
  | none => (0, session.override, [])
  | some latest => (latest.version, latest.override, latest.lockedItemIds)

/-- `_save_preferences`. -/
def SessionProfile.savePreferences (session : SessionProfile) (override : ValidOverride)
    (locks : List UUID) : SessionProfile :=
  { session with
    preferences := session.preferences ++ [⟨session.currentPreferences.1 + 1, override, locks⟩] }

/-- The branch of `apply` for preferences, up to `_enqueue`. -/
def applyPreferences (tables : ProfileDb chars) (tenant : TenantContext) (sessionId : UUID)
    (session : SessionProfile) : PreferenceFeedbackV1 chars → Except StoreError (ProfileDb chars)
  | .round _ => .ok tables
  | .session preferences =>
    let current := session.currentPreferences
    (ValidOverride.modelValidate (current.2.1.dumpSet.merge preferences.dumpSet)).map fun merged =>
      tables.putSessionProfile sessionId (session.savePreferences merged current.2.2)
  | .globally preferences expected =>
    match profileInputs tables tenant session.profileVersionId
        session.preferenceVersionId.version with
    | .error reason => .error reason
    | .ok _ =>
      match tables.profiles.get session.profileVersionId.profileId with
      | none => .error (.conflict "global preference version changed")
      | some rows =>
        if rows.profile.currentPreferenceVersion ≠ expected then
          .error (.conflict "global preference version changed")
        else .ok (tables.putProfile session.profileVersionId.profileId
            (rows.newPreference preferences))

/-- The scope as the session's writer sees it. -/
def PreferenceFeedbackV1.scope : PreferenceFeedbackV1 chars → FeedbackScope
  | round _ => .round
  | session _ => .session
  | globally .. => .globally

/-- `LockChangeV1`. -/
structure LockChangeV1 where
  itemId : UUID
  locked : Bool
  deriving DecidableEq, Repr

/-- `tuple(sorted(updated))`. -/
def updatedLocks (locks : List UUID) (change : LockChangeV1) : List UUID :=
  let updated := if change.locked then fromKeys (locks ++ [change.itemId])
    else (fromKeys locks).filter (· ≠ change.itemId)
  updated.insertionSort (· ≤ ·)

/-- `_lock`. -/
def applyLock (tables : ProfileDb chars) (sessionId : UUID) (session : SessionProfile)
    (change : LockChangeV1) : Except StoreError (ProfileDb chars) :=
  match (tables.resume.sessions.get sessionId).bind fun rows =>
      rows.versions.find? fun version => some version.id == rows.session.currentVersionId with
  | none => .error .notFound
  | some version =>
    let content := version.content.data
    if change.itemId ∉ content.itemIds then
      .error (.validation "lock target is not in this version")
    else if change.itemId = content.displayNameId ∨
        change.itemId ∈ content.contact.map ContactField.id then
      .error (.validation "personal fields remain protected")
    else
      let current := session.currentPreferences
      .ok (tables.putSessionProfile sessionId
        (session.savePreferences current.2.1 (updatedLocks current.2.2 change)))

/-- `_FeedbackWriter` for a payload whose writes besides the session's own rows are
`effect`. The session's row lock is held throughout. -/
def sessionFeedbackWriter {π : Type} (facts : CommandFacts) (feedback : π → FeedbackPayload)
    (effect : ProfileDb chars → TenantContext → UUID → SessionProfile → π →
      Except StoreError (ProfileDb chars)) : ResumeCommandWriter (ProfileDb chars) π where
  authorizeAndLock tables tenant request :=
    (feedbackWriter { facts with
        access := match request.targetId with
          | none => .ok ()
          | some sessionId => sessionAccess tables tenant sessionId }).authorizeAndLock
      tables.resume tenant { request with payload := feedback request.payload }
  apply tables tenant request commandId :=
    match request.targetId with
    | none => .error (.value "AssertionError")
    | some sessionId =>
      match sessionAccess tables tenant sessionId, tables.sessionProfiles.get sessionId with
      | .error reason, _ => .error reason
      | .ok (), none => .error (.invariant "session preference version is missing")
      | .ok (), some session =>
        match effect tables tenant sessionId session request.payload with
        | .error reason => .error reason
        | .ok changed =>
          ((feedbackWriter { facts with access := .ok () }).apply changed.resume tenant
              { request with payload := feedback request.payload } commandId).map fun written =>
            ({ changed with resume := written.1 }, written.2)

/-- The feedback of kind `preference`. -/
def preferenceWriter (facts : CommandFacts) :
    ResumeCommandWriter (ProfileDb chars) (PreferenceFeedbackV1 chars) :=
  sessionFeedbackWriter facts (fun payload => .preference payload.scope)
    fun tables tenant sessionId session payload =>
      applyPreferences tables tenant sessionId session payload

/-- The feedback of kind `lock`. -/
def lockWriter (facts : CommandFacts) : ResumeCommandWriter (ProfileDb chars) LockChangeV1 :=
  sessionFeedbackWriter facts (fun _ => .lock)
    fun tables _ sessionId session payload => applyLock tables sessionId session payload

/-! ## Reading -/

/-- `_effective_preferences` of a session. -/
def effectiveSessionPreferences (tables : ProfileDb chars) (tenant : TenantContext)
    (session : SessionProfile) (roundOverride : Option ValidOverride) :
    Except StoreError (ResumePreferencesV1 chars) :=
  match profileInputs tables tenant session.profileVersionId
      session.preferenceVersionId.version with
  | .error reason => .error reason
  | .ok (_, preference) =>
    sessionPreferences (session.preferencesUnder preference.preferences) roundOverride

/-- The pairs the loop of `execution_inputs` visits: project items and the material
projects their claims are linked to. -/
def linkedProjects (claims : List ClaimRows) : List (UUID × UUID) :=
  claims.filterMap fun rows =>
    rows.linkedProject.map fun projectId => (rows.claim.projectItemId, projectId)

/-- `project_map.setdefault(...)` for each pair. -/
def projectMap : (UUID → Option UUID) → List (UUID × UUID) →
    Except StoreError (UUID → Option UUID)
  | known, [] => .ok known
  | known, (itemId, projectId) :: rest =>
    match known itemId with
    | none => projectMap (Function.update known itemId (some projectId)) rest
    | some previous =>
      if previous ≠ projectId then
        .error (.invariant "profile project has conflicting fact links")
      else projectMap known rest

/-- `GenerationInputs`, as far as profiles and preferences enter it. -/
structure GenerationInputs (chars : CharacterTables) where
  content : ResumeContentV1
  preferences : ResumePreferencesV1 chars
  projectMap : UUID → Option UUID

/-- `execution_inputs`; the job snapshot, the facts and their evidence are left out. -/
def executionInputs (tables : ProfileDb chars) (tenant : TenantContext) (sessionId : UUID) :
    Except StoreError (GenerationInputs chars) :=
  match sessionAccess tables tenant sessionId, tables.sessionProfiles.get sessionId with
  | .error reason, _ => .error reason
  | .ok (), none => .error (.invariant "session preference version is missing")
  | .ok (), some session =>
    match profileInputs tables tenant session.profileVersionId
        session.preferenceVersionId.version with
    | .error reason => .error reason
    | .ok (version, preference) =>
      match effectivePreferences preference.preferences session.override.fields with
      | .error reason => .error reason
      | .ok preferences =>
        let claims := match tables.profiles.get session.profileVersionId.profileId with
          | none => []
          | some rows => rows.claims.scan.map Prod.snd
        (projectMap (fun _ => none) (linkedProjects claims)).map fun known =>
          ⟨version.content, preferences, known⟩

end Pathfinder
