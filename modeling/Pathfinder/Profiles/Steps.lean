import Pathfinder.ProfileSystem

/-!
# What one request does to profiles and preferences

Each writer's effect on the rows of profiles and on the preference rows of
sessions, and the one statement all invariants of these rows are derived from.
-/
namespace Pathfinder
open KeyedTable Machines

variable {chars : CharacterTables} {cfg : ResumeConfig}

/-- The request was accepted now; it is not the replay of an accepted one. -/
def Fresh (reply : Except StoreError ResumeReply) : Prop :=
  ∃ receipt, reply = .ok (.accepted ⟨receipt, false⟩)

/-- The rows of profiles and the preference rows of sessions are the same. -/
structure Unmoved (tables after : ProfileDb chars) : Prop where
  profiles : after.profiles = tables.profiles
  sessions : after.sessionProfiles = tables.sessionProfiles

theorem Unmoved.refl (tables : ProfileDb chars) : Unmoved tables tables := ⟨rfl, rfl⟩

/-- The receipt of an accepted request is a replay. -/
theorem beginCommand_replayed {σ π : Type} {tables : CommandTables σ}
    {writer : ResumeCommandWriter σ π} {tenant : TenantContext} {request : ResumeCommandRequest π}
    {digest : String} {db : σ} {accepted : CommandAccepted}
    (began : beginCommand tables writer tenant request digest db = .ok (some accepted)) :
    accepted.replayed = true := by
  unfold beginCommand at began
  split at began
  · cases began
  split at began
  · cases began
  split at began
  next existing found =>
    obtain ⟨receipt, known, same⟩ := map_ok began
    cases same
    unfold acceptedCommand at known
    split at known
    · cases known
    split at known
    · cases known
    cases known
    rfl
  · split at began
    · cases began
    · cases began
    · obtain ⟨-, -, none_⟩ := map_ok began
      cases none_

theorem beginCommand_authorized {σ π : Type} {tables : CommandTables σ}
    {writer : ResumeCommandWriter σ π} {tenant : TenantContext} {request : ResumeCommandRequest π}
    {digest : String} {db : σ} {accepted : Option CommandAccepted}
    (began : beginCommand tables writer tenant request digest db = .ok accepted) :
    ∃ state, writer.authorizeAndLock db tenant request = .ok state := by
  unfold beginCommand at began
  split at began
  · cases began
  split at began
  · cases began
  next state authorized => exact ⟨state, authorized⟩

/-- A command's transaction that is not rolled back replays or has its effect. -/
theorem serveProfileCommand_cases {π : Type} (world : ProfileWorld chars)
    (writer : ResumeCommandWriter (ProfileDb chars) π) (tenant : TenantContext)
    (request : ResumeCommandRequest π) (digest : String) (commandId : UUID) :
    let served := serveProfileCommand world writer tenant request digest commandId
    (served.1 = world ∧ ¬ Fresh served.2) ∨
    ∃ state after receipt, writer.authorizeAndLock world.tables tenant request = .ok state ∧
      writer.apply world.tables tenant request commandId = .ok (after, receipt) ∧
      Unmoved after served.1.tables ∧ Fresh served.2 := by
  have stays (reason : StoreError) : ¬ Fresh (.error reason) := by
    rintro ⟨receipt, same⟩
    cases same
  dsimp only
  unfold serveProfileCommand
  split
  · exact .inl ⟨rfl, stays _⟩
  next tables accepted ran =>
    unfold acceptCommand at ran
    split at ran
    · cases ran
    next replayed began =>
      cases ran
      refine .inl ?_
      split
      · refine ⟨rfl, ?_⟩
        rintro ⟨receipt, same⟩
        cases same
        cases beginCommand_replayed began
      · exact ⟨rfl, stays _⟩
    next began =>
      obtain ⟨state, authorized⟩ := beginCommand_authorized began
      unfold commitCommand at ran
      split at ran
      · cases ran
      next after receipt applied =>
        repeat' split at ran
        all_goals cases ran
        split
        · exact .inr ⟨state, after, receipt, authorized, applied, ⟨rfl, rfl⟩, receipt, rfl⟩
        · exact .inl ⟨rfl, stays _⟩

/-! ## The writers -/

theorem profileWriter_ok {tables after : ProfileDb chars} {tenant : TenantContext}
    {request : ResumeCommandRequest (ProfilePayload chars)} {commandId : UUID}
    {facts : ProfileFacts} {receipt : CommandReceiptV1}
    (applied : (profileWriter facts).apply tables tenant request commandId =
      .ok (after, receipt)) :
    (∃ preview, request.payload = .profileImport preview ∧
      importProfile tables tenant preview facts = .ok after) ∨
    ∃ profileId rows later, request.targetId = some profileId ∧
      findProfile tables tenant profileId true = .ok rows ∧
      editProfile tables.materials tenant rows facts request.payload = .ok later ∧
      after = tables.putProfile profileId later := by
  dsimp only [profileWriter] at applied
  split at applied
  next target preview payload =>
    obtain ⟨result, imported, same⟩ := map_ok applied
    cases same
    exact .inl ⟨preview, payload, imported⟩
  · cases applied
  next profileId target _ =>
    split at applied
    · cases applied
    next rows found =>
      obtain ⟨later, edited, same⟩ := map_ok applied
      cases same
      exact .inr ⟨profileId, rows, later, target, found, edited, rfl⟩

theorem createWriter_ok {tables after : ProfileDb chars} {tenant : TenantContext}
    {request : ResumeCommandRequest SessionCreateV1} {commandId : UUID}
    {facts : CommandFacts} {state : Option SessionWriteState} {receipt : CommandReceiptV1}
    (authorized : (createWriter facts).authorizeAndLock tables tenant request = .ok state)
    (applied : (createWriter facts).apply tables tenant request commandId =
      .ok (after, receipt)) :
    checkCreation tables tenant request.payload = .ok () ∧ after.profiles = tables.profiles ∧
      after.sessionProfiles =
        tables.sessionProfiles.put facts.resourceId request.payload.sessionProfile := by
  dsimp only [createWriter] at authorized applied
  split at authorized
  · cases authorized
  obtain ⟨⟨⟩, checked, -⟩ := map_ok authorized
  split at applied
  · cases applied
  obtain ⟨written, -, same⟩ := map_ok applied
  cases same
  exact ⟨checked, rfl, rfl⟩

theorem sessionFeedbackWriter_ok {π : Type} {tables after : ProfileDb chars}
    {tenant : TenantContext} {request : ResumeCommandRequest π} {commandId : UUID}
    {facts : CommandFacts} {feedback : π → FeedbackPayload} {receipt : CommandReceiptV1}
    {effect : ProfileDb chars → TenantContext → UUID → SessionProfile → π →
      Except StoreError (ProfileDb chars)}
    (applied : (sessionFeedbackWriter facts feedback effect).apply tables tenant request
      commandId = .ok (after, receipt)) :
    ∃ sessionId session changed, request.targetId = some sessionId ∧
      sessionAccess tables tenant sessionId = .ok () ∧
      tables.sessionProfiles.get sessionId = some session ∧
      effect tables tenant sessionId session request.payload = .ok changed ∧
      Unmoved changed after := by
  dsimp only [sessionFeedbackWriter] at applied
  split at applied
  · cases applied
  next sessionId target =>
    split at applied
    · cases applied
    · cases applied
    next session accessed stored =>
      split at applied
      · cases applied
      next changed effected =>
        obtain ⟨written, -, same⟩ := map_ok applied
        cases same
        exact ⟨sessionId, session, changed, target, accessed, stored, effected, rfl, rfl⟩

/-! ## The step -/

/-- What a request does to the rows of profiles and the preferences of sessions. -/
inductive ProfileStep (tables : ProfileDb chars) :
    ProfileOp chars → Except StoreError ResumeReply → ProfileDb chars → Prop
  | refused {op reply after} (stale : ¬ Fresh reply) (same : Unmoved tables after) :
      ProfileStep tables op reply after
  | materials {materials reply after} (same : Unmoved tables after) :
      ProfileStep tables (.setMaterials materials) reply after
  | elsewhere {op reply after} (same : Unmoved tables after) :
      ProfileStep tables (.resume op) reply after
  | imported {tenant request digest commandId facts reply preview changed after}
      (payload : request.payload = .profileImport preview) (fresh : Fresh reply)
      (ran : importProfile tables tenant preview facts = .ok changed)
      (same : Unmoved changed after) :
      ProfileStep tables (.profile tenant request digest commandId facts) reply after
  | edited {tenant request digest commandId facts reply profileId rows later after}
      (target : request.targetId = some profileId) (fresh : Fresh reply)
      (found : findProfile tables tenant profileId true = .ok rows)
      (ran : editProfile tables.materials tenant rows facts request.payload = .ok later)
      (same : Unmoved (tables.putProfile profileId later) after) :
      ProfileStep tables (.profile tenant request digest commandId facts) reply after
  | created {tenant request digest commandId facts reply after} (fresh : Fresh reply)
      (checked : checkCreation tables tenant request.payload = .ok ())
      (same : Unmoved (tables.putSessionProfile facts.resourceId request.payload.sessionProfile)
        after) :
      ProfileStep tables (.createSession tenant request digest commandId facts) reply after
  | preferred {tenant request digest commandId facts reply sessionId session changed after}
      (target : request.targetId = some sessionId) (fresh : Fresh reply)
      (stored : tables.sessionProfiles.get sessionId = some session)
      (ran : applyPreferences tables tenant sessionId session request.payload = .ok changed)
      (same : Unmoved changed after) :
      ProfileStep tables (.preference tenant request digest commandId facts) reply after
  | locked {tenant request digest commandId facts reply sessionId session changed after}
      (target : request.targetId = some sessionId) (fresh : Fresh reply)
      (stored : tables.sessionProfiles.get sessionId = some session)
      (ran : applyLock tables sessionId session request.payload = .ok changed)
      (same : Unmoved changed after) :
      ProfileStep tables (.lock tenant request digest commandId facts) reply after

theorem serveProfile_step (world : ProfileWorld chars) (op : ProfileOp chars) :
    ProfileStep world.tables op (serveProfile cfg world op).2
      (serveProfile cfg world op).1.tables := by
  cases op with
  | setMaterials materials => exact .materials ⟨rfl, rfl⟩
  | resume op =>
    refine .elsewhere ?_
    rw [serveProfile]
    split
    · exact .refl _
    · exact ⟨rfl, rfl⟩
  | profile tenant request digest commandId facts =>
    rcases serveProfileCommand_cases world (profileWriter facts) tenant request digest commandId
      with ⟨same, stale⟩ | ⟨state, after, receipt, authorized, applied, same, fresh⟩
    · exact .refused stale (by rw [serveProfile, same]; exact .refl _)
    · rcases profileWriter_ok applied with ⟨preview, payload, ran⟩ |
        ⟨profileId, rows, later, target, found, ran, rfl⟩
      · exact .imported payload fresh ran same
      · exact .edited target fresh found ran same
  | createSession tenant request digest commandId facts =>
    rcases serveProfileCommand_cases world (createWriter facts) tenant request digest commandId
      with ⟨same, stale⟩ | ⟨state, after, receipt, authorized, applied, same, fresh⟩
    · exact .refused stale (by rw [serveProfile, same]; exact .refl _)
    · obtain ⟨checked, profiles, sessions⟩ := createWriter_ok authorized applied
      exact .created fresh checked ⟨same.profiles.trans profiles, same.sessions.trans sessions⟩
  | preference tenant request digest commandId facts =>
    rcases serveProfileCommand_cases world (preferenceWriter facts) tenant request digest
      commandId with ⟨same, stale⟩ | ⟨state, after, receipt, authorized, applied, same, fresh⟩
    · exact .refused stale (by rw [serveProfile, same]; exact .refl _)
    · obtain ⟨sessionId, session, changed, target, -, stored, ran, kept⟩ :=
        sessionFeedbackWriter_ok applied
      exact .preferred target fresh stored ran
        ⟨same.profiles.trans kept.profiles, same.sessions.trans kept.sessions⟩
  | lock tenant request digest commandId facts =>
    rcases serveProfileCommand_cases world (lockWriter facts) tenant request digest commandId
      with ⟨same, stale⟩ | ⟨state, after, receipt, authorized, applied, same, fresh⟩
    · exact .refused stale (by rw [serveProfile, same]; exact .refl _)
    · obtain ⟨sessionId, session, changed, target, -, stored, ran, kept⟩ :=
        sessionFeedbackWriter_ok applied
      exact .locked target fresh stored ran
        ⟨same.profiles.trans kept.profiles, same.sessions.trans kept.sessions⟩

end Pathfinder
