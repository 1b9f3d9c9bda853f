import Pathfinder.Lifecycle.Invariants
import Pathfinder.ResumeSystem

/-!
# What a request does to the sessions

A request creates a session, changes the rows of one session in one of five
ways, or leaves all sessions alone. Runs only get more.
-/
namespace Pathfinder
open KeyedTable Machines

/-- One change of the rows of a session; `runs` and `runs'` are the runs before
and after the request. -/
inductive SessionEffect (runs runs' : Table UUID RunRows) (rows : SessionRows) :
    SessionRows → Prop
  | feedback (added : ResumeFeedback) (unpublished : added.targetVersionId = none)
      (fresh : ∀ row ∈ rows.feedback, row.id ≠ added.id)
      (unused : ∀ runId, added.runId = some runId →
        runs.get runId = none ∧ (runs'.get runId).isSome) :
      SessionEffect runs runs' rows (rows.addFeedback added)
  | confirmation (added : ResumeConfirmation)
      (fresh : ∀ row ∈ rows.confirmations, row.versionId ≠ added.versionId) :
      SessionEffect runs runs' rows (rows.addConfirmation added)
  | asked (runId : UUID) (questions : List Text) :
      SessionEffect runs runs' rows
        (rows.mapFeedback runId fun row => { row with questions := questions })
  | generated (version : ResumeVersion) (first : rows.session.currentVersionId = none)
      (number : version.version = 1) (root : version.parentVersionId = none)
      (unasked : version.feedbackId = none) (fresh : ∀ row ∈ rows.versions, row.id ≠ version.id) :
      SessionEffect runs runs' rows (rows.addVersion version)
  | revised (runId : UUID) (feedback : ResumeFeedback) (base version : ResumeVersion)
      (questions : List Text)
      (found : rows.feedback.find? (fun row => row.runId == some runId) = some feedback)
      (unpublished : feedback.targetVersionId = none)
      (current : rows.session.currentVersionId = feedback.baseVersionId)
      (stored : base ∈ rows.versions) (named : some base.id = feedback.baseVersionId)
      (number : version.version = base.version + 1) (parent : version.parentVersionId = some base.id)
      (answers : version.feedbackId = some feedback.id)
      (fresh : ∀ row ∈ rows.versions, row.id ≠ version.id) :
      SessionEffect runs runs' rows
        (((rows.mapFeedback runId fun row => { row with questions := questions }).addVersion
          version).mapFeedback runId fun row => { row with targetVersionId := some version.id })

/-- The session of an accepted creation. -/
def newSession (sessionId workspaceId ownerUserId runId : UUID) : SessionRows :=
  ⟨⟨sessionId, workspaceId, ownerUserId, runId, runId, none, 0⟩, [], [], []⟩

/-- The sessions a request leaves. -/
inductive SessionsStep (runs runs' : Table UUID RunRows) (sessions : Table UUID SessionRows) :
    Table UUID SessionRows → Prop
  | same : SessionsStep runs runs' sessions sessions
  | created (sessionId workspaceId ownerUserId runId : UUID)
      (absent : sessions.get sessionId = none) (unused : runs.get runId = none)
      (stored : (runs'.get runId).isSome) :
      SessionsStep runs runs' sessions
        (sessions.put sessionId (newSession sessionId workspaceId ownerUserId runId))
  | changed (sessionId : UUID) {rows rows' : SessionRows}
      (found : sessions.get sessionId = some rows)
      (effect : SessionEffect runs runs' rows rows') :
      SessionsStep runs runs' sessions (sessions.put sessionId rows')

/-! ## Commands -/

section Commands
variable {tables tables' : ResumeDb} {tenant : TenantContext} {commandId : UUID}
  {facts : CommandFacts} {receipt : CommandReceiptV1}

theorem enqueueRun_ok {create : CreateRunRequest} {created : CreationFacts} {content : String}
    {db db' : Db} (ran : enqueueRun create created content db = .ok db') :
    db.runs.get created.runId = none ∧
      db'.runs = db.runs.put created.runId (createdRows create created) := by
  unfold enqueueRun at ran
  split at ran
  · cases ran
  next absent =>
    cases ran
    exact ⟨by simpa using absent, rfl⟩

/-- How a command's writer leaves the runs: alone, or with one more. -/
inductive RunsStep (runs : Table UUID RunRows) : Table UUID RunRows → Prop
  | same : RunsStep runs runs
  | enqueued (create : CreateRunRequest) (facts : CreationFacts)
      (absent : runs.get facts.runId = none) :
      RunsStep runs (runs.put facts.runId (createdRows create facts))

theorem createSession_apply {request : ResumeCommandRequest Unit}
    (ran : (sessionWriter facts).apply tables tenant request commandId = .ok (tables', receipt)) :
    tables'.commands = tables.commands ∧ RunsStep tables.db.runs tables'.db.runs ∧
      SessionsStep tables.db.runs tables'.db.runs tables.sessions tables'.sessions := by
  simp only [sessionWriter] at ran
  split at ran
  · cases ran
  split at ran
  · cases ran
  next absent =>
  obtain ⟨db, enqueued, same⟩ := map_ok ran
  cases same
  obtain ⟨unused, runs⟩ := enqueueRun_ok enqueued
  refine ⟨rfl, ?_, ?_⟩
  · rw [runs]
    exact .enqueued _ _ unused
  · refine .created facts.resourceId tenant.workspaceId tenant.actorUserId facts.runId
      (by simpa using absent) unused ?_
    rw [runs]
    exact congrArg Option.isSome (Table.put_get_self _ _ _)

theorem targetSession_ok {targetId : Option UUID} {access : Except StoreError Unit}
    {sessionId : UUID} {rows : SessionRows}
    (ran : targetSession tables tenant targetId access = .ok (sessionId, rows)) :
    tables.sessions.get sessionId = some rows := by
  cases targetId with
  | none => cases ran
  | some target =>
    obtain ⟨found, locked, same⟩ := map_ok ran
    cases same
    unfold lockSession at locked
    split at locked
    · cases locked
    next stored =>
      obtain ⟨done, -, same⟩ := map_ok locked
      cases same
      exact (Option.filter_eq_some_iff.mp stored).1

theorem feedback_apply {request : ResumeCommandRequest FeedbackPayload}
    (ran : (feedbackWriter facts).apply tables tenant request commandId = .ok (tables', receipt)) :
    tables'.commands = tables.commands ∧ RunsStep tables.db.runs tables'.db.runs ∧
      SessionsStep tables.db.runs tables'.db.runs tables.sessions tables'.sessions := by
  simp only [feedbackWriter] at ran
  split at ran
  · cases ran
  next sessionId rows target =>
  split at ran
  · cases ran
  split at ran
  · cases ran
  split at ran
  · cases ran
  next free =>
  have found := targetSession_ok target
  have fresh : ∀ row ∈ rows.feedback, row.id ≠ facts.resourceId := by
    intro row member same
    refine free ((Table.any_iff _ _).mpr ⟨sessionId, rows, found, ?_⟩)
    exact List.any_eq_true.mpr ⟨row, member, by simpa using same⟩
  obtain ⟨db, enqueued, same⟩ := map_ok ran
  cases same
  cases started : request.payload.startsRun rows.session with
  | false =>
    rw [started] at enqueued
    cases enqueued
    refine ⟨rfl, .same, .changed sessionId found (.feedback _ rfl fresh ?_)⟩
    simp
  | true =>
    rw [started] at enqueued
    unfold enqueueRevision at enqueued
    simp only [if_true] at enqueued
    split at enqueued
    · cases enqueued
    obtain ⟨unused, runs⟩ := enqueueRun_ok enqueued
    have step : RunsStep tables.db.runs db.runs := by
      rw [runs]
      exact .enqueued _ _ unused
    have stored : (db.runs.get facts.runId).isSome := by
      rw [runs]
      exact congrArg Option.isSome (Table.put_get_self _ _ _)
    refine ⟨rfl, step, .changed sessionId found (.feedback _ rfl fresh ?_)⟩
    rintro runId same
    obtain rfl : facts.runId = runId := by simpa using same
    exact ⟨unused, stored⟩

theorem confirm_apply {request : ResumeCommandRequest ConfirmVersionV1}
    (ran : (confirmationWriter facts).apply tables tenant request commandId =
      .ok (tables', receipt)) :
    tables'.commands = tables.commands ∧ RunsStep tables.db.runs tables'.db.runs ∧
      SessionsStep tables.db.runs tables'.db.runs tables.sessions tables'.sessions := by
  simp only [confirmationWriter] at ran
  split at ran
  · cases ran
  split at ran
  · cases ran
  next sessionId rows target =>
  split at ran
  · cases ran
  split at ran
  · cases ran
  split at ran
  · cases ran
  split at ran
  · split at ran
    · cases ran
    cases ran
    exact ⟨rfl, .same, .same⟩
  next unconfirmed =>
    split at ran
    · cases ran
    cases ran
    refine ⟨rfl, .same, .changed sessionId (targetSession_ok target) (.confirmation _ ?_)⟩
    intro row member
    simpa using List.find?_eq_none.mp unconfirmed row member

end Commands
/-! ## Publications -/

section Publications
variable {sessions sessions' : Table UUID SessionRows} {runs runs' : Table UUID RunRows}
  {workspaceId runId : UUID} {candidate : ResumeCandidate} {facts : PublicationFacts}
  {result : ResumeResultV1}

end Publications

/-! ## Requests -/

/-- Rows of a run are never removed. -/
def RunsKept (runs runs' : Table UUID RunRows) : Prop :=
  ∀ k, (runs.get k).isSome → (runs'.get k).isSome

theorem Table.put_isSome {runs : Table UUID RunRows} {k j : UUID} (rows : RunRows)
    (stored : (runs.get j).isSome) : ((runs.put k rows).get j).isSome := by
  rw [Table.put_get]
  split
  · rfl
  · exact stored

theorem RunsStep.kept {runs runs' : Table UUID RunRows} (step : RunsStep runs runs') :
    RunsKept runs runs' := by
  cases step with
  | same => exact fun _ stored => stored
  | enqueued create facts absent => exact fun _ stored => Table.put_isSome _ stored

theorem RunsStep.sound {cfg : Config} {runs runs' : Table UUID RunRows} (step : RunsStep runs runs')
    (before : ∀ k rows, runs.get k = some rows → Sound cfg k rows) :
    ∀ k rows, runs'.get k = some rows → Sound cfg k rows := by
  cases step with
  | same => exact before
  | enqueued create facts absent => exact Table.forall_put before (sound_created create facts)

section Requests
variable {cfg : ResumeConfig} {world : ResumeWorld}

end Requests
end Pathfinder
