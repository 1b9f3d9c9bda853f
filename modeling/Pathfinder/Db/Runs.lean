import Pathfinder.Db.Models

/-!
# The run store

`create_run` and `cancel_run` of `db/runs.py`. Identities from `uuid4()`, the
database clock and the process clock are arguments.
-/
namespace Pathfinder
open KeyedTable

/-- What `create_run` generates or reads from the database: four identities, the
server's `now()`, and whether its look-up ran before a concurrent winner of the
same request identity committed. -/
structure CreationFacts where
  conversationId : UUID
  messageId : UUID
  runId : UUID
  jobId : UUID
  serverNow : Timestamp
  missedWinner : Bool

/-- The arguments of `create_run` that reach the tables. -/
structure CreateRunRequest where
  tenant : TenantContext
  mode : RunMode
  resumeDocumentId : Option UUID
  request : ResearchRequest
  graphVersion : GraphVersion
  requestIdentity : Option RunCreateIdentity

/-- `RunAccepted`; its status is always `QUEUED`. -/
structure RunAccepted where
  runId : UUID
  replayed : Bool
  deriving DecidableEq, Repr

/-- `RunCancellation`. -/
structure RunCancellation where
  runId : UUID
  status : RunStatus
  cancelRequestedAt : Option Timestamp
  deriving DecidableEq, Repr

/-- `server_default` of `run_jobs.max_attempts`. -/
def defaultMaxAttempts : Int := 3

/-- `_find_request`. -/
def findRunRequest (db : Db) (tenant : TenantContext) (identity : RunCreateIdentity) :
    Option (UUID × RunRows) :=
  db.runs.find? fun rows =>
    rows.run.workspaceId == tenant.workspaceId &&
    rows.run.createdByUserId == tenant.actorUserId &&
    rows.run.requestIdentity.any fun stored => stored.clientRequestId == identity.clientRequestId

/-- `_replay`. -/
def replayRun (cfg : Config) (existing : Run) (create : CreateRunRequest) :
    Except StoreError RunAccepted :=
  match cfg.requestDigest create.mode create.request.query create.resumeDocumentId with
  | none => .error (.validation "run creation input is invalid")
  | some digest =>
    if existing.requestIdentity.any fun stored => stored.createRequestDigest == digest then
      .ok { runId := existing.id, replayed := true }
    else .error (.conflict "run creation request conflicts with accepted request")

/-- The rows `create_run` inserts for the new run. -/
def newRun (create : CreateRunRequest) (facts : CreationFacts) : RunRows where
  run :=
    { id := facts.runId, workspaceId := create.tenant.workspaceId,
      createdByUserId := create.tenant.actorUserId, conversationId := facts.conversationId,
      requestMessageId := facts.messageId, mode := create.mode,
      resumeDocumentId := create.resumeDocumentId, requestIdentity := create.requestIdentity,
      input := create.request, status := .queued, graphVersion := create.graphVersion,
      nextEventSeq := 1, nextEventSeq_pos := Nat.one_pos, resultJson := none,
      errorCategory := none, cancelRequestedAt := none, startedAt := none, finishedAt := none }
  job :=
    { id := facts.jobId, workspaceId := create.tenant.workspaceId,
      originatingActorUserId := create.tenant.actorUserId, runId := facts.runId,
      status := .queued, attempt := 0, maxAttempts := defaultMaxAttempts,
      availableAt := facts.serverNow, createdAt := facts.serverNow, leasedBy := none,
      ownerToken := none, leaseExpiresAt := none, resumeApprovalRequestId := none,
      errorSummary := none }
  actions := Table.empty
  events := []

/-- The inserts of `create_run`, with the `run.created` event. -/
def insertRun (create : CreateRunRequest) (facts : CreationFacts) (db : Db) : Db :=
  { db with
    conversations := db.conversations ++
      [⟨facts.conversationId, create.tenant.workspaceId, create.tenant.actorUserId,
        "Research request"⟩]
    messages := db.messages ++
      [⟨facts.messageId, create.tenant.workspaceId, facts.conversationId,
        create.tenant.actorUserId, create.request.query⟩]
    runs := db.runs.put facts.runId
      ((newRun create facts).pushEvent (some create.tenant.actorUserId) .runCreated
        [("mode", .str create.mode.value), ("status", .str "queued"),
          ("graph_version", .str create.graphVersion.value)]) }

/-- The first transaction of `create_run`. -/
def createRunOnce (cfg : Config) (create : CreateRunRequest) (facts : CreationFacts) :
    Body RunAccepted := fun db =>
  match requireCurrentTenant db.memberships create.tenant with
  | .error reason => .error reason
  | .ok () =>
    let winner := create.requestIdentity.bind (findRunRequest db create.tenant)
    match winner.filter fun _ => !facts.missedWinner with
    | some (_, existing) => (replayRun cfg existing.run create).map fun result => (db, result)
    | none =>
      if create.resumeDocumentId.any fun documentId =>
          !db.documents.any fun row =>
            row.workspaceId == create.tenant.workspaceId && row.id == documentId then
        .error .notFound
      else if winner.isSome then .error (.integrity "uq_runs_workspace_creator_request")
      else if (db.runs.get facts.runId).isSome then .error (.integrity "pk_runs")
      else .ok (insertRun create facts db, { runId := facts.runId, replayed := false })

/-- The transaction that answers after losing the race on the request identity. -/
def createRunReplay (cfg : Config) (create : CreateRunRequest) (identity : RunCreateIdentity) :
    Body RunAccepted := fun db =>
  match requireCurrentTenant db.memberships create.tenant with
  | .error reason => .error reason
  | .ok () =>
    match findRunRequest db create.tenant identity with
    | none => .error (.invariant "run creation conflict winner is missing")
    | some (_, existing) => (replayRun cfg existing.run create).map fun result => (db, result)

/-- The insert lost to a concurrent one on `uq_runs_workspace_creator_request`. -/
def lostRequestRace {α : Type} : Except StoreError α → Bool
  | .error reason => reason == .integrity "uq_runs_workspace_creator_request"
  | .ok _ => false

/-- `create_run`. -/
def createRun (cfg : Config) (create : CreateRunRequest) (facts : CreationFacts) :
    Body RunAccepted := fun db =>
  match findRunContract cfg.executionContracts create.graphVersion create.mode with
  | none => .error (.invariant "unsupported graph version or input")
  | some contract =>
    if !cfg.decodeInput contract create.request then
      .error (.invariant "unsupported graph version or input")
    else
      let digest := cfg.requestDigest create.mode create.request.query create.resumeDocumentId
      match create.requestIdentity with
      | none => transaction (createRunOnce cfg create facts) db
      | some identity =>
        if digest = none then .error (.validation "run creation input is invalid")
        else if digest ≠ some identity.createRequestDigest then
          .error (.validation "run creation identity does not match input")
        else
          let first := transaction (createRunOnce cfg create facts) db
          if lostRequestRace first then transaction (createRunReplay cfg create identity) db
          else first

/-! ## Cancelling -/

/-- `active_requests`: the requests whose intent is `PROPOSED` or `AUTHORIZED`. -/
def activeRequests (rows : RunRows) : List (UUID × ActionRows) :=
  rows.actions.scan.filter fun entry =>
    entry.2.intent.status.waiting && entry.2.request.isSome

/-- The run and the job after a cancellation that takes effect at once. -/
def closeCancelled (rows : RunRows) (finishedAt : Timestamp) : RunRows :=
  { rows with
    run := { rows.run with status := .cancelled, finishedAt := some finishedAt }
    job := { rows.job with
      status := .done, leasedBy := none, ownerToken := none, leaseExpiresAt := none,
      errorSummary := none } }

/-- Close an open request of a waiting run; a request that is already answered
or expired stays as it is. -/
def expireActiveRequest (tenant : TenantContext) (actionIntentId : UUID) (action : ActionRows)
    (request : ApprovalRequest) (rows : RunRows) : Except StoreError RunRows :=
  if request.status.open? then
    .ok ((rows.putAction actionIntentId
        { action with
          request := some { request with
            status := .expired, version := request.version + 1 } }).pushEvent
      (some tenant.actorUserId) .approvalExpired
      [("approval_request_id", .id request.id), ("action_intent_id", .id action.intent.id),
        ("reason", .str "user_requested")])
  else if request.status = .rejected ∨ request.status = .expired then .ok rows
  else .error (.conflict "approval state cannot be cancelled")

/-- Cancel the intent of a waiting run. -/
def cancelActiveIntent (tenant : TenantContext) (actionIntentId requestId : UUID)
    (rows : RunRows) : RunRows :=
  match rows.actions.get actionIntentId with
  | none => rows
  | some action =>
    (rows.putAction actionIntentId
      { action with intent := { action.intent with status := .cancelled } }).pushEvent
      (some tenant.actorUserId) .actionCancelled
      [("action_intent_id", .id action.intent.id), ("approval_request_id", .id requestId),
        ("reason", .str "user_requested")]

/-- The `WAITING_APPROVAL` branch of `cancel_run`. -/
def cancelWaitingRun (tenant : TenantContext) (now : Timestamp) (rows : RunRows) :
    Except StoreError RunRows :=
  match activeRequests rows with
  | [] => .error (.invariant "waiting run has no approval request")
  | (actionIntentId, action) :: _ =>
    match action.request with
    | none => .error (.invariant "waiting run has no approval request")
    | some request =>
      match expireActiveRequest tenant actionIntentId action request rows with
      | .error reason => .error reason
      | .ok expired =>
        if rows.job.status = .dead then
          .error (.invariant "waiting run job is not cancellable")
        else
          .ok ((closeCancelled (cancelActiveIntent tenant actionIntentId request.id expired)
              (max now (rows.run.startedAt.getD now))).pushEvent
            (some tenant.actorUserId) .runCancelled
            [("previous_status", .str "waiting_approval"), ("status", .str "cancelled"),
              ("reason", .str "user_requested")])

/-- The `QUEUED` branch of `cancel_run`. -/
def cancelQueuedRun (tenant : TenantContext) (now : Timestamp) (rows : RunRows) :
    Except StoreError RunRows :=
  if rows.job.status ≠ .queued ∧ rows.job.status ≠ .leased then
    .error (.invariant "queued run does not have one cancellable job")
  else
    .ok ((closeCancelled rows now).pushEvent (some tenant.actorUserId) .runCancelled
      [("previous_status", .str "queued"), ("status", .str "cancelled"),
        ("reason", .str "user_requested")])

/-- The rows after `cancel_run`, by the status of the run. -/
def applyCancellation (tenant : TenantContext) (now : Timestamp) (rows : RunRows) :
    Except StoreError RunRows :=
  match rows.run.status with
  | .waitingApproval => cancelWaitingRun tenant now rows
  | .queued => cancelQueuedRun tenant now rows
  | .running =>
    -- a worker holds the job: leave the request for it to find
    if rows.run.cancelRequestedAt = none then
      .ok { rows with run := { rows.run with cancelRequestedAt := some now } }
    else .ok rows
  | .completed | .failed | .cancelled => .ok rows

/-- `cancel_run` on the rows of the run. -/
def cancelRunRows (tenant : TenantContext) (allowOtherCreator : Bool) (now : Timestamp)
    (rows : RunRows) : Except StoreError (RunRows × RunCancellation) :=
  if 1 < (activeRequests rows).length then
    .error (.invariant "waiting run has multiple active approval requests")
  else if !allowOtherCreator ∧ rows.run.createdByUserId ≠ tenant.actorUserId then
    .error .notFound
  else
    (applyCancellation tenant now rows).map fun after =>
      (after, { runId := after.run.id, status := after.run.status,
                cancelRequestedAt := after.run.cancelRequestedAt })

/-- `cancel_run`. -/
def cancelRun (tenant : TenantContext) (runId : UUID) (allowOtherCreator : Bool)
    (now : Timestamp) : Body RunCancellation := fun db =>
  if allowOtherCreator ∧ tenant.role ≠ .admin then
    .error (.invariant "non-admin tenant cannot cancel another actor run")
  else
    transaction (fun db =>
      match requireCurrentTenant db.memberships tenant with
      | .error reason => .error reason
      | .ok () =>
        onRun tenant.workspaceId runId (.error .notFound)
          (cancelRunRows tenant allowOtherCreator now) db) db

/-! ## Retrieval events -/

/-- `record_retrieved` of `db/retrieval_events.py`: the worker's only event that
no store transition carries. -/
def recordRetrieved (workspaceId runId actorUserId toolInvocationId : UUID)
    (documentIds chunkIds : List UUID) (embeddingProfile : String) : Body Unit :=
  transaction
    (onRun workspaceId runId (.error (.invariant "retrieval event run is unavailable"))
      fun rows =>
        .ok (rows.pushEvent (some actorUserId) .ragRetrieved
          ([("tool_invocation_id", .id toolInvocationId),
            ("result_count", .int chunkIds.length)] ++
            documentIds.map (fun id => ("document_ids", .id id)) ++
            chunkIds.map (fun id => ("chunk_ids", .id id)) ++
            [("embedding_profile", .str embeddingProfile)]), ()))

end Pathfinder
