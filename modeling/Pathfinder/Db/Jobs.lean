import Mathlib.Data.List.Sort
import Pathfinder.Db.Models

/-!
# The worker job store

`db/jobs.py`. Every operation is one transaction. What the database leaves open
is an argument: which rows other transactions have locked (`SKIP LOCKED`), the
token `uuid4()` returns, the delay the retry policy answers, and what the resume
publishers do inside `complete`.
-/
namespace Pathfinder
open KeyedTable

abbrev RetryDelayPolicy := Nat → Timedelta

/-- `ClaimedJob`. -/
structure ClaimedJob where
  jobId : UUID
  workspaceId : UUID
  runId : UUID
  originatingActorUserId : UUID
  graphVersion : GraphVersion
  attempt : Int
  maxAttempts : Int
  ownerToken : UUID
  leaseExpiresAt : Timestamp
  resumeApprovalRequestId : Option UUID
  deriving DecidableEq, Repr

/-- `PrepareClaimResult`. -/
inductive PrepareClaimResult where
  | execute (tenant : TenantContext)
  | recoverAction (identity : ActionExecutionIdentity)
  | finished
  | leaseLost
  deriving DecidableEq, Repr

/-- `ReclaimSummary`. -/
structure ReclaimSummary where
  scanned : Nat
  requeued : Nat
  finished : Nat
  dead : Nat
  deriving DecidableEq, Repr

/-- `_valid_error_category`. -/
def validErrorCategory (cfg : Config) (value : String) : Bool :=
  match value.toList with
  | [] => false
  | first :: rest =>
    rest.length ≤ 99 && cfg.isLower first &&
      (first :: rest).all fun c => cfg.isLower c || cfg.isDigit c || c == '_'

/-- `_clear_lease`. -/
def clearLease (job : RunJob) (status : JobStatus) : RunJob :=
  { job with status := status, leasedBy := none, ownerToken := none, leaseExpiresAt := none }

/-- `_append_event`; worker events have no actor. -/
def appendEvent (rows : RunRows) (type : RunEventType) (payload : Payload) : RunRows :=
  rows.pushEvent none type payload

/-- `_terminal_time`: the latest of now, the start and the cancel request. -/
def terminalTime (run : Run) (now : Timestamp) : Timestamp :=
  max (max now (run.startedAt.getD now)) (run.cancelRequestedAt.getD now)

/-- `_mark_run_cancelled`. -/
def markRunCancelled (rows : RunRows) (reason : String) (now : Timestamp) : RunRows :=
  if rows.run.status.terminal then rows
  else
    appendEvent
      { rows with run := { rows.run with
          status := .cancelled
          finishedAt := some (terminalTime rows.run now) } }
      .runCancelled
      [("previous_status", .str rows.run.status.value), ("status", .str "cancelled"),
        ("reason", .str reason)]

/-- `_mark_run_failed`. -/
def markRunFailed (rows : RunRows) (errorCategory : String) (now : Timestamp) : RunRows :=
  if rows.run.status.terminal then rows
  else
    let started := { rows.run with startedAt := some (rows.run.startedAt.getD now) }
    appendEvent
      { rows with run := { started with
          status := .failed
          errorCategory := some errorCategory
          finishedAt := some (terminalTime started now) } }
      .runFailed [("status", .str "failed"), ("error_category", .str errorCategory)]

/-- `_mark_job_dead`. -/
def markJobDead (rows : RunRows) (errorCategory : String) : RunRows :=
  appendEvent
    { rows with job := { clearLease rows.job .dead with errorSummary := some errorCategory } }
    .jobDead
    [("attempt", .int rows.job.attempt), ("max_attempts", .int rows.job.maxAttempts),
      ("error_category", .str errorCategory)]

/-- Set `error_summary` of the job. -/
def RunRows.withSummary (rows : RunRows) (summary : Option String) : RunRows :=
  { rows with job := { rows.job with errorSummary := summary } }

/-- `_clear_lease` on the job of a run. -/
def RunRows.clearLease (rows : RunRows) (status : JobStatus) : RunRows :=
  { rows with job := Pathfinder.clearLease rows.job status }

/-- `_converge_terminal_action`: the run follows an action that ended badly. -/
def convergeTerminalAction (memberships : List WorkspaceMembership) (rows : RunRows)
    (action : ActionRows) (now : Timestamp) : Except StoreError RunRows :=
  match action.invocation with
  | none => .error (.invariant "terminal action invocation is inconsistent")
  | some invocation =>
    if some invocation.status ≠ action.intent.status.invocationStatus then
      .error (.invariant "terminal action invocation is inconsistent")
    else if action.intent.status = .outcomeUnknown then
      .ok (markRunFailed (rows.withSummary (some "external_outcome_unknown"))
        "external_outcome_unknown" now)
    else if action.intent.status ≠ .failed then
      .error (.invariant "terminal action convergence requires failure")
    else
      let evidence := action.intent.evidence.getD []
      let confirmedAbsent :=
        evidence.get? "classification" = some (.str "confirmed_absent") ∧
        evidence.get? "reason" = invocation.errorCategory.map .str
      if confirmedAbsent ∧ invocation.errorCategory = some "cancelled_confirmed_absent" ∧
          rows.run.cancelRequestedAt ≠ none then
        .ok (markRunCancelled (rows.withSummary none) "user_requested" now)
      else if confirmedAbsent ∧ invocation.errorCategory = some "authorization_revoked" ∧
          !membershipActive memberships action.intent.workspaceId
            action.intent.originatingActorUserId then
        .ok (markRunCancelled (rows.withSummary none) "authorization_revoked" now)
      else
        .ok (markRunFailed (rows.withSummary (some "external_action_failed"))
          "external_action_failed" now)

/-! ## Claiming -/

/-- `EXISTS` an action of the run that is still executing with attempts left to
recover it. -/
def recoverable (cfg : Config) (rows : RunRows) : Bool :=
  rows.actions.any fun action =>
    action.intent.status == .executing &&
      action.intent.recoveryAttempts ≤ cfg.actionRecoveryMaxAttempts

/-- `EXISTS` an action of the run that succeeded. -/
def actionSucceeded (rows : RunRows) : Bool :=
  rows.actions.any fun action => action.intent.status == .succeeded

/-- The `WHERE` clause of `claim_due_job`. -/
def claimable (cfg : Config) (rows : RunRows) (now : Timestamp) : Bool :=
  rows.job.status == .queued && rows.job.availableAt ≤ now &&
  cfg.executable rows.run.graphVersion &&
  (decide (rows.job.attempt < rows.job.maxAttempts) || recoverable cfg rows ||
    (actionSucceeded rows &&
      rows.job.attempt < rows.job.maxAttempts + cfg.actionRecoveryMaxAttempts))

/-- `ORDER BY available_at, created_at, id`. -/
def dueBefore (a b : UUID × RunRows) : Prop :=
  a.2.job.availableAt < b.2.job.availableAt ∨
  (a.2.job.availableAt = b.2.job.availableAt ∧
    (a.2.job.createdAt < b.2.job.createdAt ∨
      (a.2.job.createdAt = b.2.job.createdAt ∧ a.2.job.id ≤ b.2.job.id)))

instance : DecidableRel dueBefore := fun a b => by unfold dueBefore; infer_instance

/-- The lease a claim writes. -/
def leaseJob (job : RunJob) (workerId : String) (ownerToken : UUID) (expiresAt : Timestamp) :
    RunJob :=
  { job with
    status := .leased
    attempt := if job.attempt < job.maxAttempts then job.attempt + 1 else job.attempt
    leasedBy := some workerId
    ownerToken := some ownerToken
    leaseExpiresAt := some expiresAt }

/-- What a claim hands to its worker; `__post_init__` checks the attempt. -/
def claimedJob (rows : RunRows) (job : RunJob) (ownerToken : UUID) (expiresAt : Timestamp) :
    Except StoreError ClaimedJob :=
  if job.attempt < 1 ∨ job.maxAttempts < job.attempt then
    .error (.value "claimed job attempt values are invalid")
  else
    .ok { jobId := job.id, workspaceId := job.workspaceId, runId := job.runId,
          originatingActorUserId := job.originatingActorUserId,
          graphVersion := rows.run.graphVersion, attempt := job.attempt,
          maxAttempts := job.maxAttempts, ownerToken := ownerToken, leaseExpiresAt := expiresAt,
          resumeApprovalRequestId := job.resumeApprovalRequestId }

/-- The row a claim takes: the first due one that no other transaction has locked. -/
def selectDueJob (cfg : Config) (db : Db) (locked : UUID → Bool) (now : Timestamp) :
    Option (UUID × RunRows) :=
  ((db.runs.scan.filter fun entry => claimable cfg entry.2 now && !locked entry.2.job.id)
    |>.insertionSort dueBefore).head?

/-- `claim_due_job`. -/
def claimDueJob (cfg : Config) (locked : UUID → Bool) (workerId : String) (now : Timestamp)
    (leaseDuration : Timedelta) (ownerToken : UUID) : Body (Option ClaimedJob) := fun db =>
  if isBlank workerId ∨ 200 < workerId.length then
    .error (.value "worker_id must be a bounded non-blank string")
  else if leaseDuration ≤ 0 then .error (.value "claim timing is invalid")
  else
    transaction (fun db =>
      match selectDueJob cfg db locked now with
      | none => .ok (db, none)
      | some (runId, rows) =>
        let job := leaseJob rows.job workerId ownerToken (now + leaseDuration)
        match claimedJob rows job ownerToken (now + leaseDuration) with
        | .error reason => .error reason
        | .ok claimed => .ok (db.putRun runId { rows with job := job }, some claimed)) db

/-! ## Holding a lease -/

/-- `_active_lease_predicates`. -/
def activeLeasePredicates (row : RunJob) (job : ClaimedJob) (now : Timestamp) : Bool :=
  row.id == job.jobId && row.workspaceId == job.workspaceId && row.runId == job.runId &&
  row.originatingActorUserId == job.originatingActorUserId && row.status == .leased &&
  row.ownerToken == some job.ownerToken && row.attempt == job.attempt &&
  row.leaseExpiresAt.any fun expiresAt => now < expiresAt

/-- `_consume_lease`: the rows after the update, or `none` when no row matches. -/
def consumeLease (rows : RunRows) (job : ClaimedJob) (now : Timestamp) (status : JobStatus)
    (errorSummary : Option String) (availableAt : Option Timestamp) : Option RunRows :=
  if activeLeasePredicates rows.job job now then
    some { rows with job := { clearLease rows.job status with
      errorSummary := errorSummary
      availableAt := availableAt.getD rows.job.availableAt } }
  else none

/-- An operation on the rows a claimed job points to; a missing row matches no
lease predicate. -/
def onClaimed {α : Type} (job : ClaimedJob) (lost : α)
    (f : Db → RunRows → Except StoreError (RunRows × α)) : Body α := fun db =>
  transaction (onRun job.workspaceId job.runId (.ok lost) (f db)) db

/-- `heartbeat`. -/
def heartbeatRows (job : ClaimedJob) (now : Timestamp) (leaseDuration : Timedelta)
    (rows : RunRows) : Except StoreError (RunRows × Bool) :=
  if activeLeasePredicates rows.job job now then
    .ok ({ rows with job := { rows.job with leaseExpiresAt := some (now + leaseDuration) } }, true)
  else .ok (rows, false)

def heartbeat (job : ClaimedJob) (now : Timestamp) (leaseDuration : Timedelta) : Body Bool :=
  onClaimed job false fun _ => heartbeatRows job now leaseDuration

/-! ## Preparing a claimed job -/

/-- The request with this identity among the actions of the run. -/
def RunRows.findRequest (rows : RunRows) (requestId : UUID) : Option (UUID × ActionRows) :=
  rows.actions.find? fun action => action.request.any fun request => request.id == requestId

/-- `_require_consumed_resume`: consumption authorizes recovery of the original
action, never a new approval. -/
def requireConsumedResume (cfg : Config) (job : ClaimedJob) (action : ActionRows)
    (request : ApprovalRequest) : Except StoreError Unit :=
  if action.intent.originatingActorUserId ≠ job.originatingActorUserId ∨
      request.consumedAt.isNone then
    .error (.invariant "consumed resume action is missing or conflicting")
  else match validateExactApprovalBinding cfg.digests action.intent request with
    | .error reason => .error reason
    | .ok () =>
      let expected : Option ToolInvocationStatus :=
        match action.intent.status with
        | .authorized => some .prepared
        | .executing => some .executing
        | .succeeded => some .succeeded
        | .proposed | .failed | .outcomeUnknown | .cancelled => none
      match action.invocation with
      | none => .error (.invariant "consumed resume invocation facts conflict")
      | some invocation =>
        if expected ≠ some invocation.status ∨
            invocation.originatingActorUserId ≠ job.originatingActorUserId ∨
            invocation.toolName ≠ action.intent.toolName ∨
            invocation.effect ≠ action.intent.effect ∨
            invocation.argsDigest ≠ action.intent.argsDigest ∨
            (expected = some .prepared ∧ invocation.attempt ≠ 0) ∨
            (expected ≠ some .prepared ∧ invocation.attempt < 1) then
          .error (.invariant "consumed resume invocation facts conflict")
        else .ok ()

/-- `_require_resume_request`. -/
def requireResumeRequest (cfg : Config) (rows : RunRows) (job : ClaimedJob)
    (allowConsumed : Bool) : Except StoreError ApprovalRequest :=
  match job.resumeApprovalRequestId with
  | none => .error (.invariant "waiting approval job is missing resume identity")
  | some requestId =>
    match rows.findRequest requestId with
    | none => .error (.invariant "resume approval request is missing or cross-tenant")
    | some (_, action) =>
      match action.request with
      | none => .error (.invariant "resume approval request is missing or cross-tenant")
      | some request =>
        if request.status = .consumed ∧ allowConsumed then
          (requireConsumedResume cfg job action request).map fun _ => request
        else if request.status.gate6Resume then .ok request
        else .error (.invariant "resume approval request status is invalid")

/-- The last part of `prepare_claimed_job`: start or resume the run. -/
def startRun (cfg : Config) (role : WorkspaceRole) (job : ClaimedJob) (now : Timestamp)
    (rows : RunRows) : Except StoreError (RunRows × PrepareClaimResult) :=
  let tenant : TenantContext := ⟨job.workspaceId, job.originatingActorUserId, role⟩
  if rows.job.resumeApprovalRequestId ≠ job.resumeApprovalRequestId then
    .error (.invariant "claimed job resume approval identity changed")
  else match rows.run.status with
    | .waitingApproval =>
      match requireResumeRequest cfg rows job false with
      | .error reason => .error reason
      | .ok request =>
        let resumed := appendEvent { rows with run := { rows.run with status := .running } }
          .runStatusChanged
          [("previous_status", .str "waiting_approval"), ("status", .str "running"),
            ("reason", .str "approval_resume_claimed"), ("approval_request_id", .id request.id),
            ("action_intent_id", .id request.actionIntentId)]
        -- the run is RUNNING now, so the last branch checks the request once more
        match requireResumeRequest cfg resumed job true with
        | .error reason => .error reason
        | .ok _ => .ok (resumed, .execute tenant)
    | .queued =>
      if job.resumeApprovalRequestId ≠ none then
        .error (.invariant "initial queued run has a resume approval identity")
      else
        .ok (appendEvent
          { rows with run := { rows.run with status := .running, startedAt := some now } }
          .runStatusChanged
          [("previous_status", .str "queued"), ("status", .str "running"),
            ("reason", .str "worker_claimed")], .execute tenant)
    | .running =>
      if job.resumeApprovalRequestId = none then .ok (rows, .execute tenant)
      else match requireResumeRequest cfg rows job true with
        | .error reason => .error reason
        | .ok _ => .ok (rows, .execute tenant)
    | .completed | .failed | .cancelled =>
      .error (.invariant "claimed job run status is invalid")

/-- `prepare_claimed_job` once neither a recovery nor an ended action decides. -/
def prepareActiveRun (cfg : Config) (membership : Option WorkspaceMembership) (job : ClaimedJob)
    (now : Timestamp) (rows : RunRows) : Except StoreError (RunRows × PrepareClaimResult) :=
  if rows.run.status.terminal then
    .ok ((rows.clearLease .done).withSummary none, .finished)
  else match membership.filter fun row => row.revokedAt.isNone with
    | none =>
      .ok (markRunCancelled ((rows.clearLease .done).withSummary none)
        "authorization_revoked" now, .finished)
    | some membership =>
      if rows.run.graphVersion ≠ job.graphVersion ∨ !cfg.executable rows.run.graphVersion then
        .ok (markRunFailed (markJobDead rows "unsupported_graph_version")
          "unsupported_graph_version" now, .finished)
      else if rows.run.cancelRequestedAt ≠ none then
        .ok (markRunCancelled ((rows.clearLease .done).withSummary none)
          "user_requested" now, .finished)
      else startRun cfg membership.role job now rows

/-- `prepare_claimed_job` on the rows of the run. -/
def prepareClaimedRows (cfg : Config) (memberships : List WorkspaceMembership) (job : ClaimedJob)
    (now : Timestamp) (rows : RunRows) : Except StoreError (RunRows × PrepareClaimResult) :=
  let membership := findMembership memberships job.workspaceId job.originatingActorUserId
  let revoked := !membershipActive memberships job.workspaceId job.originatingActorUserId
  if !activeLeasePredicates rows.job job now then .ok (rows, .leaseLost)
  else
    match (rows.findAction fun intent => intent.status == .executing).filter
        fun _ => revoked || rows.run.cancelRequestedAt.isSome with
    | some (actionIntentId, action) =>
      match action.request.filter fun request => request.status == .consumed with
      | none => .error (.invariant "executing action approval binding is missing")
      | some request =>
        .ok (rows, .recoverAction ⟨job.workspaceId, job.runId, actionIntentId, request.id⟩)
    | none =>
      match rows.findAction fun intent => intent.status.unsuccessful with
      | some (_, action) =>
        (convergeTerminalAction memberships (rows.clearLease .done) action now).map
          fun converged => (converged, .finished)
      | none => prepareActiveRun cfg membership job now rows

/-- `prepare_claimed_job`. -/
def prepareClaimedJob (cfg : Config) (job : ClaimedJob) (resolvedTenant : Option TenantContext)
    (now : Timestamp) : Body PrepareClaimResult := fun db =>
  if resolvedTenant.any fun tenant =>
      tenant.workspaceId != job.workspaceId || tenant.actorUserId != job.originatingActorUserId then
    .error (.invariant "resolved tenant does not match claimed job")
  else onClaimed job .leaseLost (fun db => prepareClaimedRows cfg db.memberships job now) db

end Pathfinder
