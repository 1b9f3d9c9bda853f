import Pathfinder.Db.Jobs

/-!
# Giving a lease up

The rest of `db/jobs.py`: the six ways a worker ends its lease, and the
reclaiming of leases that ran out. Each of the six first consumes the lease, and
a call whose lease is gone answers `False` and writes nothing.
-/
namespace Pathfinder
open KeyedTable

/-! ## Completion -/

/-- The result `complete` stores: the publisher's receipt for a resume candidate,
else the worker's own result. `published` is what `publisher.publish` answers;
`none` means the membership is gone and nothing is published. -/
def resumePublication (cfg : Config) (memberships : List WorkspaceMembership) (job : ClaimedJob)
    (run : Run) (result : RunOutput) (published : Except StoreError RunOutput) :
    Except StoreError (Option RunOutput) :=
  match result.model with
  | .resumeGenerationCandidate | .resumeRevisionCandidate =>
    let generation := result.model = .resumeGenerationCandidate
    let available := if generation then cfg.generationPublisher else cfg.revisionPublisher
    let expected := if generation then RunMode.resumeGeneration else .resumeRevision
    if !available ∨ run.mode ≠ expected then
      .error (.invariant "resume publisher is unavailable")
    else if !membershipActive memberships job.workspaceId job.originatingActorUserId then .ok none
    else published.map some
  | _ => .ok (some result)

/-- `contract.decode_output` for the contract of the run. -/
def validatedOutput (cfg : Config) (run : Run) (result : RunOutput) : Except StoreError String :=
  match (findRunContract cfg.executionContracts run.graphVersion run.mode).bind
      fun contract => cfg.decodeOutput contract result with
  | some dump => .ok dump
  | none => .error (.invariant "completed job result contract is invalid")

/-- The successful end of a run. -/
def markRunCompleted (rows : RunRows) (dump : String) (now : Timestamp) : RunRows :=
  appendEvent
    { rows with run := { rows.run with
        status := .completed
        resultJson := some dump
        errorCategory := none
        finishedAt := some (terminalTime rows.run now) } }
    .runCompleted [("status", .str "completed")]

/-- `complete` on the rows of the run. -/
def completeRows (cfg : Config) (memberships : List WorkspaceMembership) (job : ClaimedJob)
    (result : RunOutput) (published : Except StoreError RunOutput) (now : Timestamp)
    (rows : RunRows) : Except StoreError (RunRows × Bool) :=
  match consumeLease rows job now .done none none with
  | none => .ok (rows, false)
  | some rows =>
    if rows.run.status.terminal then .ok (rows, true)
    else if rows.run.cancelRequestedAt ≠ none then
      .ok (markRunCancelled rows "user_requested" now, true)
    else if rows.run.status ≠ .running then
      .error (.invariant "completed job run is not running")
    else match resumePublication cfg memberships job rows.run result published with
      | .error reason => .error reason
      | .ok none => .ok (markRunCancelled rows "authorization_revoked" now, true)
      | .ok (some receipt) =>
        (validatedOutput cfg rows.run receipt).map fun dump =>
          (markRunCompleted rows dump now, true)

def complete (cfg : Config) (job : ClaimedJob) (result : RunOutput)
    (published : Except StoreError RunOutput) (now : Timestamp) : Body Bool :=
  onClaimed job false fun db => completeRows cfg db.memberships job result published now

/-! ## Pausing for an approval -/

/-- `wait_for_approval` on the rows of the run. -/
def waitForApprovalRows (job : ClaimedJob) (approvalRequestId : UUID) (now : Timestamp)
    (rows : RunRows) : Except StoreError (RunRows × Bool) :=
  if !activeLeasePredicates rows.job job now then .ok (rows, false)
  else if !rows.run.mode.legacy then
    .error (.invariant "resume execution cannot wait for legacy approval")
  else match (rows.findRequest approvalRequestId).bind fun found => found.2.request with
    | none => .error (.invariant "approval pause request is missing or cross-tenant")
    | some request =>
      let paused (reason : String) : RunRows :=
        appendEvent
          { (rows.clearLease .done).withSummary none with
            run := { rows.run with status := .waitingApproval } }
          .runStatusChanged
          [("previous_status", .str "running"), ("status", .str "waiting_approval"),
            ("reason", .str reason), ("approval_request_id", .id request.id),
            ("action_intent_id", .id request.actionIntentId)]
      if rows.job.resumeApprovalRequestId ≠ none then
        if rows.job.resumeApprovalRequestId ≠ some approvalRequestId ∨
            job.resumeApprovalRequestId ≠ some approvalRequestId then
          .error (.invariant "approval resume pause identity is invalid")
        else if !request.status.gate6Resume then
          .error (.invariant "approval resume pause request status is invalid")
        else if rows.run.status ≠ .running then
          .error (.invariant "approval pause run is not running")
        else .ok (paused "approval_resume_paused", true)
      else if job.resumeApprovalRequestId ≠ none then
        .error (.invariant "initial approval pause has a resume identity")
      else if request.status ≠ .pending then
        .error (.invariant "approval pause request is not pending")
      else if rows.run.status ≠ .running then
        .error (.invariant "approval pause run is not running")
      else .ok (paused "approval_required", true)

def waitForApproval (job : ClaimedJob) (approvalRequestId : UUID) (now : Timestamp) : Body Bool :=
  onClaimed job false fun _ => waitForApprovalRows job approvalRequestId now

/-! ## Handing the job back -/

/-- `_require_error_category` before the transaction. -/
def requireErrorCategory {α : Type} (cfg : Config) (value : String) (body : Body α) : Body α :=
  fun db => if validErrorCategory cfg value then body db
    else .error (.value "job error category is invalid")

/-- `requeue` on the rows of the run. -/
def requeueRows (retryDelay : RetryDelayPolicy) (job : ClaimedJob) (errorCategory : String)
    (now : Timestamp) (rows : RunRows) : Except StoreError (RunRows × Bool) :=
  match consumeLease rows job now .queued (some errorCategory)
      (some (now + retryDelay job.attempt.toNat)) with
  | none => .ok (rows, false)
  | some rows =>
    let executing := rows.actions.any fun action => action.intent.status == .executing
    if rows.run.cancelRequestedAt ≠ none ∧ rows.run.status = .running ∧ !executing then
      .ok (markRunCancelled
        { rows with job := { rows.job with status := .done, errorSummary := none } }
        "user_requested" now, true)
    else .ok (rows, true)

def requeue (cfg : Config) (retryDelay : RetryDelayPolicy) (job : ClaimedJob)
    (errorCategory : String) (now : Timestamp) : Body Bool :=
  requireErrorCategory cfg errorCategory
    (onClaimed job false fun _ => requeueRows retryDelay job errorCategory now)

/-- `release` on the rows of the run. -/
def releaseRows (retryDelay : RetryDelayPolicy) (job : ClaimedJob) (errorCategory : String)
    (now : Timestamp) (rows : RunRows) : Except StoreError (RunRows × Bool) :=
  if activeLeasePredicates rows.job job now ∧ rows.job.attempt < rows.job.maxAttempts then
    .ok ({ rows with job := { clearLease rows.job .queued with
      errorSummary := some errorCategory
      availableAt := now + retryDelay job.attempt.toNat } }, true)
  else .ok (rows, false)

def release (cfg : Config) (retryDelay : RetryDelayPolicy) (job : ClaimedJob)
    (errorCategory : String) (now : Timestamp) : Body Bool :=
  requireErrorCategory cfg errorCategory
    (onClaimed job false fun _ => releaseRows retryDelay job errorCategory now)

/-! ## Failing and cancelling -/

/-- Record that the attempts to recover an action are spent: shared by `fail`
and `reclaim_stale_leases`, which write the same fields. -/
def exhaustRecovery (rows : RunRows) (actionIntentId : UUID) (action : ActionRows)
    (now : Timestamp) : Except StoreError RunRows :=
  match action.invocation.filter fun invocation => invocation.status == .executing with
  | none => .error (.invariant "executing action invocation is inconsistent")
  | some invocation =>
    .ok (appendEvent
      (rows.putAction actionIntentId
        { action with
          intent := { action.intent with
            status := .outcomeUnknown
            result := none
            evidence := some [("classification", .str "recovery_exhausted")] }
          invocation := some { invocation with
            status := .outcomeUnknown
            latencyMs := some 0
            resultSummary := none
            errorCategory := some "external_outcome_unknown"
            finishedAt := some now } })
      .actionOutcomeUnknown
      [("action_intent_id", .id action.intent.id), ("invocation_id", .id invocation.id),
        ("status", .str "outcome_unknown"),
        ("error_category", .str "external_outcome_unknown"),
        ("recovery_attempts", .int action.intent.recoveryAttempts)])

/-- The statuses `fail` and `reclaim_stale_leases` look for: execution has begun. -/
def RunRows.begunAction (rows : RunRows) : Option (UUID × ActionRows) :=
  rows.findAction fun intent => intent.status.begun

/-- `fail` on the rows of the run. -/
def failRows (cfg : Config) (memberships : List WorkspaceMembership)
    (retryDelay : RetryDelayPolicy) (job : ClaimedJob) (errorCategory : String) (now : Timestamp)
    (rows : RunRows) : Except StoreError (RunRows × Bool) :=
  match rows.begunAction.filter fun found => found.2.intent.status == .executing with
  | some (actionIntentId, action) =>
    if action.intent.recoveryAttempts < cfg.actionRecoveryMaxAttempts then
      match consumeLease rows job now .queued (some "action_recovery_required")
          (some (now + retryDelay job.attempt.toNat)) with
      | none => .ok (rows, false)
      | some rows => .ok (rows, true)
    else match consumeLease rows job now .done (some "external_outcome_unknown") none with
      | none => .ok (rows, false)
      | some rows =>
        (exhaustRecovery rows actionIntentId action now).map fun rows =>
          (markRunFailed rows "external_outcome_unknown" now, true)
  | none =>
    let ended := rows.begunAction.filter fun found => found.2.intent.status.unsuccessful
    match consumeLease rows job now (if ended.isSome then .done else .dead) (some errorCategory)
        none with
    | none => .ok (rows, false)
    | some rows =>
      if rows.run.status.terminal then .ok (rows, true)
      else match ended with
        | some (_, action) =>
          (convergeTerminalAction memberships rows action now).map fun rows => (rows, true)
        | none =>
          if rows.run.cancelRequestedAt ≠ none then
            .ok (markRunCancelled
              { rows with job := { rows.job with status := .done, errorSummary := none } }
              "user_requested" now, true)
          else
            .ok (markRunFailed
              (appendEvent rows .jobDead
                [("attempt", .int job.attempt), ("max_attempts", .int job.maxAttempts),
                  ("error_category", .str errorCategory)])
              errorCategory now, true)

def fail (cfg : Config) (retryDelay : RetryDelayPolicy) (job : ClaimedJob)
    (errorCategory : String) (now : Timestamp) : Body Bool :=
  requireErrorCategory cfg errorCategory
    (onClaimed job false fun db =>
      failRows cfg db.memberships retryDelay job errorCategory now)

/-- `cancel` on the rows of the run. -/
def cancelRows (memberships : List WorkspaceMembership) (retryDelay : RetryDelayPolicy)
    (job : ClaimedJob) (reason : String) (now : Timestamp) (rows : RunRows) :
    Except StoreError (RunRows × Bool) :=
  let found := rows.findAction fun intent =>
    intent.status == .executing || intent.status.unsuccessful
  if found.any fun entry => entry.2.intent.status == .executing then
    match consumeLease rows job now .queued (some "action_recovery_required")
        (some (now + retryDelay job.attempt.toNat)) with
    | none => .ok (rows, false)
    | some rows => .ok (rows, true)
  else match consumeLease rows job now .done none none with
    | none => .ok (rows, false)
    | some rows =>
      match found with
      | some (_, action) =>
        (convergeTerminalAction memberships rows action now).map fun rows => (rows, true)
      | none =>
        let persistedReason :=
          if rows.run.cancelRequestedAt ≠ none then "user_requested"
          else if !membershipActive memberships job.workspaceId job.originatingActorUserId then
            "authorization_revoked"
          else reason
        .ok (markRunCancelled rows persistedReason now, true)

def cancel (cfg : Config) (retryDelay : RetryDelayPolicy) (job : ClaimedJob) (reason : String)
    (now : Timestamp) : Body Bool :=
  requireErrorCategory cfg reason
    (onClaimed job false fun db => cancelRows db.memberships retryDelay job reason now)

/-! ## Reclaiming stale leases -/

/-- The `WHERE` clause of `reclaim_stale_leases`. -/
def stale (cfg : Config) (rows : RunRows) (now : Timestamp) : Bool :=
  rows.job.status == .leased && (rows.job.leaseExpiresAt.any fun expiresAt => expiresAt ≤ now) &&
    cfg.executable rows.run.graphVersion

/-- `ORDER BY lease_expires_at, created_at, id`. -/
def staleBefore (a b : UUID × RunRows) : Prop :=
  a.2.job.leaseExpiresAt.getD 0 < b.2.job.leaseExpiresAt.getD 0 ∨
  (a.2.job.leaseExpiresAt.getD 0 = b.2.job.leaseExpiresAt.getD 0 ∧
    (a.2.job.createdAt < b.2.job.createdAt ∨
      (a.2.job.createdAt = b.2.job.createdAt ∧ a.2.job.id ≤ b.2.job.id)))

instance : DecidableRel staleBefore := fun a b => by unfold staleBefore; infer_instance

/-- What reclaiming did with one job. -/
inductive Reclaimed where
  | requeued | finished | dead
  deriving DecidableEq, Repr

/-- Put the job of a run back in the queue. -/
def requeueJob (rows : RunRows) (retryDelay : RetryDelayPolicy) (errorSummary : String)
    (now : Timestamp) : RunRows :=
  { rows with job := { clearLease rows.job .queued with
    availableAt := now + retryDelay rows.job.attempt.toNat
    errorSummary := some errorSummary } }

/-- The event that records an expired lease; some branches add a marker. -/
def leaseExpired (rows : RunRows) (marker : Payload) : RunRows :=
  appendEvent rows .jobLeaseExpired
    ([("attempt", .int rows.job.attempt), ("max_attempts", .int rows.job.maxAttempts)] ++ marker)

/-- The last part of the reclaim loop: no begun action decides, the run is
neither terminal nor asked to cancel. -/
def reclaimRunning (retryDelay : RetryDelayPolicy) (now : Timestamp) (rows : RunRows) :
    Except StoreError (RunRows × Reclaimed) :=
  let expired := leaseExpired rows []
  let legalWaitingResume :=
    rows.run.status = .waitingApproval ∧ rows.job.resumeApprovalRequestId ≠ none
  if rows.job.attempt < rows.job.maxAttempts ∧
      (rows.run.status = .queued ∨ rows.run.status = .running ∨ legalWaitingResume) then
    -- `_require_persisted_resume_request`
    if legalWaitingResume ∧
        (rows.job.resumeApprovalRequestId.bind rows.findRequest).isNone then
      .error (.invariant "resume approval request is missing or cross-tenant")
    else .ok (requeueJob expired retryDelay "lease_expired" now, .requeued)
  else
    let errorCategory :=
      if rows.run.status = .waitingApproval then "unexpected_waiting_approval"
      else "job_attempts_exhausted"
    .ok (markRunFailed (markJobDead expired errorCategory) errorCategory now, .dead)

/-- One turn of the reclaim loop. -/
def reclaimRows (cfg : Config) (memberships : List WorkspaceMembership)
    (retryDelay : RetryDelayPolicy) (now : Timestamp) (rows : RunRows) :
    Except StoreError (RunRows × Reclaimed) :=
  match rows.begunAction with
  | some (actionIntentId, action) =>
    if action.intent.status = .executing then
      if !(action.invocation.any fun invocation => invocation.status == .executing) then
        .error (.invariant "executing action invocation is inconsistent")
      else
        let expired := leaseExpired rows [("action_recovery", .bool true)]
        if action.intent.recoveryAttempts < cfg.actionRecoveryMaxAttempts then
          .ok (requeueJob expired retryDelay "action_recovery_required" now, .requeued)
        else
          (exhaustRecovery expired actionIntentId action now).map fun rows =>
            (markRunFailed ((rows.clearLease .done).withSummary
              (some "external_outcome_unknown")) "external_outcome_unknown" now, .finished)
    else if action.intent.status.unsuccessful then
      (convergeTerminalAction memberships (rows.clearLease .done) action now).map fun rows =>
        (rows, .finished)
    else if !rows.run.status.terminal ∧
        rows.job.attempt < rows.job.maxAttempts + cfg.actionRecoveryMaxAttempts then
      .ok (requeueJob (leaseExpired rows [("terminal_action_convergence", .bool true)])
        retryDelay "terminal_action_convergence" now, .requeued)
    else if rows.run.status.terminal then
      .ok ((rows.clearLease .done).withSummary none, .finished)
    else if rows.run.cancelRequestedAt ≠ none then
      .ok (markRunCancelled ((rows.clearLease .done).withSummary none) "user_requested" now,
        .finished)
    else reclaimRunning retryDelay now rows
  | none =>
    if rows.run.status.terminal then .ok ((rows.clearLease .done).withSummary none, .finished)
    else if rows.run.cancelRequestedAt ≠ none then
      .ok (markRunCancelled ((rows.clearLease .done).withSummary none) "user_requested" now,
        .finished)
    else reclaimRunning retryDelay now rows

/-- The rows a reclaim takes, in its order. -/
def selectStaleJobs (cfg : Config) (runs : Table UUID RunRows) (locked : UUID → Bool)
    (now : Timestamp) (limit : Nat) : List UUID :=
  (((runs.scan.filter fun entry => stale cfg entry.2 now && !locked entry.2.job.id)
    |>.insertionSort staleBefore).take limit).map Prod.fst

/-- The reclaim loop over the selected runs. -/
def reclaimEach (cfg : Config) (retryDelay : RetryDelayPolicy) (now : Timestamp) :
    List UUID → Db → Except StoreError (Db × List Reclaimed)
  | [], db => .ok (db, [])
  | runId :: rest, db =>
    match db.runs.get runId with
    | none => .error (.invariant "claimed job run is missing")
    | some rows =>
      match reclaimRows cfg db.memberships retryDelay now rows with
      | .error reason => .error reason
      | .ok (rows', outcome) =>
        (reclaimEach cfg retryDelay now rest (db.putRun runId rows')).map fun done =>
          (done.1, outcome :: done.2)

/-- `reclaim_stale_leases`. -/
def reclaimStaleLeases (cfg : Config) (retryDelay : RetryDelayPolicy) (locked : UUID → Bool)
    (now : Timestamp) (limit : Nat) : Body ReclaimSummary := fun db =>
  if limit < 1 then .error (.value "stale lease reclaim limit must be positive")
  else
    transaction (fun db =>
      let runIds := selectStaleJobs cfg db.runs locked now limit
      (reclaimEach cfg retryDelay now runIds db).map fun done =>
        (done.1,
          { scanned := runIds.length
            requeued := done.2.count .requeued
            finished := done.2.count .finished
            dead := done.2.count .dead })) db

end Pathfinder
