import Mathlib.Data.List.Sort
import Pathfinder.Db.Models

/-!
# Deciding and expiring approvals

`decide` of `db/approvals.py` and the sweep of `db/approval_expiry.py`. Both wake
the job of a run that waits. The transitions they validate before a write are
fixed by the branch and always allowed.
-/
namespace Pathfinder
open KeyedTable

/-- `ApprovalDecisionRecord`. -/
structure ApprovalDecisionRecord where
  decision : ApprovalDecision
  actionIntentId : UUID
  deriving DecidableEq, Repr

/-- The run whose rows hold the approval request of an action. -/
def Db.findApproval (db : Db) (workspaceId actionIntentId : UUID) : Option (UUID × RunRows) :=
  db.runs.find? fun rows => (rows.actions.get actionIntentId).any fun action =>
    action.request.any fun request => request.workspaceId == workspaceId

/-- The job of a waiting run goes back to the queue for `requestId`. -/
def wakeJob (job : RunJob) (requestId : UUID) (now : Timestamp) : RunJob :=
  { job with
    status := .queued, attempt := 0, availableAt := now, leasedBy := none, ownerToken := none,
    leaseExpiresAt := none, errorSummary := none, resumeApprovalRequestId := some requestId }

/-- The new decision row. -/
def decisionOf (command : ApprovalDecisionCommand) (requestId decisionId : UUID) :
    ApprovalDecision :=
  { id := decisionId, workspaceId := command.tenant.workspaceId, approvalRequestId := requestId,
    actorUserId := command.tenant.actorUserId, decision := command.decision,
    reason := command.reason, decidedAt := command.now }

/-- The status a decision leads to. -/
def Decision.target : Decision → ApprovalStatus
  | approve => .approved
  | reject => .rejected

/-- `decide` once no decision exists and the role allows one. -/
def recordDecision (cfg : Config) (command : ApprovalDecisionCommand) (decisionId : UUID)
    (action : ActionRows) (request : ApprovalRequest) (rows : RunRows) :
    Except StoreError (RunRows × ApprovalDecisionRecord) :=
  if request.status ≠ .pending then .error (.conflict "approval request is not pending")
  else if request.expiresAt ≤ command.now then
    .error (.conflict "approval request has expired")
  else if request.version ≠ command.expectedVersion then
    .error (.conflict "approval request version is stale")
  else if rows.run.status ≠ .waitingApproval then
    .error (.conflict "approval run is not waiting")
  else if rows.job.status ≠ .done then .error (.conflict "approval job is not dormant")
  else match validateExactApprovalBinding cfg.digests action.intent request with
    | .error reason => .error reason
    | .ok () =>
      let decision := decisionOf command request.id decisionId
      let decided := { request with
        status := command.decision.target, version := request.version + 1 }
      let woken := { rows.putAction command.actionIntentId
          { action with request := some decided, decisions := action.decisions ++ [decision] } with
        job := wakeJob rows.job request.id command.now }
      .ok (woken.pushEvent (some command.tenant.actorUserId) .approvalDecided
          [("approval_request_id", .id request.id), ("approval_decision_id", .id decisionId),
            ("action_intent_id", .id action.intent.id),
            ("decision", .str command.decision.value),
            ("request_version", .int (request.version + 1))],
        { decision := decision, actionIntentId := action.intent.id })

/-- `decide` on the rows of the run, by a member with `role`. -/
def decideRows (cfg : Config) (command : ApprovalDecisionCommand) (role : WorkspaceRole)
    (decisionId : UUID) (rows : RunRows) : Except StoreError (RunRows × ApprovalDecisionRecord) :=
  match rows.actions.get command.actionIntentId with
  | none => .error .notFound
  | some action =>
    match action.request with
    | none => .error .notFound
    | some request =>
      match action.decisions.find? fun row => row.actorUserId == command.tenant.actorUserId with
      | some own =>
        if own.decision ≠ command.decision then
          .error (.conflict "approval decision retry conflicts")
        else .ok (rows, { decision := own, actionIntentId := request.actionIntentId })
      | none =>
        if role ≠ .reviewer ∧ role ≠ .admin then
          .error (.conflict "workspace role cannot decide approval")
        else if action.decisions ≠ [] then
          .error (.conflict "approval request was already decided")
        else recordDecision cfg command decisionId action request rows

/-- `decide`. The role is the stored one, whatever the caller's tenant says. -/
def decideApproval (cfg : Config) (command : ApprovalDecisionCommand) (decisionId : UUID) :
    Body ApprovalDecisionRecord :=
  transaction fun db =>
    match (findMembership db.memberships command.tenant.workspaceId
        command.tenant.actorUserId).filter fun row => row.revokedAt.isNone with
    | none => .error .notFound
    | some membership =>
      match db.findApproval command.tenant.workspaceId command.actionIntentId with
      | none => .error .notFound
      | some (runId, rows) =>
        (decideRows cfg command membership.role decisionId rows).map fun decided =>
          (db.putRun runId decided.1, decided.2)

/-! ## Resuming -/

/-- `allowed_decisions`: what may have been decided on a request of each status. -/
def ApprovalStatus.allowedDecisions : ApprovalStatus → List (Option Decision)
  | pending => [none]
  | approved => [some .approve]
  | rejected => [some .reject]
  | consumed => [some .approve]
  | expired => [none, some .approve]

/-- `ApprovalResumeRecord`. -/
structure ApprovalResumeRecord where
  approvalRequest : ApprovalRequest
  actionIntentId : UUID
  decision : Option Decision
  deriving DecidableEq, Repr

/-- `resolve_approval_resume`. -/
def resolveApprovalResume (cfg : Config) (tenant : TenantContext)
    (runId actionIntentId approvalRequestId : UUID) (db : Db) :
    Except StoreError ApprovalResumeRecord :=
  match requireCurrentTenant db.memberships tenant with
  | .error reason => .error reason
  | .ok () =>
    match (db.findApproval tenant.workspaceId actionIntentId).bind fun found =>
        (found.2.actions.get actionIntentId).bind fun action =>
          action.request.map fun request => (action, request) with
    | none => .error .notFound
    | some (action, request) =>
      match validateExactApprovalBinding cfg.digests action.intent request with
      | .error reason => .error reason
      | .ok () =>
        if request.id ≠ approvalRequestId ∨ request.runId ≠ runId then
          .error (.invariant "approval resume identity does not match binding")
        else if 1 < action.decisions.length then
          .error (.invariant "persisted approval has multiple decisions")
        else
          let decision := action.decisions.head?.map ApprovalDecision.decision
          if decision ∉ request.status.allowedDecisions then
            .error (.invariant "persisted approval status and decision disagree")
          else
            .ok { approvalRequest := request, actionIntentId := action.intent.id,
                  decision := decision }

/-! ## Natural expiry -/

/-- `ApprovalExpirySweepSummary`. -/
structure ApprovalExpirySweepSummary where
  scanned : Nat
  expired : Nat
  requeued : Nat
  deriving DecidableEq, Repr

/-- The `WHERE` clause of the sweep. -/
def requestDue (request : ApprovalRequest) (now : Timestamp) : Bool :=
  request.status.open? && request.expiresAt ≤ now

/-- `ORDER BY expires_at, created_at`. -/
def expiryBefore (a b : (UUID × UUID) × ApprovalRequest) : Prop :=
  a.2.expiresAt < b.2.expiresAt ∨
  (a.2.expiresAt = b.2.expiresAt ∧ a.2.createdAt ≤ b.2.createdAt)

instance : DecidableRel expiryBefore := fun a b => by unfold expiryBefore; infer_instance

/-- The due requests of one run, each under its run and its action. -/
def dueRequests (now : Timestamp) (run : UUID × RunRows) :
    List ((UUID × UUID) × ApprovalRequest) :=
  run.2.actions.scan.filterMap fun entry =>
    (entry.2.request.filter fun request => requestDue request now).map fun request =>
      ((run.1, entry.1), request)

/-- The rows a sweep takes, in its order. -/
def selectDueRequests (db : Db) (locked : UUID → Bool) (now : Timestamp) (limit : Nat) :
    List (UUID × UUID) :=
  ((((db.runs.scan.flatMap (dueRequests now)).filter fun entry => !locked entry.2.id)
    |>.insertionSort expiryBefore).take limit).map Prod.fst

/-- What one turn of the sweep did. -/
inductive Swept where
  | skipped | expired | requeued
  deriving DecidableEq, Repr

/-- The job of a run whose open request expires. -/
def wakeExpiredJob (job : RunJob) (requestId : UUID) (now : Timestamp) :
    Except StoreError (RunJob × Swept) :=
  match job.status with
  | .done =>
    .ok ({ job with
      status := .queued, attempt := 0, availableAt := now, errorSummary := none,
      resumeApprovalRequestId := some requestId }, .requeued)
  | .queued =>
    if job.resumeApprovalRequestId ≠ none ∧ job.resumeApprovalRequestId ≠ some requestId then
      .error (.invariant "queued job has a conflicting resume identity")
    else .ok ({ job with resumeApprovalRequestId := some requestId }, .expired)
  | .leased =>
    if job.resumeApprovalRequestId ≠ some requestId then
      .error (.invariant "leased job has a conflicting resume identity")
    else .ok (job, .expired)
  | .dead => .error (.invariant "approval expiry job status is invalid")

/-- One turn of the sweep, on the rows of the run. -/
def sweepRows (actionIntentId : UUID) (now : Timestamp) (rows : RunRows) :
    Except StoreError (RunRows × Swept) :=
  match (rows.actions.get actionIntentId).bind fun action =>
      action.request.map fun request => (action, request) with
  | none => .ok (rows, .skipped)
  | some (action, request) =>
    if rows.run.status ≠ .waitingApproval then .ok (rows, .skipped)
    else match wakeExpiredJob rows.job request.id now with
      | .error reason => .error reason
      | .ok (job, outcome) =>
        let expired := rows.putAction actionIntentId
          { action with request := some { request with
              status := .expired, version := request.version + 1 } }
        .ok ({ expired with job := job }.pushEvent none .approvalExpired
          [("reason", .str "natural_expiry"), ("approval_request_id", .id request.id),
            ("action_intent_id", .id request.actionIntentId)], outcome)

/-- The sweep over the selected requests. -/
def sweepEach (now : Timestamp) : List (UUID × UUID) → Db → Except StoreError (Db × List Swept)
  | [], db => .ok (db, [])
  | (runId, actionIntentId) :: rest, db =>
    match db.runs.get runId with
    | none => .error (.invariant "approval expiry run is missing")
    | some rows =>
      match sweepRows actionIntentId now rows with
      | .error reason => .error reason
      | .ok (rows', outcome) =>
        (sweepEach now rest (db.putRun runId rows')).map fun done => (done.1, outcome :: done.2)

/-- `sweep_due_approval_requests`. -/
def sweepDueApprovalRequests (locked : UUID → Bool) (now : Timestamp) (limit : Nat) :
    Body ApprovalExpirySweepSummary := fun db =>
  if limit < 1 then .error (.value "approval expiry sweep limit must be positive")
  else
    transaction (fun db =>
      let due := selectDueRequests db locked now limit
      (sweepEach now due db).map fun done =>
        (done.1,
          { scanned := due.length
            expired := done.2.count .expired + done.2.count .requeued
            requeued := done.2.count .requeued })) db

end Pathfinder
