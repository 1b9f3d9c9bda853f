import Pathfinder.Db.Models

/-!
# Executing an approved action

`db/action_execution.py`: consuming the approval, the one initial send, and the
recovery of a send whose outcome is not known. None of these transactions asks
for a lease, so a worker that lost its lease still gets its answers here. The
transitions they validate before a write are fixed by the branch and always
allowed.
-/
namespace Pathfinder
open KeyedTable

/-- `PreparedActionExecution`. -/
structure PreparedActionExecution where
  workspaceId : UUID
  originatingActorUserId : UUID
  runId : UUID
  actionIntentId : UUID
  approvalRequestId : UUID
  invocationId : UUID
  toolName : String
  args : SubmitApplicationArgs
  target : TargetSnapshot
  idempotencyKey : UUID
  status : ActionIntentStatus
  recoveryAttempts : Int
  result : Option String
  evidence : Option Payload
  deriving DecidableEq, Repr

/-- `SendAuthorization`. -/
structure SendAuthorization where
  execution : PreparedActionExecution
  allowed : Bool
  errorCategory : Option String
  deriving DecidableEq, Repr

/-- `ReconciliationAuthorization`. -/
structure ReconciliationAuthorization where
  execution : PreparedActionExecution
  recoveryAttempt : Int
  networkAllowed : Bool
  deriving DecidableEq, Repr

/-- `ResendAuthorization`. -/
structure ResendAuthorization where
  execution : PreparedActionExecution
  recoveryAttempt : Int
  allowed : Bool
  errorCategory : Option String
  deriving DecidableEq, Repr

/-- `_prepared`. -/
def prepared (intent : ActionIntent) (request : ApprovalRequest) (invocation : ToolInvocation) :
    Except StoreError PreparedActionExecution :=
  match SubmitApplicationArgs.validate intent.argsSnapshot with
  | none => .error (.invariant "persisted approved action payload is invalid")
  | some args =>
    if intent.targetSnapshot ≠ trustedActionTarget then
      .error (.invariant "persisted approved action payload is invalid")
    else
      .ok { workspaceId := intent.workspaceId,
            originatingActorUserId := intent.originatingActorUserId, runId := intent.runId,
            actionIntentId := intent.id, approvalRequestId := request.id,
            invocationId := invocation.id, toolName := intent.toolName, args := args,
            target := intent.targetSnapshot, idempotencyKey := intent.idempotencyKey,
            status := intent.status, recoveryAttempts := intent.recoveryAttempts,
            result := intent.result, evidence := intent.evidence }

/-- `_append_action_event`. -/
def appendActionEvent (rows : RunRows) (type : RunEventType) (intent : ActionIntent)
    (invocation : ToolInvocation) (errorCategory : Option String) : RunRows :=
  rows.pushEvent none type
    ([("action_intent_id", .id intent.id), ("invocation_id", .id invocation.id),
      ("status", .str intent.status.value), ("recovery_attempts", .int intent.recoveryAttempts)] ++
      errorCategory.toList.map fun category => ("error_category", .str category))

/-! ## Locking -/

/-- `_lock_bound_rows`. -/
def lockBoundRows (cfg : Config) (identity : ActionExecutionIdentity) (rows : RunRows) :
    Except StoreError (ActionRows × ApprovalRequest) :=
  match (rows.actions.get identity.actionIntentId).bind fun action =>
      (action.request.filter fun request => request.id == identity.approvalRequestId).map
        fun request => (action, request) with
  | none => .error .notFound
  | some (action, request) =>
    if rows.run.createdByUserId ≠ action.intent.originatingActorUserId ∨
        rows.run.mode ≠ .application ∨ rows.run.graphVersion ≠ currentGraphVersion then
      .error (.invariant "approved action execution run facts conflict")
    else match validateExactApprovalBinding cfg.digests action.intent request with
      | .error reason => .error reason
      | .ok () => .ok (action, request)

/-- `_validate_invocation`. -/
def validateInvocation (invocation : ToolInvocation) (intent : ActionIntent) :
    Except StoreError Unit :=
  if invocation.workspaceId ≠ intent.workspaceId ∨ invocation.runId ≠ intent.runId ∨
      invocation.originatingActorUserId ≠ intent.originatingActorUserId ∨
      invocation.actionIntentId ≠ intent.id ∨
      invocation.toolName ≠ submitApplicationToolName ∨ invocation.effect ≠ .irreversible ∨
      invocation.argsDigest ≠ intent.argsDigest then
    .error (.invariant "irreversible invocation facts conflict")
  else .ok ()

/-- The rows of an action whose invocation exists. -/
structure LockedInvocation where
  action : ActionRows
  request : ApprovalRequest
  invocation : ToolInvocation

/-- The start every operation after `prepare_execution` shares: lock the rows,
find the invocation (`missing` if there is none) and compare the state of the
three rows (`changed` if it is not `expected`). -/
def lockInvocation (cfg : Config) (identity : ActionExecutionIdentity) (missing changed : String)
    (expected : ActionIntent → ToolInvocation → Bool) (rows : RunRows) :
    Except StoreError LockedInvocation :=
  match lockBoundRows cfg identity rows with
  | .error reason => .error reason
  | .ok (action, request) =>
    match action.invocation with
    | none => .error (.invariant missing)
    | some invocation =>
      match validateInvocation invocation action.intent with
      | .error reason => .error reason
      | .ok () =>
        if request.status ≠ .consumed ∨ !expected action.intent invocation then
          .error (.conflict changed)
        else .ok ⟨action, request, invocation⟩

/-- An operation on the rows of the run its identity names. -/
def onIdentity {α : Type} (identity : ActionExecutionIdentity)
    (f : List WorkspaceMembership → RunRows → Except StoreError (RunRows × α)) : Body α :=
  transaction fun db =>
    onRun identity.workspaceId identity.runId (.error .notFound) (f db.memberships) db

/-- Store the intent and the invocation of an action back. -/
def RunRows.putExecution (rows : RunRows) (identity : ActionExecutionIdentity)
    (action : ActionRows) (intent : ActionIntent) (invocation : ToolInvocation) : RunRows :=
  rows.putAction identity.actionIntentId
    { action with intent := intent, invocation := some invocation }

/-! ## Preparing -/

/-- What `prepare_execution` answers: it commits an expiry or a revocation first
and raises after the commit. -/
abbrev PrepareOutcome := Except StoreError PreparedActionExecution

/-- The invocation row the consumption inserts. -/
def preparedInvocation (intent : ActionIntent) (invocationId : UUID) : ToolInvocation :=
  { id := invocationId, workspaceId := intent.workspaceId,
    originatingActorUserId := intent.originatingActorUserId, runId := intent.runId,
    actionIntentId := intent.id, toolName := intent.toolName, effect := intent.effect,
    argsDigest := intent.argsDigest, status := .prepared, attempt := 0, latencyMs := none,
    resultSummary := none, errorCategory := none, startedAt := none, finishedAt := none }

/-- The first branch of `prepare_execution`: execution has begun before. -/
def prepareBegun (action : ActionRows) (request : ApprovalRequest) :
    Except StoreError PreparedActionExecution :=
  match action.invocation with
  | none => .error (.invariant "irreversible invocation is missing")
  | some invocation =>
    match validateInvocation invocation action.intent with
    | .error reason => .error reason
    | .ok () =>
      if request.status ≠ .consumed ∨
          some invocation.status ≠ action.intent.status.invocationStatus ∨
          invocation.attempt < 1 then
        .error (.invariant "persisted action recovery facts conflict")
      else prepared action.intent request invocation

/-- An invocation that is given up before anything was sent. -/
def abortInvocation (invocation : ToolInvocation) (category : String) (now : Timestamp) :
    ToolInvocation :=
  { invocation with
    status := .failed, latencyMs := some 0, errorCategory := some category,
    finishedAt := some now }

/-- The revoked branch: whatever is still open is closed. -/
def revokeAction (action : ActionRows) (request : ApprovalRequest) (now : Timestamp) :
    Except StoreError ActionRows :=
  let closed : ActionRows := { action with
    request := some (if request.status.open? then
      { request with status := .expired, version := request.version + 1, consumedAt := none }
      else request)
    intent := if action.intent.status.waiting then
      { action.intent with status := .cancelled } else action.intent }
  match action.invocation with
  | none => .ok closed
  | some invocation =>
    match validateInvocation invocation action.intent with
    | .error reason => .error reason
    | .ok () =>
      if invocation.status ≠ .prepared then
        .error (.invariant "revoked action invocation may already have been sent")
      else .ok { closed with
        invocation := some (abortInvocation invocation "aborted_before_send" now) }

/-- The last branch: consume the approval. -/
def consumeApproval (identity : ActionExecutionIdentity) (action : ActionRows)
    (request : ApprovalRequest) (invocationId : UUID) (now : Timestamp) (rows : RunRows) :
    Except StoreError (RunRows × PrepareOutcome) :=
  if request.status ≠ .approved then .error (.conflict "approval request is not executable")
  else if action.intent.status ≠ .proposed then
    .error (.conflict "action intent is not executable")
  else if action.invocation.isSome then
    .error (.invariant "action already has a conflicting invocation")
  else if (action.decisions.filter fun decision => decision.decision = .approve).length ≠ 1 then
    .error (.invariant "approved request decision facts conflict")
  else
    let consumed := { request with
      status := .consumed, consumedAt := some now, version := request.version + 1 }
    let authorized := { action.intent with status := .authorized }
    let invocation := preparedInvocation action.intent invocationId
    match prepared authorized consumed invocation with
    | .error reason => .error reason
    | .ok execution =>
      .ok (rows.putAction identity.actionIntentId
          { action with
            intent := authorized, request := some consumed, invocation := some invocation },
        .ok execution)

/-- `prepare_execution` on the rows of the run. -/
def prepareExecutionRows (cfg : Config) (identity : ActionExecutionIdentity)
    (invocationId : UUID) (now : Timestamp) (memberships : List WorkspaceMembership)
    (rows : RunRows) : Except StoreError (RunRows × PrepareOutcome) :=
  match lockBoundRows cfg identity rows with
  | .error reason => .error reason
  | .ok (action, request) =>
    if action.intent.status.begun then
      (prepareBegun action request).map fun execution => (rows, .ok execution)
    else if !membershipActive memberships identity.workspaceId rows.run.createdByUserId then
      (revokeAction action request now).map fun closed =>
        (rows.putAction identity.actionIntentId closed, .error .notFound)
    else if rows.run.status ≠ .running ∨ rows.run.cancelRequestedAt ≠ none then
      .error (.conflict "run does not authorize action preparation")
    else if request.status = .approved ∧ request.expiresAt ≤ now then
      .ok (rows.putAction identity.actionIntentId
          { action with request := some { request with
              status := .expired, version := request.version + 1, consumedAt := none } },
        .error .actionApprovalExpired)
    else match action.invocation.filter fun _ =>
        request.status = .consumed ∧ action.intent.status = .authorized with
      | some invocation =>
        match validateInvocation invocation action.intent with
        | .error reason => .error reason
        | .ok () =>
          if invocation.status ≠ .prepared ∨ invocation.attempt ≠ 0 then
            .error (.invariant "prepared execution retry facts conflict")
          else (prepared action.intent request invocation).map fun execution =>
            (rows, .ok execution)
      | none => consumeApproval identity action request invocationId now rows

/-- `prepare_execution`. -/
def prepareExecution (cfg : Config) (identity : ActionExecutionIdentity) (invocationId : UUID)
    (now : Timestamp) : Body PrepareOutcome :=
  onIdentity identity (prepareExecutionRows cfg identity invocationId now)

/-! ## Sending -/

/-- `begin_send` on the rows of the run. -/
def beginSendRows (cfg : Config) (identity : ActionExecutionIdentity) (now : Timestamp)
    (memberships : List WorkspaceMembership) (rows : RunRows) :
    Except StoreError (RunRows × SendAuthorization) :=
  match lockInvocation cfg identity "prepared irreversible invocation is missing"
      "pre-send action state changed"
      (fun intent invocation => intent.status == .authorized && invocation.status == .prepared &&
        invocation.attempt == 0) rows with
  | .error reason => .error reason
  | .ok ⟨action, request, invocation⟩ =>
    let active := membershipActive memberships identity.workspaceId rows.run.createdByUserId
    if !active ∨ rows.run.status ≠ .running ∨ rows.run.cancelRequestedAt ≠ none then
      let category := if !active then "aborted_before_send" else "cancelled_before_send"
      let cancelled := { action.intent with status := .cancelled }
      let aborted := abortInvocation invocation category now
      (prepared cancelled request aborted).map fun execution =>
        (rows.putExecution identity action cancelled aborted,
          { execution := execution, allowed := false, errorCategory := some category })
    else
      let executing := { action.intent with status := .executing }
      let started := { invocation with
        status := .executing, attempt := 1, startedAt := some now }
      (prepared executing request started).map fun execution =>
        (appendActionEvent (rows.putExecution identity action executing started)
            .actionStarted executing started none,
          { execution := execution, allowed := true, errorCategory := none })

/-- `begin_send`. -/
def beginSend (cfg : Config) (identity : ActionExecutionIdentity) (now : Timestamp) :
    Body SendAuthorization :=
  onIdentity identity (beginSendRows cfg identity now)

/-! ## Recovering -/

/-- `_mark_failed`. -/
def markFailed (identity : ActionExecutionIdentity) (locked : LockedInvocation)
    (errorCategory : String) (evidence : Payload) (latencyMs : Int) (now : Timestamp)
    (rows : RunRows) : LockedInvocation × RunRows :=
  let intent := { locked.action.intent with
    status := .failed, result := none, evidence := some evidence }
  let invocation := { locked.invocation with
    status := .failed, latencyMs := some latencyMs, resultSummary := none,
    errorCategory := some errorCategory, finishedAt := some now }
  ({ locked with action := { locked.action with intent := intent }, invocation := invocation },
    appendActionEvent (rows.putExecution identity locked.action intent invocation)
      .actionFailed intent invocation (some errorCategory))

/-- `_mark_unknown`. -/
def markUnknown (identity : ActionExecutionIdentity) (locked : LockedInvocation)
    (evidence : Payload) (latencyMs : Int) (now : Timestamp) (rows : RunRows) :
    LockedInvocation × RunRows :=
  let intent := { locked.action.intent with
    status := .outcomeUnknown, result := none, evidence := some evidence }
  let invocation := { locked.invocation with
    status := .outcomeUnknown, latencyMs := some latencyMs, resultSummary := none,
    errorCategory := some "external_outcome_unknown", finishedAt := some now }
  ({ locked with action := { locked.action with intent := intent }, invocation := invocation },
    appendActionEvent (rows.putExecution identity locked.action intent invocation)
      .actionOutcomeUnknown intent invocation (some "external_outcome_unknown"))

/-- `_prepared` of a locked action. -/
def LockedInvocation.prepared (locked : LockedInvocation) :
    Except StoreError PreparedActionExecution :=
  Pathfinder.prepared locked.action.intent locked.request locked.invocation

/-- The action and its invocation are both executing. -/
def bothExecuting (intent : ActionIntent) (invocation : ToolInvocation) : Bool :=
  intent.status == .executing && invocation.status == .executing

/-- The message of the five operations that follow a send. -/
def executingMissing : String := "executing irreversible invocation is missing"

/-- `begin_reconciliation` on the rows of the run. -/
def beginReconciliationRows (cfg : Config) (identity : ActionExecutionIdentity)
    (maxAttempts : Int) (now : Timestamp) (rows : RunRows) :
    Except StoreError (RunRows × ReconciliationAuthorization) :=
  match lockInvocation cfg identity executingMissing "action is not reconcilable"
      (fun intent invocation => bothExecuting intent invocation && 1 ≤ invocation.attempt) rows with
  | .error reason => .error reason
  | .ok locked =>
    let intent := locked.action.intent
    if maxAttempts ≤ intent.recoveryAttempts then
      let (ended, after) := markUnknown identity locked
        [("classification", .str "recovery_exhausted")] 0 now rows
      ended.prepared.map fun execution =>
        (after, { execution := execution, recoveryAttempt := intent.recoveryAttempts,
                  networkAllowed := false })
    else
      let recovering := { intent with recoveryAttempts := intent.recoveryAttempts + 1 }
      (prepared recovering locked.request locked.invocation).map fun execution =>
        (rows.putExecution identity locked.action recovering locked.invocation,
          { execution := execution, recoveryAttempt := recovering.recoveryAttempts,
            networkAllowed := true })

/-- `begin_reconciliation`. -/
def beginReconciliation (cfg : Config) (identity : ActionExecutionIdentity) (maxAttempts : Int)
    (now : Timestamp) : Body ReconciliationAuthorization := fun db =>
  if maxAttempts < 1 then .error (.value "action reconciliation input is invalid")
  else
    onIdentity identity (fun _ => beginReconciliationRows cfg identity maxAttempts now) db

/-- Why `authorize_resend` refuses, if it does. -/
def resendRefusal (memberships : List WorkspaceMembership) (identity : ActionExecutionIdentity)
    (run : Run) : Option String :=
  if !membershipActive memberships identity.workspaceId run.createdByUserId then
    some "authorization_revoked"
  else if run.cancelRequestedAt ≠ none ∨ run.status ≠ .running then
    some "cancelled_confirmed_absent"
  else none

/-- `authorize_resend` on the rows of the run. -/
def authorizeResendRows (cfg : Config) (identity : ActionExecutionIdentity)
    (expectedRecoveryAttempt : Int) (now : Timestamp) (memberships : List WorkspaceMembership)
    (rows : RunRows) : Except StoreError (RunRows × ResendAuthorization) :=
  match lockInvocation cfg identity executingMissing "recovery resend state changed"
      (fun intent invocation => bothExecuting intent invocation &&
        intent.recoveryAttempts == expectedRecoveryAttempt) rows with
  | .error reason => .error reason
  | .ok locked =>
    match resendRefusal memberships identity rows.run with
    | some category =>
      let (ended, after) := markFailed identity locked category
        [("classification", .str "confirmed_absent"), ("reason", .str category),
          ("recovery_attempt", .int expectedRecoveryAttempt)] 0 now rows
      ended.prepared.map fun execution =>
        (after, { execution := execution, recoveryAttempt := expectedRecoveryAttempt,
                  allowed := false, errorCategory := some category })
    | none =>
      let resent := { locked.invocation with attempt := locked.invocation.attempt + 1 }
      (prepared locked.action.intent locked.request resent).map fun execution =>
        (rows.putExecution identity locked.action locked.action.intent resent,
          { execution := execution, recoveryAttempt := expectedRecoveryAttempt,
            allowed := true, errorCategory := none })

/-- `authorize_resend`. -/
def authorizeResend (cfg : Config) (identity : ActionExecutionIdentity)
    (expectedRecoveryAttempt : Int) (now : Timestamp) : Body ResendAuthorization := fun db =>
  if expectedRecoveryAttempt < 1 then
    .error (.value "recovery resend authorization input is invalid")
  else
    onIdentity identity (authorizeResendRows cfg identity expectedRecoveryAttempt now) db

/-! ## Confirming -/

/-- The evidence of a confirmed success. -/
def successEvidence (intent : ActionIntent) (result : ConfirmedActionResult) : Payload :=
  [("classification", .str "confirmed_success"), ("idempotency_key", .id intent.idempotencyKey)] ++
    match result.digestAndSource with
    | some (digest, source) => [("payload_digest", .str digest), ("source", .str source.value)]
    | none => []

/-- `confirm_success` on the rows of the run. -/
def confirmSuccessRows (cfg : Config) (identity : ActionExecutionIdentity)
    (result : ConfirmedActionResult) (latencyMs : Int) (now : Timestamp) (rows : RunRows) :
    Except StoreError (RunRows × Unit) :=
  match lockInvocation cfg identity executingMissing "confirmed action state changed"
      (fun intent invocation => bothExecuting intent invocation && 1 ≤ invocation.attempt) rows with
  | .error reason => .error reason
  | .ok locked =>
    let intent := { locked.action.intent with
      status := .succeeded, result := some result.externalRef,
      evidence := some (successEvidence locked.action.intent result) }
    let invocation := { locked.invocation with
      status := .succeeded, latencyMs := some latencyMs,
      resultSummary := some result.externalRef, finishedAt := some now }
    .ok (appendActionEvent (rows.putExecution identity locked.action intent invocation)
      .actionCompleted intent invocation none, ())

/-- `confirm_success`. -/
def confirmSuccess (cfg : Config) (identity : ActionExecutionIdentity)
    (result : ConfirmedActionResult) (latencyMs : Int) (now : Timestamp) : Body Unit := fun db =>
  if latencyMs < 0 then .error (.value "confirmed action result input is invalid")
  else onIdentity identity (fun _ => confirmSuccessRows cfg identity result latencyMs now) db

/-- `confirm_failure` on the rows of the run. -/
def confirmFailureRows (cfg : Config) (identity : ActionExecutionIdentity)
    (errorCategory : String) (evidence : Payload) (latencyMs : Int) (now : Timestamp)
    (rows : RunRows) : Except StoreError (RunRows × Unit) :=
  (lockInvocation cfg identity executingMissing "confirmed action failure state changed"
    bothExecuting rows).map fun locked =>
      ((markFailed identity locked errorCategory evidence latencyMs now rows).2, ())

/-- `confirm_failure`. -/
def confirmFailure (cfg : Config) (identity : ActionExecutionIdentity) (errorCategory : String)
    (evidence : Payload) (latencyMs : Int) (now : Timestamp) : Body Unit := fun db =>
  if errorCategory = "" ∨ latencyMs < 0 then
    .error (.value "confirmed action failure input is invalid")
  else
    onIdentity identity
      (fun _ => confirmFailureRows cfg identity errorCategory evidence latencyMs now) db

/-- `confirm_outcome_unknown` on the rows of the run. -/
def confirmOutcomeUnknownRows (cfg : Config) (identity : ActionExecutionIdentity)
    (evidence : Payload) (latencyMs : Int) (now : Timestamp) (rows : RunRows) :
    Except StoreError (RunRows × Unit) :=
  (lockInvocation cfg identity executingMissing "unknown action outcome state changed"
    bothExecuting rows).map fun locked =>
      ((markUnknown identity locked evidence latencyMs now rows).2, ())

/-- `confirm_outcome_unknown`. -/
def confirmOutcomeUnknown (cfg : Config) (identity : ActionExecutionIdentity)
    (evidence : Payload) (latencyMs : Int) (now : Timestamp) : Body Unit := fun db =>
  if latencyMs < 0 then .error (.value "unknown action outcome input is invalid")
  else
    onIdentity identity (fun _ => confirmOutcomeUnknownRows cfg identity evidence latencyMs now) db

end Pathfinder
