import Pathfinder.System
import Pathfinder.Domain.CanonicalJson
import Pathfinder.Tools.MockPortal
import Pathfinder.Tools.Registry

/-!
# Executing approved actions

`execute_approved_action` of `tools/registry.py` with its recovery, cut where it
awaits: at a transaction of the store, and where a request to the portal leaves and
where its response arrives. What an executor knows at such a point is its phase; one
that is cancelled or killed there stays there, or stops. Tracing has no effect on it
and is left out, as are the checks of the registry's own configuration.
-/
namespace Pathfinder
open KeyedTable Machines

/-- What `execute_approved_action` raises. -/
inductive ApprovedActionFailure where
  | tool (failure : ToolFailure)
  /-- The `ValidationError` of the output model, which nothing catches. -/
  | validation
  | store (reason : StoreError)
  | executionFailed
  | outcomeUnknown
  | resultUnconfirmed
  | stopped
  deriving DecidableEq

/-! ## What is sent and what is returned -/

/-- The request an execution stands for; `_approved_payload_digest` is its digest. -/
def approvedRequest (execution : PreparedActionExecution) : MockSubmissionRequest :=
  { workspaceId := execution.workspaceId
    originatingActorUserId := execution.originatingActorUserId
    runId := execution.runId
    actionIntentId := execution.actionIntentId
    payload := execution.args }

/-- A POST an executor is about to make. -/
structure Posting where
  request : MockSubmissionRequest
  idempotencyKey : UUID
  /-- The execution whose digest is confirmed. -/
  execution : PreparedActionExecution
  /-- The recovery attempt that resends, none for the initial send. -/
  recoveryAttempt : Option Int

/-- The call of `SubmitMockApplicationHandler`, which makes its key from the context. -/
def initialPosting (prepared execution : PreparedActionExecution) : Posting :=
  { request := approvedRequest prepared
    idempotencyKey := prepared.actionIntentId
    execution := execution
    recoveryAttempt := none }

def resendPosting (execution : PreparedActionExecution) (recoveryAttempt : Int) : Posting :=
  { request := approvedRequest execution
    idempotencyKey := execution.idempotencyKey
    execution := execution
    recoveryAttempt := some recoveryAttempt }

/-- `SubmitMockApplicationOutput` accepts the reference. -/
def validExternalRef (externalRef : String) : Bool :=
  1 ≤ externalRef.length && externalRef.length ≤ 200

/-- `_normalize_output` of a `SubmitMockApplicationOutput`. -/
def normalizeExternalRef (externalRef : String) : Except ToolFailure Text :=
  let text := dumps (.dict [("external_ref", .str externalRef)])
  if 1000 < utf8Length text then
    .error (.outputTooLarge "tool output exceeded its byte limit")
  else .ok text

/-- What is returned with this reference. -/
def returnedRef (externalRef : String) : Except ApprovedActionFailure Text :=
  if validExternalRef externalRef then (normalizeExternalRef externalRef).mapError .tool
  else .error .validation

/-! ## Phases -/

inductive ExecutorPhase where
  /-- In front of `prepare_execution`. -/
  | preparing
  /-- In front of `begin_send`. -/
  | sending (prepared : PreparedActionExecution)
  /-- In front of `begin_reconciliation`. -/
  | recovering
  /-- In front of the GET. -/
  | inquiring (authorization : ReconciliationAuthorization)
  | querying (authorization : ReconciliationAuthorization) (message : Nat)
  /-- In front of `confirm_outcome_unknown`. -/
  | unanswered (evidence : Payload)
  /-- In front of `authorize_resend`. -/
  | absent (authorization : ReconciliationAuthorization)
  /-- In front of the POST. -/
  | posting (posting : Posting)
  | posted (posting : Posting) (message : Nat)
  /-- In front of `confirm_failure`. -/
  | rejected (posting : Posting)
  /-- In front of `confirm_success`, and what is returned behind it. -/
  | confirming (result : ConfirmedActionResult) (returned : Except ApprovedActionFailure Text)
  | ended (outcome : Except ApprovedActionFailure Text)

structure Executor where
  identity : ActionExecutionIdentity
  phase : ExecutorPhase

/-- What a store operation is called with besides the identity. -/
structure CallInputs where
  invocationId : UUID
  latencyMs : Nat
  now : Timestamp

namespace ExecutorPhase

/-- The transaction the executor is in front of. -/
def op (identity : ActionExecutionIdentity) (inputs : CallInputs) : ExecutorPhase → Option Op
  | preparing => some (.prepareExecution identity inputs.invocationId inputs.now)
  | sending _ => some (.beginSend identity inputs.now)
  | recovering => some (.beginReconciliation identity inputs.now)
  | absent authorization =>
    some (.authorizeResend identity authorization.recoveryAttempt inputs.now)
  | unanswered evidence =>
    some (.confirmOutcomeUnknown identity evidence inputs.latencyMs inputs.now)
  | rejected refused =>
    some (.confirmFailure identity "external_rejected_no_effect"
      ([("classification", .str "explicit_no_effect_rejection")] ++
        refused.recoveryAttempt.toList.map fun attempt => ("recovery_attempt", .int attempt))
      inputs.latencyMs inputs.now)
  | confirming result _ => some (.confirmSuccess identity result inputs.latencyMs inputs.now)
  | inquiring _ | querying .. | posting _ | posted .. | ended _ => none

/-- Behind `prepare_execution`. -/
def prepared (execution : PreparedActionExecution) : ExecutorPhase :=
  match execution.status with
  | .succeeded =>
    ended (match execution.result with
      | none => .error (.tool (.execution "persisted successful action result is invalid"))
      | some externalRef =>
        if externalRef = "" then
          .error (.tool (.execution "persisted successful action result is invalid"))
        else returnedRef externalRef)
  | .failed => ended (.error .executionFailed)
  | .outcomeUnknown => ended (.error .outcomeUnknown)
  | .executing => recovering
  | .proposed | .authorized | .cancelled => sending execution

/-- The facts compared in front of the initial send. -/
def sameFacts (first second : PreparedActionExecution) : Bool :=
  first.workspaceId == second.workspaceId &&
  first.originatingActorUserId == second.originatingActorUserId &&
  first.runId == second.runId &&
  first.actionIntentId == second.actionIntentId &&
  first.approvalRequestId == second.approvalRequestId &&
  first.invocationId == second.invocationId &&
  first.toolName == second.toolName &&
  first.args == second.args &&
  first.target == second.target &&
  first.idempotencyKey == second.idempotencyKey

/-- Behind `begin_send`. -/
def permitted (prepared : PreparedActionExecution) (authorization : SendAuthorization) :
    ExecutorPhase :=
  if !authorization.allowed then
    ended (.error (.tool (.toolCancelled
      "approved action was cancelled or authorization was revoked before send")))
  else if !sameFacts authorization.execution prepared then
    ended (.error (.tool (.execution "approved action execution facts changed before send")))
  else posting (initialPosting prepared authorization.execution)

/-- Behind a transaction. An operation answers in its own kind only. -/
def answered : ExecutorPhase → Except StoreError Reply → ExecutorPhase
  | preparing, .ok (.execution (.ok execution)) => prepared execution
  | preparing, .ok (.execution (.error reason)) => ended (.error (.store reason))
  | sending execution, .ok (.send authorization) => permitted execution authorization
  | recovering, .ok (.reconciliation authorization) =>
    if authorization.networkAllowed then inquiring authorization
    else ended (.error .outcomeUnknown)
  | absent authorization, .ok (.resend resend) =>
    if resend.allowed then
      posting (resendPosting resend.execution authorization.recoveryAttempt)
    else ended (.error .executionFailed)
  | unanswered _, .ok _ => ended (.error .outcomeUnknown)
  | rejected _, .ok _ => ended (.error .executionFailed)
  | confirming _ returned, .ok _ => ended returned
  -- the database error may come behind a commit: recovery has to look
  | confirming _ _, .error _ => ended (.error .resultUnconfirmed)
  | _, .error reason => ended (.error (.store reason))
  | _, .ok _ => ended (.error .stopped)

/-- The POST was accepted with this reference. -/
def accepted (digests : Digests) (sent : Posting) (externalRef : String) : ExecutorPhase :=
  let digest := digests.submission (approvedRequest sent.execution)
  match sent.recoveryAttempt with
  | some _ =>
    confirming ⟨externalRef, some (digest, .recoveryResend)⟩ (returnedRef externalRef)
  | none =>
    -- the handler builds its output inside the `try`
    if !validExternalRef externalRef then ended (.error .resultUnconfirmed)
    else match normalizeExternalRef externalRef with
      | .ok text => confirming ⟨externalRef, some (digest, .initialResponse)⟩ (.ok text)
      | .error failure => ended (.error (.tool failure))

/-- A response arrives, or none where the client raises or the time is up. -/
def received (digests : Digests) : ExecutorPhase → Option PortalResponse → ExecutorPhase
  | posted sent _, response =>
    match readSubmitted digests sent.request sent.idempotencyKey response with
    | .ok externalRef => accepted digests sent externalRef
    | .error .rejected => rejected sent
    | .error .transport | .error .conflict => ended (.error .resultUnconfirmed)
  | querying authorization _, response =>
    match readFound digests (approvedRequest authorization.execution)
        authorization.execution.idempotencyKey response with
    | .ok (some evidence) =>
      confirming ⟨evidence.externalRef, some (evidence.payloadDigest, .reconciliationQuery)⟩
        (returnedRef evidence.externalRef)
    | .ok none => absent authorization
    | .error _ =>
      unanswered [("classification", .str "reconciliation_query_unavailable_or_contradictory"),
        ("recovery_attempt", .int authorization.recoveryAttempt)]
  | phase, _ => phase

/-- The deadline has passed where it is read. -/
def late : ExecutorPhase → ExecutorPhase
  | preparing =>
    ended (.error (.tool (.deadlineExceeded "approved action deadline has expired")))
  | inquiring _ => unanswered [("classification", .str "reconciliation_deadline_unavailable")]
  | posting ready =>
    if ready.recoveryAttempt.isSome then ended (.error .resultUnconfirmed)
    else ended (.error (.tool (.deadlineExceeded
      "approved action deadline expired before HTTP send")))
  | phase => phase

/-- The message whose response the executor waits for. -/
def awaits : ExecutorPhase → Option Nat
  | querying _ message | posted _ message => some message
  | _ => none

end ExecutorPhase

/-! ## Executors beside the stores and the portal -/

inductive PortalMessage where
  | post (request : MockSubmissionRequest) (idempotencyKey : UUID)
  | get (idempotencyKey : UUID)

/-- A message that has been sent stays in `messages`: it may be delivered at any
later time, more than once or never, and so may a response of `responses`. -/
structure Deployment where
  world : World
  submissions : MockSubmissions
  messages : List PortalMessage
  responses : List (Nat × PortalResponse)
  executors : List Executor

/-- What happens next. The operations of the action execution store are called by
executors only. -/
inductive ActionEvent where
  | store (op : Op)
  | start (identity : ActionExecutionIdentity)
  | call (executor : Nat) (inputs : CallInputs)
  | send (executor : Nat)
  | deliver (message : Nat) (facts : InsertedFacts)
  | receive (executor response : Nat)
  | lose (executor : Nat)
  | late (executor : Nat)
  | stop (executor : Nat)

/-- What an executor does to the world outside. -/
inductive Happening where
  | served (op : Op) (answer : Except StoreError Reply)
  | posted (posting : Posting)
  | queried (authorization : ReconciliationAuthorization)

/-- The operations of `ActionExecutionStore`. -/
def Op.executes : Op → Bool
  | prepareExecution .. | beginSend .. | beginReconciliation .. | authorizeResend ..
  | confirmSuccess .. | confirmFailure .. | confirmOutcomeUnknown .. => true
  | _ => false

namespace Deployment

/-- One executor goes on. -/
def enter (deployment : Deployment) (i : Nat) (executor : Executor) (phase : ExecutorPhase) :
    Deployment :=
  { deployment with executors := deployment.executors.set i { executor with phase := phase } }

/-- A message leaves. -/
def post (deployment : Deployment) (message : PortalMessage) : Deployment :=
  { deployment with messages := deployment.messages ++ [message] }

/-- A step of one executor. -/
def step (cfg : Config) (deployment : Deployment) (i : Nat) (executor : Executor) :
    ActionEvent → Deployment × Option Happening
  | .call _ inputs =>
    match executor.phase.op executor.identity inputs with
    | none => (deployment, none)
    | some op =>
      let (world, answer) := serve cfg deployment.world op
      (({ deployment with world := world }).enter i executor (executor.phase.answered answer),
        some (.served op answer))
  | .send _ =>
    match executor.phase with
    | .posting posting =>
      ((deployment.post (.post posting.request posting.idempotencyKey)).enter i executor
          (.posted posting deployment.messages.length), some (.posted posting))
    | .inquiring authorization =>
      ((deployment.post (.get authorization.execution.idempotencyKey)).enter i executor
          (.querying authorization deployment.messages.length), some (.queried authorization))
    | _ => (deployment, none)
  | .receive _ response =>
    match deployment.responses[response]? with
    | none => (deployment, none)
    | some (message, response) =>
      if executor.phase.awaits = some message then
        (deployment.enter i executor (executor.phase.received cfg.digests (some response)), none)
      else (deployment, none)
  | .lose _ => (deployment.enter i executor (executor.phase.received cfg.digests none), none)
  | .late _ => (deployment.enter i executor executor.phase.late, none)
  | .stop _ => (deployment.enter i executor (.ended (.error .stopped)), none)
  | .store _ | .start _ | .deliver .. => (deployment, none)

/-- The portal serves a message. -/
def deliver (cfg : Config) (deployment : Deployment) (message : Nat) (facts : InsertedFacts) :
    Deployment :=
  match deployment.messages[message]? with
  | none => deployment
  | some (.get idempotencyKey) =>
    { deployment with
      responses := deployment.responses ++
        [(message, getMockApplication deployment.submissions idempotencyKey)] }
  | some (.post request idempotencyKey) =>
    let (submissions, response) :=
      submitMockApplication cfg.digests deployment.submissions request idempotencyKey facts
    { deployment with
      submissions := submissions, responses := deployment.responses ++ [(message, response)] }

end Deployment

/-- The executor an event is a step of. -/
def ActionEvent.executor : ActionEvent → Option Nat
  | .call i _ | .send i | .receive i _ | .lose i | .late i | .stop i => some i
  | .store _ | .start _ | .deliver .. => none

/-- One event. The answer names the executor that has done something. -/
def actionStep (cfg : Config) (deployment : Deployment) (event : ActionEvent) :
    Deployment × Option (Nat × Happening) :=
  match event.executor with
  | some i =>
    match deployment.executors[i]? with
    | none => (deployment, none)
    | some executor =>
      let (after, happened) := deployment.step cfg i executor event
      (after, happened.map fun happening => (i, happening))
  | none =>
    match event with
    | .store op =>
      if op.executes then (deployment, none)
      else ({ deployment with world := (serve cfg deployment.world op).1 }, none)
    | .start identity =>
      ({ deployment with executors := deployment.executors ++ [⟨identity, .preparing⟩] }, none)
    | .deliver message facts => (deployment.deliver cfg message facts, none)
    | _ => (deployment, none)

/-- Executors, stores and portal together. -/
def actionExecutors (cfg : Config) :
    Machine Deployment ActionEvent (Option (Nat × Happening)) where
  start :=
    { world := (stores cfg).start, submissions := Table.empty, messages := [], responses := [],
      executors := [] }
  step := actionStep cfg

/-! ## What an event can do -/

/-- One event from `before`, with what it tells. -/
inductive ActionMoves (cfg : Config) (before : Deployment) :
    Option (Nat × Happening) → Deployment → Prop
  | still : ActionMoves cfg before none before
  | store (op : Op) (plain : op.executes = false) :
      ActionMoves cfg before none { before with world := (serve cfg before.world op).1 }
  | start (identity : ActionExecutionIdentity) :
      ActionMoves cfg before none
        { before with executors := before.executors ++ [⟨identity, .preparing⟩] }
  | deliver (message : Nat) (facts : InsertedFacts) :
      ActionMoves cfg before none (before.deliver cfg message facts)
  | call (i : Nat) {executor : Executor} (found : before.executors[i]? = some executor)
      (inputs : CallInputs) (op : Op)
      (asked : executor.phase.op executor.identity inputs = some op) :
      ActionMoves cfg before (some (i, .served op (serve cfg before.world op).2))
        (({ before with world := (serve cfg before.world op).1 } : Deployment).enter i executor
          (executor.phase.answered (serve cfg before.world op).2))
  | post (i : Nat) {executor : Executor} (found : before.executors[i]? = some executor)
      (ready : Posting) (here : executor.phase = .posting ready) :
      ActionMoves cfg before (some (i, .posted ready))
        ((before.post (.post ready.request ready.idempotencyKey)).enter i executor
          (.posted ready before.messages.length))
  | query (i : Nat) {executor : Executor} (found : before.executors[i]? = some executor)
      (authorization : ReconciliationAuthorization)
      (here : executor.phase = .inquiring authorization) :
      ActionMoves cfg before (some (i, .queried authorization))
        ((before.post (.get authorization.execution.idempotencyKey)).enter i executor
          (.querying authorization before.messages.length))
  | receive (i : Nat) {executor : Executor} (found : before.executors[i]? = some executor)
      (message : Nat) (response : PortalResponse) (arrived : (message, response) ∈ before.responses)
      (awaited : executor.phase.awaits = some message) :
      ActionMoves cfg before none
        (before.enter i executor (executor.phase.received cfg.digests (some response)))
  | lose (i : Nat) {executor : Executor} (found : before.executors[i]? = some executor) :
      ActionMoves cfg before none
        (before.enter i executor (executor.phase.received cfg.digests none))
  | late (i : Nat) {executor : Executor} (found : before.executors[i]? = some executor) :
      ActionMoves cfg before none (before.enter i executor executor.phase.late)
  | stop (i : Nat) {executor : Executor} (found : before.executors[i]? = some executor) :
      ActionMoves cfg before none (before.enter i executor (.ended (.error .stopped)))

variable (cfg : Config) in
theorem actionStep_moves (before : Deployment) (event : ActionEvent) :
    ActionMoves cfg before (actionStep cfg before event).2 (actionStep cfg before event).1 := by
  unfold actionStep
  split
  next i _ =>
    split
    · exact .still
    next executor found =>
      unfold Deployment.step
      cases event with
      | call _ inputs =>
        dsimp only
        split
        · exact .still
        next op asked => exact .call i found inputs op asked
      | send _ =>
        dsimp only
        split
        next ready here => exact .post i found ready here
        next authorization here => exact .query i found authorization here
        · exact .still
      | receive _ response =>
        dsimp only
        split
        · exact .still
        next message response there =>
          split
          next awaited =>
            exact .receive i found message response (List.mem_of_getElem? there) awaited
          · exact .still
      | lose _ => exact .lose i found
      | late _ => exact .late i found
      | stop _ => exact .stop i found
      | store | start | deliver => exact .still
  · split
    next op _ =>
      split
      · exact .still
      next plain => exact .store op (eq_false_of_ne_true plain)
    next identity _ => exact .start identity
    next message facts _ => exact .deliver message facts
    · exact .still

end Pathfinder
