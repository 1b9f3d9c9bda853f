import Pathfinder.Library.Machine
import Pathfinder.Tools.Invocations

/-!
# Bound tool runtimes

`_BoundToolRuntime.execute` of `tools/registry.py`, cut where it awaits: reserving a
call, starting an attempt and calling the handler, and what follows the end of the
handler's await. Any number of executions of one run interleave at these points.
Tracing has no effect on them and is left out.
-/
namespace Pathfinder
open KeyedTable Machines

variable {J O : Type}

/-- The errors `execute` raises. `escaped` is an exception that no clause handles. -/
inductive ToolFailure where
  | cancelled
  | toolCancelled (message : String)
  | deadlineExceeded (message : String)
  | timeout (message : String)
  | unavailable (message : String)
  | execution (message : String)
  | outputValidation (message : String)
  | outputTooLarge (message : String)
  | configuration (message : String)
  | callLimitExceeded (message : String)
  | notAllowed (message : String)
  | inputValidation (message : String)
  | recorder
  | escaped
  deriving DecidableEq, Repr

/-- The error category by which `_observe_tool` reports what `execute` raised. -/
def ToolFailure.category : ToolFailure → Option String
  | cancelled | toolCancelled _ => some "cancelled"
  | deadlineExceeded _ => some "deadline_exceeded"
  | timeout _ => some "provider_timeout"
  | unavailable _ => some "provider_unavailable"
  | outputValidation _ | outputTooLarge _ => some "invalid_tool_output"
  | execution _ | configuration _ | callLimitExceeded _ | notAllowed _ | inputValidation _
  | recorder => some "tool_execution_failed"
  | escaped => none

/-! ## Contracts -/

/-- How `model_validate`, `model_dump` and `json.dumps` fail: with a `TypeError`, a
`ValueError` or a `ValidationError`, or with something else. -/
inductive SerializeError where
  | invalid | other
  deriving DecidableEq, Repr

/-- `ToolSpec` as `_validate_spec` accepts it. The input and the output model are given
by what the registry does with them. -/
structure ToolSpec (J O : Type) where
  name : String
  effect : ToolEffect
  timeoutSeconds : ℚ
  maxAttempts : Nat
  perRunCallLimit : Nat
  maxOutputBytes : Nat
  validInput : List (String × J) → Bool
  serialize : O → Except SerializeError CodePoints
  positive : 0 < timeoutSeconds ∧ 1 ≤ maxAttempts ∧ 1 ≤ perRunCallLimit ∧ 1 ≤ maxOutputBytes
  retries : 1 < maxAttempts → effect = .readOnly

/-- `GraphToolPolicy`. -/
structure GraphToolPolicy where
  allowedToolNames : List String
  allowedEffects : List ToolEffect

/-- `ToolRunContext`, as far as the registry reads it, with the policy it is bound to. -/
structure ToolRunContext where
  actorUserId : UUID
  deadline : ℚ
  policy : GraphToolPolicy

/-- `ModelToolCall`. -/
structure ModelToolCall (J : Type) where
  name : String
  arguments : List (String × J)

/-- The registry of a deployment: its specs by name, and the digests of arguments and of
outputs; arguments that cannot be encoded have none. -/
structure ToolRegistry (J O : Type) where
  specs : String → Option (ToolSpec J O)
  named : ∀ name spec, specs name = some spec → spec.name = name
  argsDigest : List (String × J) → Option String
  outputDigest : CodePoints → String

def reservedInputFields : List String :=
  ["workspace_id", "actor_user_id", "run_id", "document_id", "document_ids", "embedding_profile",
    "top_k", "context_budget", "role", "invocation_id", "action_intent_id",
    "approval_request_id", "target", "trusted_target", "credential", "credentials",
    "credential_source", "deadline", "budget", "cancellation"]

/-- `_validated_call`. -/
def validatedCall (registry : ToolRegistry J O) (policy : GraphToolPolicy)
    (call : ModelToolCall J) : Except ToolFailure (ToolSpec J O) :=
  if call.name ∉ policy.allowedToolNames then
    .error (.notAllowed "tool is not allowed for the current graph")
  else match registry.specs call.name with
  | none => .error .escaped
  | some spec =>
    if spec.effect ∉ policy.allowedEffects then
      .error (.notAllowed "tool effect is not allowed for the current graph")
    else if call.arguments.any fun argument => decide (argument.1 ∈ reservedInputFields) then
      .error (.inputValidation "tool call contains a reserved execution field")
    else if !spec.validInput call.arguments then
      .error (.inputValidation "tool call arguments failed validation")
    else .ok spec

inductive NormalizeError where
  | registry (failure : ToolFailure)
  | other

/-- `_normalize_output`: encoding stands outside its `try`. -/
def normalizeOutput (spec : ToolSpec J O) (output : O) : Except NormalizeError CodePoints :=
  match spec.serialize output with
  | .error .invalid => .error (.registry (.outputValidation "tool output failed validation"))
  | .error .other => .error .other
  | .ok text =>
    match encodedLength text with
    | none => .error .other
    | some bytes =>
      if spec.maxOutputBytes < bytes then
        .error (.registry (.outputTooLarge "tool output exceeded its byte limit"))
      else .ok text

/-- `output_summary`; a text that has been normalized can be encoded. -/
def outputSummary (registry : ToolRegistry J O) (text : CodePoints) : OutputSummary :=
  ⟨registry.outputDigest text, (encodedLength text).getD 0⟩

/-! ## Cancellation and clock -/

/-- `_clock_value`; no reading where the clock raises. -/
def toolClockValue : Option ℚ → Except ToolFailure ℚ
  | none => .error (.configuration "monotonic clock failed")
  | some value => .ok value

/-- `_remaining_time`. -/
def remainingTime (deadline : ℚ) (reading : Option ℚ) : Except ToolFailure ℚ :=
  match toolClockValue reading with
  | .error failure => .error failure
  | .ok now =>
    if deadline - now ≤ 0 then
      .error (.deadlineExceeded "tool execution deadline has expired")
    else .ok (deadline - now)

/-- `_raise_if_cancelled`; no answer where the check raises. -/
def raiseIfCancelled : Option Bool → Except ToolFailure Unit
  | none => .error (.configuration "tool cancellation check failed")
  | some true => .error (.toolCancelled "tool execution was cancelled before send")
  | some false => .ok ()

/-- `_elapsed_ms`. -/
def toolElapsedMs (reading : Option ℚ) (startedAt : ℚ) : Except ToolFailure Nat :=
  match toolClockValue reading with
  | .error failure => .error failure
  | .ok now =>
    if now - startedAt < 0 then .error (.configuration "monotonic clock moved backwards")
    else .ok (roundHalfEven ((now - startedAt) * 1000)).toNat

/-! ## Executions -/

inductive ExecutionPhase where
  | looping (attempt : Nat)
  | handling (attempt : Nat) (deadlineLimitsAttempt : Bool)
  | ended (result : Except ToolFailure CodePoints)

/-- One call of `execute` behind its reservation. -/
structure ToolExecution (J O : Type) where
  context : ToolRunContext
  spec : ToolSpec J O
  reservation : ToolInvocationReservation
  startedAt : ℚ
  phase : ExecutionPhase

structure ToolWorld (J O : Type) where
  ledger : ToolLedger
  executions : Table UUID (ToolExecution J O)

/-- What is raised in the `try` block of an attempt. A `TimeoutError` of the handler
itself is `handlerTimeout`; `base` is no `Exception`. -/
inductive AttemptException where
  | cancelled
  | toolCancelled (message : String)
  | deadlineExceeded (message : String)
  | authorization
  | handlerTimeout
  | timeout
  | unavailable
  | transient
  | other
  | base
  deriving DecidableEq, Repr

/-- How the handler's await ends. -/
inductive HandlerAnswer (O : Type) where
  | returned (output : O)
  | raised (exception : AttemptException)

/-- What an `except` clause does: go on with the next attempt; record a failure and raise
an error, in some clauses even where recording fails; or raise and record nothing. -/
inductive Resolution where
  | retry
  | fail (category : String) (failure : ToolFailure) (insists : Bool)
  | abandon (failure : ToolFailure)
  deriving DecidableEq, Repr

/-- The `except` clauses, in order. -/
def resolveException (maxAttempts attempt : Nat) (deadlineLimitsAttempt : Bool) :
    AttemptException → Resolution
  | .cancelled => .fail "cancelled" .cancelled true
  | .toolCancelled message => .fail "cancelled" (.toolCancelled message) true
  | .deadlineExceeded message => .fail "deadline_exceeded" (.deadlineExceeded message) false
  | .authorization =>
    .fail "cancelled" (.toolCancelled "tool execution authorization was revoked") true
  | .handlerTimeout =>
    if attempt < maxAttempts then .retry
    else .fail "provider_timeout" (.timeout "tool timeout attempts were exhausted") false
  | .timeout =>
    if deadlineLimitsAttempt then
      .fail "deadline_exceeded"
        (.deadlineExceeded "tool execution deadline expired during an attempt") false
    else if attempt < maxAttempts then .retry
    else .fail "provider_timeout" (.timeout "tool timeout attempts were exhausted") false
  | .unavailable => .abandon (.unavailable "tool invocation storage is unavailable")
  | .transient =>
    if attempt < maxAttempts then .retry
    else .fail "provider_unavailable"
      (.unavailable "tool transient attempts were exhausted") false
  | .other => .fail "tool_execution_failed" (.execution "tool handler failed") false
  | .base => .abandon .escaped

/-- The exception shows that the call is cancelled, revoked or out of time. -/
def AttemptException.observes (deadlineLimitsAttempt : Bool) : AttemptException → Bool
  | cancelled | toolCancelled _ | deadlineExceeded _ | authorization => true
  | timeout => deadlineLimitsAttempt
  | handlerTimeout | unavailable | transient | other | base => false

/-- The local checks in front of an attempt raise into the same clauses. -/
def ToolFailure.asException : ToolFailure → AttemptException
  | toolCancelled message => .toolCancelled message
  | deadlineExceeded message => .deadlineExceeded message
  | _ => .other

/-! ## What the environment does at an await -/

structure ReserveInputs where
  cancelled : Option Bool
  reading : Option ℚ
  invocationId : Option UUID
  reachable : Bool
  authorized : Bool
  startReading : Option ℚ

structure FinishInputs where
  reading : Option ℚ
  reachable : Bool

structure StartInputs where
  cancelled : Option Bool
  reading : Option ℚ
  reachable : Bool
  authorized : Bool
  finish : FinishInputs

inductive ToolOp (J O : Type) where
  | execute (executionId : UUID) (context : ToolRunContext) (call : ModelToolCall J)
      (inputs : ReserveInputs)
  | startAttempt (executionId : UUID) (inputs : StartInputs)
  | answer (executionId : UUID) (answer : HandlerAnswer O) (inputs : FinishInputs)
  /-- The store of actions adds the row of an approved action. -/
  | action (invocationId : UUID) (row : ToolInvocationRow)

/-! ## Steps -/

/-- `_reserve_call` up to the first attempt. -/
def reserveCall (registry : ToolRegistry J O) (context : ToolRunContext) (spec : ToolSpec J O)
    (call : ModelToolCall J) (inputs : ReserveInputs) (ledger : ToolLedger) :
    Except ToolFailure (ToolLedger × ToolInvocationReservation) :=
  match inputs.invocationId with
  | none => .error (.configuration "invocation id factory failed")
  | some invocationId =>
    match registry.argsDigest call.arguments with
    | none => .error (.execution "tool invocation accounting failed")
    | some argsDigest =>
      match ledger.reserve inputs.reachable inputs.authorized invocationId context.actorUserId
          spec.name spec.effect argsDigest spec.perRunCallLimit with
      | .ok reserved => .ok reserved
      | .error .limit => .error (.callLimitExceeded "tool per-run call limit was exceeded")
      | .error .authorization =>
        .error (.toolCancelled "tool execution authorization was revoked")
      | .error .unavailable => .error (.unavailable "tool invocation storage is unavailable")
      | .error .recorder | .error .integrity =>
        .error (.execution "tool invocation accounting failed")

/-- `_record_failure`. -/
def recordFailure (execution : ToolExecution J O) (category : String) (inputs : FinishInputs)
    (ledger : ToolLedger) : Except ToolFailure ToolLedger :=
  match toolElapsedMs inputs.reading execution.startedAt with
  | .error _ => .error (.execution "tool invocation accounting failed")
  | .ok latencyMs =>
    match ledger.finish inputs.reachable execution.reservation.invocationId latencyMs
        (.failed category) with
    | .ok ledger => .ok ledger
    | .error .unavailable => .error (.unavailable "tool invocation storage is unavailable")
    | .error _ => .error (.execution "tool invocation accounting failed")

/-- The recorder's `succeed`, with the errors that are mapped behind it. -/
def recordSuccess (registry : ToolRegistry J O) (execution : ToolExecution J O)
    (text : CodePoints) (inputs : FinishInputs) (ledger : ToolLedger) :
    Except ToolFailure ToolLedger :=
  match toolElapsedMs inputs.reading execution.startedAt with
  | .error failure => .error failure
  | .ok latencyMs =>
    match ledger.finish inputs.reachable execution.reservation.invocationId latencyMs
        (.succeeded (outputSummary registry text)) with
    | .ok ledger => .ok ledger
    | .error .unavailable => .error (.unavailable "tool invocation storage is unavailable")
    | .error _ => .error .recorder

namespace ToolWorld
variable (world : ToolWorld J O) (executionId : UUID) (execution : ToolExecution J O)

def enter (ledger : ToolLedger) (phase : ExecutionPhase) : ToolWorld J O :=
  ⟨ledger, world.executions.put executionId { execution with phase := phase }⟩

/-- An attempt that raised goes through the `except` clauses. -/
def settle (attempt : Nat) (deadlineLimitsAttempt : Bool) (exception : AttemptException)
    (inputs : FinishInputs) : ToolWorld J O :=
  let ledger := if exception.observes deadlineLimitsAttempt then
    world.ledger.note (.observed execution.reservation.invocationId) else world.ledger
  match resolveException execution.spec.maxAttempts attempt deadlineLimitsAttempt exception with
  | .retry => world.enter executionId execution ledger (.looping (attempt + 1))
  | .abandon failure => world.enter executionId execution ledger (.ended (.error failure))
  | .fail category failure insists =>
    match recordFailure execution category inputs ledger with
    | .ok ledger => world.enter executionId execution ledger (.ended (.error failure))
    | .error instead => world.enter executionId execution ledger
        (.ended (.error (if insists then failure else instead)))

/-- The head of the loop, up to the handler's await. -/
def startAttempt (attempt : Nat) (inputs : StartInputs) : ToolWorld J O :=
  match raiseIfCancelled inputs.cancelled with
  | .error failure =>
    world.settle executionId execution attempt false failure.asException inputs.finish
  | .ok () =>
    match remainingTime execution.context.deadline inputs.reading with
    | .error failure =>
      world.settle executionId execution attempt false failure.asException inputs.finish
    | .ok remaining =>
      let invocationId := execution.reservation.invocationId
      match world.ledger.startAttempt inputs.reachable inputs.authorized invocationId attempt with
      | .error .unavailable =>
        world.settle executionId execution attempt false .unavailable inputs.finish
      | .error .authorization =>
        world.settle executionId execution attempt false .authorization inputs.finish
      | .error _ => world.settle executionId execution attempt false .other inputs.finish
      | .ok ledger => world.enter executionId execution
          (ledger.note (.handled invocationId attempt))
          (.handling attempt (decide (remaining ≤ execution.spec.timeoutSeconds)))

/-- Behind the handler's await. -/
def finishAttempt (registry : ToolRegistry J O) (attempt : Nat) (deadlineLimitsAttempt : Bool)
    (answer : HandlerAnswer O) (inputs : FinishInputs) : ToolWorld J O :=
  match answer with
  | .raised exception =>
    world.settle executionId execution attempt deadlineLimitsAttempt exception inputs
  | .returned output =>
    match normalizeOutput execution.spec output with
    | .error .other =>
      world.enter executionId execution world.ledger (.ended (.error .escaped))
    | .error (.registry failure) =>
      match recordFailure execution "invalid_tool_output" inputs world.ledger with
      | .ok ledger => world.enter executionId execution ledger (.ended (.error failure))
      | .error instead =>
        world.enter executionId execution world.ledger (.ended (.error instead))
    | .ok text =>
      match recordSuccess registry execution text inputs world.ledger with
      | .ok ledger => world.enter executionId execution ledger (.ended (.ok text))
      | .error failure =>
        world.enter executionId execution world.ledger (.ended (.error failure))

end ToolWorld

/-- `execute` up to the first attempt. -/
def beginExecution (registry : ToolRegistry J O) (world : ToolWorld J O) (executionId : UUID)
    (context : ToolRunContext) (call : ModelToolCall J) (inputs : ReserveInputs) :
    ToolWorld J O × Except ToolFailure Unit :=
  match validatedCall registry context.policy call with
  | .error failure => (world, .error failure)
  | .ok spec =>
    match raiseIfCancelled inputs.cancelled with
    | .error failure => (world, .error failure)
    | .ok () =>
      match remainingTime context.deadline inputs.reading with
      | .error failure => (world, .error failure)
      | .ok _ =>
        match reserveCall registry context spec call inputs world.ledger with
        | .error failure => (world, .error failure)
        | .ok (ledger, reservation) =>
          match toolClockValue inputs.startReading with
          | .error failure =>
            (world.enter executionId ⟨context, spec, reservation, 0, .looping 1⟩ ledger
              (.ended (.error failure)), .error failure)
          | .ok startedAt =>
            (world.enter executionId ⟨context, spec, reservation, startedAt, .looping 1⟩ ledger
              (.looping 1), .ok ())

/-- One step of one of the runtimes; a step its execution is not ready for does not
happen. -/
def stepTools (registry : ToolRegistry J O) (world : ToolWorld J O) :
    ToolOp J O → ToolWorld J O × Except ToolFailure Unit
  | .execute executionId context call inputs =>
    if (world.executions.get executionId).isSome then (world, .ok ())
    else beginExecution registry world executionId context call inputs
  | .startAttempt executionId inputs =>
    match world.executions.get executionId with
    | some execution =>
      match execution.phase with
      | .looping attempt => (world.startAttempt executionId execution attempt inputs, .ok ())
      | .handling .. | .ended _ => (world, .ok ())
    | none => (world, .ok ())
  | .answer executionId answer inputs =>
    match world.executions.get executionId with
    | some execution =>
      match execution.phase with
      | .handling attempt deadlineLimitsAttempt =>
        (world.finishAttempt executionId execution registry attempt deadlineLimitsAttempt answer
          inputs, .ok ())
      | .looping _ | .ended _ => (world, .ok ())
    | none => (world, .ok ())
  | .action invocationId row =>
    if (world.ledger.rows.get invocationId).isSome then (world, .ok ())
    else ({ world with
      ledger := ⟨world.ledger.rows.put invocationId row, world.ledger.log⟩ }, .ok ())

/-- The tool runtimes of one run. -/
def toolRuntimes (registry : ToolRegistry J O) :
    Machine (ToolWorld J O) (ToolOp J O) (Except ToolFailure Unit) where
  start := ⟨⟨Table.empty, []⟩, Table.empty⟩
  step := stepTools registry

end Pathfinder
