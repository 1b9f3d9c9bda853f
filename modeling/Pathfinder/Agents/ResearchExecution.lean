import Pathfinder.Agents.ResearchGraph

/-!
# Executions of a research run

`worker/langgraph_executor.py`: what a worker does with a run whose graph may have been left at
any checkpoint. An execution ends with its result, or at any moment without one; the next one
finds the last checkpoint and the rows of `tool_invocations`. Executions of a run follow one
another.
-/
namespace Pathfinder
open JsonTexts Machines

/-- `RunExecutionInput`, as far as it is the same at each execution of a run. -/
structure RunExecutionInput where
  runId : UUID
  workspaceId : UUID
  actorUserId : UUID
  conversationId : UUID
  mode : ResearchMode
  resumeDocumentId : Option UUID
  request : ResearchRequest
  limits : AgentLoopLimits

/-- `RunExecutionResult`. -/
inductive ExecutionResult where
  | completed (result : ResearchOutput)
  | waitingApproval (approvalRequestId : UUID)
  | cancelled
  | failed (errorCategory : String) (retryable : Bool)

def ResearchOutput.valid : ResearchOutput → Bool
  | .v1 output => output.valid
  | .v2 output => output.valid

/-- The `except` clause for `ResearchGraphProtocolError`. -/
def protocolResult (error : ResearchGraphProtocolError) : ExecutionResult :=
  match error.causeCategory with
  | some "cancelled" => .cancelled
  | some "provider_timeout" => .failed "provider_timeout" true
  | some "provider_unavailable" => .failed "provider_unavailable" true
  | some "deadline_exceeded" | some "model_output_incomplete" =>
    .failed error.category (["plan", "write_report"].contains error.nodeName)
  | _ => .failed error.category false

def ResearchGraphFailure.result : ResearchGraphFailure → ExecutionResult
  | .protocol error => protocolResult error
  | .validation => .failed "invalid_checkpoint_state" false

/-! ## Tool calls -/

/-- `len(state.search_calls) + len(state.document_retrieval_calls)`. -/
def ResearchGraphState.toolCalls (state : ResearchGraphState) : Nat :=
  state.searchCalls.length + state.documentRetrievalCalls.length

/-- The limits of an execution: the calls that are in no checkpoint are taken off. -/
def executionLimits (limits : AgentLoopLimits) (persisted checkpointed : Nat) : AgentLoopLimits :=
  let effective := limits.maxToolCalls - (persisted - checkpointed)
  { limits with
    maxToolCalls := effective
    maxToolResults := min limits.maxToolResults effective
    resultsFit := Nat.min_le_right _ _ }

/-- A loop, and how many rows its calls have reserved. -/
structure PassState where
  loop : LoopState Json
  rows : Nat

/-- A moment of a loop. A call that fails may have failed before its row was reserved. -/
structure PassMoment where
  event : LoopEvent Json
  reserved : Bool

def LoopEvent.succeeded {J : Type} : LoopEvent J → Bool
  | .tool _ _ _ (.ok _) _ => true
  | _ => false

/-- The loop of a pass beside `tool_invocations`. -/
def passLoop (setup : LoopSetup Json) : Machine PassState PassMoment Unit where
  start := ⟨.start, 0⟩
  step state moment :=
    let loop := state.loop.next setup moment.event
    let executed := loop.executions.length - state.loop.executions.length
    (⟨loop, state.rows + if moment.event.succeeded || moment.reserved then executed else 0⟩, ())

/-- What a loop in this state has come to; `transcript` is what the framework has kept of it. -/
def LoopState.answer (loop : LoopState Json) (transcript : List ChatMessage) (category : String) :
    LoopAnswer :=
  match loop.outcome with
  | some (.ok _) => .returned transcript loop.tracker.toolCallCount
  | _ => .raised category

/-! ## A run between its executions -/

/-- The payload of `approval_interrupt`. -/
structure ApprovalInterrupt where
  approvalRequestId : UUID
  actionIntentId : UUID
  actionKey : String
  actionRevision : Int
  deriving DecidableEq

/-- The payload that `approval_interrupt` builds of a state. -/
def ResearchGraphState.approvalInterrupt (state : ResearchGraphState) :
    Option ApprovalInterrupt := do
  let actionIntentId ← state.actionProposalId
  let approvalRequestId ← state.approvalRequestId
  let actionKey ← state.actionKey
  let actionRevision ← state.actionRevision
  some ⟨approvalRequestId, actionIntentId, actionKey, actionRevision⟩

/-- What the branch without a state checks of the payload. -/
def ApprovalInterrupt.initial (interrupt : ApprovalInterrupt) : Bool :=
  interrupt.actionKey = Pathfinder.actionKey && interrupt.actionRevision = 1 &&
    interrupt.actionIntentId ≠ 0

/-- An execution whose graph is on: `AgentLoopControl.limits`, the request that it resumes, and
whether it began at an interrupt. -/
structure ResearchSession where
  limits : AgentLoopLimits
  resumeApprovalRequestId : Option UUID
  interrupted : Bool

/-- What is kept of a run: its last checkpoint, the interrupt it stands at, the rows of its
research calls and those of its action. `session` is the execution that is on. -/
structure ResearchThread where
  checkpoint : Option ResearchRun
  interrupt : Option ApprovalInterrupt
  toolRows : Nat
  actionRows : Nat
  session : Option ResearchSession

def ResearchThread.start : ResearchThread := ⟨none, none, 0, 0, none⟩

section Execution
variable (libraries : ResearchLibraries) (execution : RunExecutionInput)

def RunExecutionInput.graphInput : ResearchGraphInput where
  schemaVersion := 3
  runId := execution.runId
  workspaceId := execution.workspaceId
  actorUserId := execution.actorUserId
  conversationId := execution.conversationId
  mode := execution.mode
  resumeDocumentId := execution.resumeDocumentId
  request := execution.request

/-- `normalize_research_query` of the run's query. -/
def RunExecutionInput.normalizedQuery : String :=
  String.ofList (normalizeWebSearchQuery libraries.nfkc execution.request.query.toList)

/-- `_require_matching_identity`. -/
def matchingIdentity (state : ResearchGraphState) : Bool :=
  state.schemaVersion = 3 && state.runId = execution.runId &&
    state.workspaceId = execution.workspaceId && state.actorUserId = execution.actorUserId &&
    state.conversationId = execution.conversationId && state.mode = execution.mode &&
    state.resumeDocumentId = execution.resumeDocumentId &&
    state.request.includeApplicationDraft = execution.request.includeApplicationDraft &&
    state.request.query = execution.normalizedQuery libraries

/-- `_checkpoint_state` accepts the values of a checkpoint. -/
def checkpointState (run : ResearchRun) : Bool :=
  run.state.valid libraries.urls && run.output.all ResearchOutput.valid

/-- What the rows of `tool_invocations` leave of the limits; it is how an execution goes on. -/
def countToolCalls (resume : Option UUID) (interrupted : Bool) (checkpointed : Nat)
    (thread : ResearchThread) : Except ExecutionResult ResearchSession :=
  let persisted := thread.toolRows + thread.actionRows
  if persisted < checkpointed then .error (.failed "checkpoint_tool_count_mismatch" false)
  else .ok ⟨executionLimits execution.limits persisted checkpointed, resume, interrupted⟩

/-- What an execution does with a persisted interrupt; `applied` is whether its resume input is
in the checkpoint, and `resolved` what the resolver then answers. -/
def resumeInterrupt (state : ResearchGraphState) (interrupt : ApprovalInterrupt)
    (resume : Option UUID) (applied : Bool) (resolved : Except ExecutionResult ApprovalStatus) :
    Except ExecutionResult Unit :=
  if state.approvalInterrupt ≠ some interrupt then
    .error (.failed "checkpoint_identity_mismatch" false)
  else match resume with
  | none => .error (.waitingApproval interrupt.approvalRequestId)
  | some requestId =>
    if requestId ≠ interrupt.approvalRequestId then
      .error (.failed "resume_approval_request_mismatch" false)
    else if !applied then .ok ()
    else match resolved with
    | .error result => .error result
    | .ok .pending => .error (.waitingApproval interrupt.approvalRequestId)
    | .ok .consumed => .error (.failed "approval_resume_status_invalid" false)
    | .ok _ => .ok ()

/-- `_execute_graph`, in front of the graph. -/
def beginGraph (resume : Option UUID) (applied : Bool)
    (resolved : Except ExecutionResult ApprovalStatus) (thread : ResearchThread) :
    Except ExecutionResult ResearchSession :=
  match thread.checkpoint with
  | none => countToolCalls execution resume false 0 thread
  | some run =>
    if !checkpointState libraries run then .error (.failed "invalid_checkpoint_state" false)
    else if !matchingIdentity libraries execution run.state then
      .error (.failed "checkpoint_identity_mismatch" false)
    else match thread.interrupt with
    | some interrupt => do
      resumeInterrupt run.state interrupt resume applied resolved
      countToolCalls execution resume true run.state.toolCalls thread
    | none =>
      if run.next ≠ .ended then countToolCalls execution resume false run.state.toolCalls thread
      else match run.output with
      | none => .error (.failed "invalid_checkpoint_state" false)
      | some output => .error (.completed output)

/-- What happens to a run. -/
inductive ExecutionEvent where
  /-- A worker takes the run. -/
  | begin_ (resume : Option UUID) (applied : Bool)
      (resolved : Except ExecutionResult ApprovalStatus)
  /-- A node other than `research_agent`; its action may reserve rows. -/
  | node (environment : NodeEnvironment) (actionRows : Nat)
  /-- `research_agent`: the moments of its loop, and whether the process then ends. -/
  | pass (environment : NodeEnvironment) (moments : List PassMoment)
      (transcript : List ChatMessage) (category : String) (crashed : Bool)
  /-- The process ends, or the guard or the timeout ends the execution. -/
  | stopped

/-- A step of the graph, up to its checkpoint. -/
def ResearchThread.settle (thread : ResearchThread) :
    Except ResearchGraphFailure ResearchRun → ResearchThread × Option ExecutionResult
  | .error failure => ({ thread with session := none }, some failure.result)
  | .ok run =>
    let thread := { thread with checkpoint := some run, interrupt := none }
    match run.output with
    | some output => ({ thread with session := none }, some (.completed output))
    | none => (thread, none)

/-- The interrupt ends the graph, and what the executor says of it. -/
def ResearchThread.waits (session : ResearchSession) (interrupt : ApprovalInterrupt)
    (thread : ResearchThread) : ResearchThread × Option ExecutionResult :=
  ({ thread with interrupt := some interrupt, session := none },
    some (
      if !session.interrupted && !interrupt.initial then
        .failed "checkpoint_identity_mismatch" false
      else if session.resumeApprovalRequestId.any (· ≠ interrupt.approvalRequestId) then
        .failed "resume_approval_request_mismatch" false
      else .waitingApproval interrupt.approvalRequestId))

/-- A node of the graph. At `approval_interrupt` the run waits until it is resumed, and again
while its request is pending. -/
def ResearchThread.runNode (environment : NodeEnvironment) (actionRows : Nat)
    (session : ResearchSession) (run : ResearchRun) (thread : ResearchThread) :
    ResearchThread × Option ExecutionResult :=
  match run.next with
  | .ended | .researchAgent => (thread, none)
  | .executeMockAction =>
    { thread with actionRows := thread.actionRows + actionRows }.settle
      (run.advance libraries environment)
  | .approvalInterrupt =>
    let again := if thread.interrupt.isNone then
      { environment with approval := .ok .pending } else environment
    match run.advance libraries again, run.state.approvalInterrupt with
    | .ok after, some interrupt =>
      if after.next = .approvalInterrupt then thread.waits session interrupt
      else thread.settle (.ok after)
    | .ok _, none =>
      thread.settle (.error (.protocol (protocolError "missing_state_value" "approval_interrupt")))
    | .error failure, _ => thread.settle (.error failure)
  | _ => thread.settle (run.advance libraries environment)

variable (validateCall : CallValidator Json)

/-- The loop of a pass under these limits. -/
def passAfter (moments : List PassMoment) (limits : AgentLoopLimits) : PassState :=
  (passLoop { limits := limits, validateCall := validateCall, feedback := true }).reached moments

/-- The limits under which `research_agent` runs its loop, where it comes to it. -/
def ResearchRun.passLimits (limits : AgentLoopLimits) (run : ResearchRun) :
    Option AgentLoopLimits :=
  if run.state.valid libraries.urls && run.state.normalizedQuery.isSome && run.state.plan.isSome &&
      run.state.researchPassCount ≤ 1 then
    (researchPassControl (run.state.researchInput (run.state.researchPassCount + 1))
      limits).toOption
  else none

/-- `research_agent`. The rows of its calls stay whatever becomes of the pass. -/
def ResearchThread.runPass (environment : NodeEnvironment) (moments : List PassMoment)
    (transcript : List ChatMessage) (category : String) (crashed : Bool)
    (session : ResearchSession) (run : ResearchRun) (thread : ResearchThread) :
    ResearchThread × Option ExecutionResult :=
  let pass := passAfter validateCall moments
  let rows := ((run.passLimits libraries session.limits).map fun limits => (pass limits).rows)
  let thread := { thread with toolRows := thread.toolRows + rows.getD 0 }
  if crashed then ({ thread with session := none }, none)
  else
    thread.settle (run.advance libraries
      { environment with
        limits := session.limits
        loop := fun limits => (pass limits).loop.answer transcript category })

/-- The executions of a run, over any interruptions. -/
def researchExecution :
    Machine ResearchThread ExecutionEvent (Option ExecutionResult) where
  start := .start
  step thread event :=
    match event, thread.session, thread.checkpoint with
    | .begin_ resume applied resolved, none, _ =>
      match beginGraph libraries execution resume applied resolved thread with
      | .error result => (thread, some result)
      | .ok session =>
        ({ thread with
          checkpoint := some (thread.checkpoint.getD execution.graphInput.run)
          session := some session }, none)
    | .node environment actionRows, some session, some run =>
      thread.runNode libraries environment actionRows session run
    | .pass environment moments transcript category crashed, some session, some run =>
      if run.next = .researchAgent then
        thread.runPass libraries validateCall environment moments transcript category crashed
          session run
      else (thread, none)
    | .stopped, some _, _ => ({ thread with session := none }, none)
    | _, _, _ => (thread, none)

end Execution
end Pathfinder
