import Pathfinder.Domain.Actions
import Pathfinder.Library.KeyedList
import Pathfinder.Library.Machine
import Pathfinder.Tools.Registry

/-!
# The agent loop

`agents/create_agent_loop.py`: the shared tracker, the model adapter and the serial
tool middleware. The framework between them runs the model when no tool task is left,
starts one tool task for each call of a response, and may end or drop tasks at any
moment; the order in which tasks get to run is arbitrary. Observations, usage and the
texts of messages have no effect on which calls are executed and are left out.
-/
namespace Pathfinder
open Machines

variable {J : Type}

/-- `ModelToolCall` with its identifier. -/
structure ProposedCall (J : Type) where
  callId : String
  call : ModelToolCall J

/-- What the loop reads of a `ChatModelResult`. -/
structure ChatResponse (J : Type) where
  content : Option String
  toolCalls : List (ProposedCall J)

/-- `AgentLoopLimitsV1`. -/
structure AgentLoopLimits where
  maxModelCalls : Nat
  maxToolCalls : Nat
  maxToolResults : Nat
  maxIterations : Nat
  positive : 1 ≤ maxModelCalls ∧ 1 ≤ maxIterations
  resultsFit : maxToolResults ≤ maxToolCalls

inductive AgentLoopLimitKind where
  | modelCalls | toolCalls | toolResults | iterations | recursion
  deriving DecidableEq, Repr

/-- The errors that end a loop. -/
inductive AgentLoopError where
  | limitExceeded (kind : AgentLoopLimitKind) (limit currentCount requestedCount : Nat)
  | deadlineExceeded
  | cancelled
  | configuration (message : String)
  | protocol (message : String)
  | toolProposal (category : String)
  | tool (failure : ToolFailure)
  /-- Raised by the model port, the framework or whoever cancels the loop. -/
  | outside (name : String)
  deriving DecidableEq, Repr

/-- What `check_boundary` finds. -/
inductive Boundary where
  | clear | cancelled | expired
  | unreadable (message : String)
  deriving DecidableEq, Repr

/-- `check_boundary`. -/
def Boundary.check : Boundary → Except AgentLoopError Unit
  | clear => .ok ()
  | cancelled => .error .cancelled
  | expired => .error .deadlineExceeded
  | unreadable message => .error (.configuration message)

/-! ## The tracker -/

/-- `_ModelInvocationTracker`. -/
structure Tracker where
  callCount : Nat
  toolCallCount : Nat
  toolResultCount : Nat
  iterationCount : Nat
  seenToolCallIds : List String
  currentBatchCallIds : List String
  currentBatchIteration : Nat

def Tracker.start : Tracker := ⟨0, 0, 0, 0, [], [], 0⟩

/-- `begin_model`. -/
def Tracker.beginModel (limits : AgentLoopLimits) (boundary : Boundary) (tracker : Tracker) :
    Except AgentLoopError Tracker := do
  boundary.check
  if limits.maxModelCalls ≤ tracker.callCount then
    .error (.limitExceeded .modelCalls limits.maxModelCalls tracker.callCount 1)
  if limits.maxIterations ≤ tracker.iterationCount then
    .error (.limitExceeded .iterations limits.maxIterations tracker.iterationCount 1)
  if tracker.currentBatchCallIds ≠ [] then
    .error (.protocol "create_agent started a model before its tool batch completed")
  return { tracker with
    callCount := tracker.callCount + 1
    iterationCount := tracker.iterationCount + 1 }

/-- `preflight_tool_batch`. -/
def Tracker.preflightToolBatch (limits : AgentLoopLimits) (boundary : Boundary)
    (calls : List (ProposedCall J)) (tracker : Tracker) : Except AgentLoopError Tracker := do
  boundary.check
  if calls.isEmpty then return tracker
  if tracker.currentBatchCallIds ≠ [] then
    .error (.protocol "create_agent proposed overlapping tool batches")
  let requested := calls.length
  if limits.maxModelCalls ≤ tracker.callCount then
    .error (.limitExceeded .modelCalls limits.maxModelCalls tracker.callCount 1)
  if limits.maxIterations < tracker.iterationCount + 2 then
    .error (.limitExceeded .iterations limits.maxIterations tracker.iterationCount 2)
  if limits.maxToolCalls < tracker.toolCallCount + requested then
    .error (.limitExceeded .toolCalls limits.maxToolCalls tracker.toolCallCount requested)
  if limits.maxToolResults < tracker.toolResultCount + requested then
    .error (.limitExceeded .toolResults limits.maxToolResults tracker.toolResultCount requested)
  return { tracker with
    iterationCount := tracker.iterationCount + 1
    currentBatchIteration := tracker.iterationCount + 1
    currentBatchCallIds := calls.map ProposedCall.callId }

/-- `batch_ordinal`. -/
def Tracker.batchOrdinal (tracker : Tracker) (callId : String) : Except AgentLoopError Nat :=
  match tracker.currentBatchCallIds.idxOf? callId with
  | some index => .ok (index + 1)
  | none => .error (.protocol "LangChain tool call was not in the proposed batch")

/-- `begin_tool`; its ordinal is the one the caller has just read. -/
def Tracker.beginTool (boundary : Boundary) (tracker : Tracker) :
    Except AgentLoopError Tracker := do
  boundary.check
  return { tracker with toolCallCount := tracker.toolCallCount + 1 }

/-- `complete_tool`. -/
def Tracker.completeTool (ordinal : Nat) (tracker : Tracker) : Tracker :=
  if ordinal = tracker.currentBatchCallIds.length then
    { tracker with
      toolResultCount := tracker.toolResultCount + 1
      currentBatchCallIds := []
      currentBatchIteration := 0 }
  else { tracker with toolResultCount := tracker.toolResultCount + 1 }

/-! ## The model adapter -/

/-- The part of the registry's runtime that the adapter asks: `validate_call`. -/
abbrev CallValidator (J : Type) := ModelToolCall J → Except ToolFailure Unit

/-- How the loop is set up; `feedback` is `research_budget_feedback_enabled`. -/
structure LoopSetup (J : Type) where
  limits : AgentLoopLimits
  validateCall : CallValidator J
  feedback : Bool

def researchPassCompletionText : String :=
  "Bounded research pass complete with the evidence collected so far."

/-- `_research_pass_completion`. -/
def researchPassCompletion : ChatResponse J :=
  { content := some researchPassCompletionText, toolCalls := [] }

/-- The batch is refused: with `error`, or by the completion note under `feedback`. -/
def LoopSetup.refuse (setup : LoopSetup J) (error : AgentLoopError) (tracker : Tracker) :
    Except AgentLoopError (ChatResponse J × Tracker) :=
  if setup.feedback then .ok (researchPassCompletion, tracker) else .error error

/-- `_accepted_response`. -/
def LoopSetup.acceptedResponse (setup : LoopSetup J) (boundary : Boundary)
    (response : ChatResponse J) (tracker : Tracker) :
    Except AgentLoopError (ChatResponse J × Tracker) :=
  let callIds := response.toolCalls.map ProposedCall.callId
  if setup.feedback && response.toolCalls.isEmpty && response.content.isNone then
    .ok (researchPassCompletion, tracker)
  else if ¬callIds.Nodup then setup.refuse (.toolProposal "duplicate_tool_call_id") tracker
  else if callIds.any fun callId => decide (callId ∈ tracker.seenToolCallIds) then
    setup.refuse (.toolProposal "duplicate_tool_call_id") tracker
  else match response.toolCalls.forM fun proposed => setup.validateCall proposed.call with
  | .error (.notAllowed _) => setup.refuse (.toolProposal "tool_not_allowed") tracker
  | .error (.inputValidation _) => setup.refuse (.toolProposal "invalid_tool_arguments") tracker
  | .error failure => .error (.tool failure)
  | .ok () =>
    match tracker.preflightToolBatch setup.limits boundary response.toolCalls with
    | .error (.limitExceeded .toolCalls limit current requested) =>
      setup.refuse (.limitExceeded .toolCalls limit current requested) tracker
    | .error (.limitExceeded .toolResults limit current requested) =>
      setup.refuse (.limitExceeded .toolResults limit current requested) tracker
    | .error reason => .error reason
    | .ok tracker =>
      .ok (response, { tracker with seenToolCallIds := tracker.seenToolCallIds ++ callIds })

/-- The accounting check of `_model_messages`, made under `feedback` only. -/
def LoopSetup.checkBudgets (setup : LoopSetup J) (tracker : Tracker) :
    Except AgentLoopError Unit :=
  if setup.feedback && (decide (setup.limits.maxToolCalls < tracker.toolCallCount) ||
      decide (setup.limits.maxToolResults < tracker.toolResultCount)) then
    .error (.protocol "research tool accounting exceeded its hard limit")
  else .ok ()

/-! ## The loop -/

/-- A response of the model, and whether the adapter let its calls through. -/
structure Proposal (J : Type) where
  calls : List (ProposedCall J)
  accepted : Bool

/-- A tool task of the framework: a call and the proposal it comes from. -/
structure ToolTask (J : Type) where
  proposal : Nat
  call : ProposedCall J

/-- The state of a loop. `executions` are the calls handed to the registry's `execute`,
in order; `outcome` is what the loop has come to. -/
structure LoopState (J : Type) where
  tracker : Tracker
  failed : Bool
  nextBatchOrdinal : Nat
  tasks : List (ToolTask J)
  proposals : List (Proposal J)
  executions : List (ToolTask J)
  outcome : Option (Except AgentLoopError String)

def LoopState.start : LoopState J :=
  { tracker := Tracker.start, failed := false, nextBatchOrdinal := 1, tasks := [], proposals := [],
    executions := [], outcome := none }

/-- The first error stands. -/
def LoopState.raise (state : LoopState J) (error : AgentLoopError) : LoopState J :=
  { state with outcome := some (state.outcome.getD (.error error)) }

def LoopState.propose (state : LoopState J) (proposal : Proposal J) : LoopState J :=
  { state with proposals := state.proposals ++ [proposal] }

/-- What a moment of the loop supplies. -/
inductive LoopEvent (J : Type) where
  /-- The model node runs: the boundaries of `begin_model`, of the preflight and of the end
  of the loop, and the response, or what the controlled await of it raised. -/
  | model (before preflight after : Boundary) (response : Except AgentLoopError (ChatResponse J))
  /-- A tool task gets to run: the boundaries of `begin_tool` and of the controlled await,
  what `execute` comes to, and whether the clock can be read for the last observation. -/
  | tool (task : Nat) (before entry : Boundary) (result : Except AgentLoopError String)
      (observed : Bool)
  /-- A tool task is cancelled while it waits for its turn. -/
  | dropped (task : Nat)
  /-- The framework or the caller ends the loop. -/
  | interrupted (error : AgentLoopError)

/-- The checks on the final message and the counts at the end of the loop. -/
def LoopState.finish (boundary : Boundary) (response : ChatResponse J) (state : LoopState J) :
    LoopState J :=
  match response.content with
  | none => state.raise (.protocol "create_agent did not finish with a final assistant answer")
  | some answer =>
    if isBlank answer then
      state.raise (.protocol "create_agent did not finish with a final assistant answer")
    else if state.tracker.toolCallCount ≠ state.tracker.toolResultCount then
      state.raise (.protocol "create_agent tool-call transcript is inconsistent")
    else match boundary.check with
    | .error error => state.raise error
    | .ok () => { state with outcome := some (.ok answer) }

/-- `_agenerate`, and the end of the loop where its message has no tool calls. -/
def LoopState.runModel (setup : LoopSetup J) (before preflight after : Boundary)
    (response : Except AgentLoopError (ChatResponse J)) (state : LoopState J) : LoopState J :=
  match state.tracker.beginModel setup.limits before with
  | .error error => state.raise error
  | .ok tracker =>
    let state := { state with tracker := tracker }
    match setup.checkBudgets tracker, response with
    | .error error, _ => state.raise error
    | .ok (), .error error => state.raise error
    | .ok (), .ok response =>
      match setup.acceptedResponse preflight response tracker with
      | .error error =>
        (state.propose ⟨response.toolCalls, false⟩).raise error
      | .ok (shown, tracker) =>
        let accepted := !shown.toolCalls.isEmpty || response.toolCalls.isEmpty
        let state := { state.propose ⟨response.toolCalls, accepted⟩ with
          tracker := tracker
          tasks := shown.toolCalls.map (ToolTask.mk state.proposals.length) }
        if shown.toolCalls.isEmpty then state.finish after shown else state

/-- A task that has failed inside the middleware bars the later ones. -/
def LoopState.abort (state : LoopState J) (error : AgentLoopError) : LoopState J :=
  { state with failed := true }.raise error

/-- `awrap_tool_call` of the task at `index`, when its turn comes. A task whose ordinal is not
the next one waits on. -/
def LoopState.runTool (index : Nat) (before entry : Boundary)
    (result : Except AgentLoopError String) (observed : Bool) (state : LoopState J) :
    LoopState J :=
  match state.tasks[index]? with
  | none => state
  | some task =>
    let ended := { state with tasks := state.tasks.eraseIdx index }
    match state.tracker.batchOrdinal task.call.callId with
    | .error error => ended.raise error
    | .ok ordinal =>
      if state.failed then
        ended.raise (.protocol "tool batch was aborted after an earlier failure")
      else if ordinal ≠ state.nextBatchOrdinal then state
      else match state.tracker.beginTool before with
      | .error error => ended.abort error
      | .ok tracker =>
        match entry.check with
        | .error error => { ended with tracker := tracker }.abort error
        | .ok () =>
          let executed := { ended with
            tracker := tracker
            executions := state.executions ++ [task] }
          match result with
          | .error error => executed.abort error
          | .ok content =>
            if isBlank content then
              executed.abort (.protocol "Registry returned invalid model-visible tool text")
            else
              let completed := { executed with tracker := tracker.completeTool ordinal }
              if !observed then completed.raise (.configuration "Agent loop clock failed")
              else if completed.tracker.currentBatchCallIds = [] then
                { completed with nextBatchOrdinal := 1 }
              else { completed with nextBatchOrdinal := state.nextBatchOrdinal + 1 }

/-- One moment of the loop. The model runs only when no task is left and nothing has ended
the loop. -/
def LoopState.next (setup : LoopSetup J) (state : LoopState J) : LoopEvent J → LoopState J
  | .model before preflight after response =>
    if state.outcome.isSome || !state.tasks.isEmpty then state
    else state.runModel setup before preflight after response
  | .tool index before entry result observed => state.runTool index before entry result observed
  | .dropped index =>
    if index < state.tasks.length then
      { state with tasks := state.tasks.eraseIdx index }.raise (.outside "cancelled task")
    else state
  | .interrupted error => state.raise error

/-- `run_create_agent_tool_loop` as a machine over its moments. -/
def agentLoop (setup : LoopSetup J) : Machine (LoopState J) (LoopEvent J) Unit where
  start := LoopState.start
  step state event := (state.next setup event, ())

end Pathfinder
