import Pathfinder.Agents.ResumeGraphs

/-!
# The executions of one resume run

Every claim of a run's job starts the graph anew on a worker; a worker that crashes takes no
further step, and one that lost its lease may go on beside its successor. Between two awaits
a worker is in one of the phases below, and the workers interleave at these points over the
rows they share.
-/
namespace Pathfinder
open KeyedTable Machines

variable {J O V X A S P M T : Type}

/-- The budget of a run: `max_model_calls`, `max_tool_calls` and `max_cost_cny`, the last in
units of 10⁻¹² CNY. -/
structure RunBudget where
  maxModelCalls : Nat
  maxToolCalls : Nat
  maxCost : Nat
  modelCalls : 1 ≤ maxModelCalls ∧ maxModelCalls ≤ 12
  toolCalls : maxToolCalls ≤ 8
  cost : 0 < maxCost

inductive ResumeRunKind where
  | generation
  /-- `instructed`: the feedback asks for changes of a draft in words. -/
  | revision (instructed : Bool)

/-- A run with what its executor is wired with. Chat and embedding calls share the factory. -/
structure ResumeRunConfig (J O V X A S P M T : Type) where
  kind : ResumeRunKind
  workspaceId : UUID
  actorUserId : UUID
  runId : UUID
  budget : RunBudget
  promptVersion : String
  provider : ModelProvider
  priceBook : PriceBook
  retryPolicy : LLMRetryPolicy
  chars : CharacterTables
  hashing : RequestHashing M T
  reader : AnswerReader X A S P
  registry : Option (ToolRegistry J O)
  policy : GraphToolPolicy

def ResumeRunConfig.model (cfg : ResumeRunConfig J O V X A S P M T) : AccountedModel where
  context := ⟨cfg.workspaceId, cfg.actorUserId, none, some cfg.runId⟩
  provider := cfg.provider
  priceBook := cfg.priceBook
  retryPolicy := cfg.retryPolicy

/-! ## The budget -/

/-- The row belongs to the run. -/
def LLMInvocation.ofRun (workspaceId runId : UUID) (row : LLMInvocation) : Bool :=
  row.attempt.workspaceId == workspaceId && row.attempt.runId == some runId

def LLMInvocation.estimatedCost (row : LLMInvocation) : Option Nat :=
  row.outcome.bind LLMInvocationOutcome.estimatedCost

/-- The rows that `spend_allowed` selects. -/
def InvocationLedger.ofRun {R : Type} (ledger : InvocationLedger R V) (workspaceId runId : UUID) :
    List LLMInvocation :=
  (ledger.rows.scan.map Prod.snd).filter (LLMInvocation.ofRun workspaceId runId)

/-- `spend_allowed` on the rows of the run. -/
def spendAllowed (budget : RunBudget) (invocations : List LLMInvocation) : Bool :=
  if invocations.any fun row => row.estimatedCost.isNone && row.attempt.provider != .fake then
    false
  else
    invocations.length < budget.maxModelCalls &&
      (invocations.filterMap LLMInvocation.estimatedCost).sum < budget.maxCost

/-! ## Workers -/

/-- Whose call of a model it is: the graph's own, or the query of a running material search. -/
inductive CallSite (J : Type) where
  | chat
  | embedding (rest : List (ModelToolCall J)) (executionId : UUID)

/-- The locals of `invoke` and `embed`; `number` is that of the next attempt, or of the one
that is under way. -/
structure PendingCall (J V X : Type) where
  site : CallSite J
  call : ModelCall (ChatReply J X) V
  number : Nat
  deadline : ℚ

/-- Where a worker is suspended. -/
inductive WorkerPhase (J V X A : Type) where
  | spending (loop : ModelLoop A)
  /-- `spend_allowed` has answered yes, on `seen` rows. -/
  | admitted (loop : ModelLoop A) (seen : Nat)
  | preparing (loop : ModelLoop A) (pending : PendingCall J V X)
  | awaiting (loop : ModelLoop A) (pending : PendingCall J V X) (attempt : LLMInvocationAttempt)
  | calling (loop : ModelLoop A) (call : ModelToolCall J) (rest : List (ModelToolCall J))
  | executing (loop : ModelLoop A) (rest : List (ModelToolCall J)) (executionId : UUID)
      (embedded : Bool)
  | repairing (granted : GraphStage A) (refused : GraphEnd)
  | ended (result : GraphEnd)

structure ResumeWorker (J V X A : Type) where
  toolDeadline : ℚ
  phase : WorkerPhase J V X A

/-- The rows of the run and its workers. `published` is that the session or the feedback has a
version. -/
structure ResumeRunWorld (J O V X A : Type) where
  llm : InvocationLedger (ChatReply J X) V
  tools : ToolWorld J O
  repairCount : Nat
  published : Bool
  workers : Table UUID (ResumeWorker J V X A)

inductive ResumeRunOp (J O V X M T : Type) where
  | start (worker : UUID) (toolDeadline : ℚ)
  /-- `permitted`: neither the check of the run nor the read of the budget raises.
  `isPrivate`: the request passes `check_model_input_privacy`. -/
  | spend (worker : UUID) (permitted isPrivate : Bool)
  | invoke (worker : UUID) (messages : List M) (tools : List T) (reading : Option ℚ)
      (script : AttemptScript (ChatReply J X) V)
  | retry (worker : UUID) (script : AttemptScript (ChatReply J X) V)
  | answer (worker : UUID) (script : AttemptScript (ChatReply J X) V)
  | repair (worker : UUID) (permitted : Bool)
  | execute (worker executionId : UUID) (isPrivate : Bool) (inputs : ReserveInputs)
  | startTool (worker : UUID) (inputs : StartInputs)
  | embed (worker : UUID) (query : Text) (reading : Option ℚ)
      (script : AttemptScript (ChatReply J X) V)
  | answerTool (worker : UUID) (answer : HandlerAnswer O) (inputs : FinishInputs)
  /-- A version of the session or the feedback is published. -/
  | publish
  /-- Another run's row of `llm_invocations`. -/
  | elsewhere (invocationId : UUID) (row : LLMInvocation)

namespace ResumeRunWorld
variable (cfg : ResumeRunConfig J O V X A S P M T) (world : ResumeRunWorld J O V X A)
  (worker : UUID) (self : ResumeWorker J V X A)

/-- The worker goes on to a phase. -/
def enter (phase : WorkerPhase J V X A) : ResumeRunWorld J O V X A :=
  { world with workers := world.workers.put worker { self with phase := phase } }

/-- The rows of the run's model invocations. -/
def invocations : List LLMInvocation := world.llm.ofRun cfg.workspaceId cfg.runId

/-- The graph's first call, or its end where it calls no model. -/
def initialPhase : ResumeRunKind → WorkerPhase J V X A
  | .generation => .spending ⟨.analyze false, 0⟩
  | .revision true => .spending ⟨.propose, 0⟩
  | .revision false => .ended (.candidate false)

/-- A call of a model raised. Inside a handler the tool runtime catches it. -/
def callFailed (loop : ModelLoop A) (failure : LLMFailure) : CallSite J → WorkerPhase J V X A
  | .chat => .ended (.model failure)
  | .embedding rest executionId => .executing loop rest executionId true

/-- The attempt's record is prepared and the adapter is called. -/
def openCall (loop : ModelLoop A) (pending : PendingCall J V X)
    (script : AttemptScript (ChatReply J X) V) : ResumeRunWorld J O V X A :=
  match cfg.model.openAttempt pending.call pending.deadline script world.llm with
  | .error failure => world.enter worker self (callFailed loop failure pending.site)
  | .ok (opened, attempt) =>
    { world with llm := opened }.enter worker self (.awaiting loop pending attempt)

/-- `invoke` and `embed` up to their first attempt. -/
def beginCall (loop : ModelLoop A) (site : CallSite J) (request : ModelRequest M T)
    (reading : Option ℚ) (script : AttemptScript (ChatReply J X) V) :
    ResumeRunWorld J O V X A :=
  match request.call cfg.chars cfg.hashing cfg.provider with
  | .error failure => world.enter worker self (callFailed loop failure site)
  | .ok call =>
    match clockValue reading with
    | .error failure => world.enter worker self (callFailed loop failure site)
    | .ok now => world.openCall cfg worker self loop
        ⟨site, call, 1, now + cfg.retryPolicy.deadlineSeconds⟩ script

/-- What a graph goes on with. -/
def graphPhase : GraphNext A → WorkerPhase J V X A
  | .call stage => .spending ⟨stage, 0⟩
  | .repair granted refused => .repairing granted refused
  | .ends result => .ended result

/-- The model has answered. -/
def received (loop : ModelLoop A) (reply : ChatReply J X) : WorkerPhase J V X A :=
  match loop.receive cfg.reader (cfg.registry.map fun _ => cfg.budget.maxToolCalls) reply with
  | .graph next => graphPhase next
  | .tools [] => .spending loop
  | .tools (call :: rest) => .calling loop call rest

/-- A call of a model has returned. -/
def returned (loop : ModelLoop A) (result : ModelResult (ChatReply J X) V) :
    CallSite J → WorkerPhase J V X A
  | .embedding rest executionId => .executing loop rest executionId true
  | .chat =>
    match result.reply with
    | .chat reply => received cfg loop reply
    | .embedding _ => .ended (.model (.assertion "chat model returned embeddings"))

/-- The adapter has answered and the record is final. -/
def closeCall (loop : ModelLoop A) (pending : PendingCall J V X)
    (attempt : LLMInvocationAttempt) (script : AttemptScript (ChatReply J X) V) :
    ResumeRunWorld J O V X A :=
  match cfg.model.callAdapter pending.call script attempt pending.deadline pending.number
      world.llm with
  | (closed, .error failure) =>
    { world with llm := closed }.enter worker self (callFailed loop failure pending.site)
  | (closed, .ok none) =>
    { world with llm := closed }.enter worker self
      (.preparing loop { pending with number := pending.number + 1 })
  | (closed, .ok (some result)) =>
    { world with llm := closed }.enter worker self (returned cfg loop result pending.site)

/-- A tool execution that ended gives the worker its text or raises. -/
def collect (loop : ModelLoop A) (rest : List (ModelToolCall J)) (executionId : UUID)
    (embedded : Bool) : ResumeRunWorld J O V X A :=
  match (world.tools.executions.get executionId).map ToolExecution.phase with
  | some (.ended (.ok _)) =>
    match rest with
    | [] => world.enter worker self (.spending { loop with toolCalls := loop.toolCalls + 1 })
    | call :: rest => world.enter worker self
        (.calling { loop with toolCalls := loop.toolCalls + 1 } call rest)
  | some (.ended (.error failure)) => world.enter worker self (.ended (.tool failure))
  | _ => world.enter worker self (.executing loop rest executionId embedded)

/-- `validate_call` and `execute` up to the first attempt. -/
def reserveTool (registry : ToolRegistry J O) (loop : ModelLoop A) (call : ModelToolCall J)
    (rest : List (ModelToolCall J)) (executionId : UUID) (inputs : ReserveInputs) :
    ResumeRunWorld J O V X A :=
  match stepTools registry world.tools
      (.execute executionId ⟨cfg.actorUserId, self.toolDeadline, cfg.policy⟩ call inputs) with
  | (tools, .error failure) =>
    { world with tools := tools }.enter worker self (.ended (.tool failure))
  | (tools, .ok ()) =>
    { world with tools := tools }.enter worker self (.executing loop rest executionId false)

/-- The name of the tool whose handler is running. -/
def handles (executionId : UUID) : Option String :=
  (world.tools.executions.get executionId).bind fun execution =>
    match execution.phase with
    | .handling .. => some execution.spec.name
    | .looping _ | .ended _ => none

/-- `reserve_repair`. -/
def repairGranted : Bool := world.repairCount == 0 && !world.published

end ResumeRunWorld

section Step
open ResumeRunWorld
variable (cfg : ResumeRunConfig J O V X A S P M T) (world : ResumeRunWorld J O V X A)

/-- The step of a worker that is there. -/
def stepWorker (worker : UUID) (self : ResumeWorker J V X A) :
    ResumeRunOp J O V X M T → ResumeRunWorld J O V X A
  | .spend _ permitted isPrivate =>
    match self.phase with
    | .spending loop =>
      if !permitted then world.enter worker self (.ended .stopped)
      else if !spendAllowed cfg.budget (world.invocations cfg) then
        world.enter worker self (.ended loop.stage.exhausted)
      else if !isPrivate then world.enter worker self (.ended loop.stage.notPrivate)
      else world.enter worker self (.admitted loop (world.invocations cfg).length)
    | _ => world
  | .invoke _ messages tools reading script =>
    match self.phase with
    | .admitted loop _ => world.beginCall cfg worker self loop .chat
        (.chat messages tools (loop.stage.metadata cfg.promptVersion)) reading script
    | _ => world
  | .retry _ script =>
    match self.phase with
    | .preparing loop pending => world.openCall cfg worker self loop pending script
    | _ => world
  | .answer _ script =>
    match self.phase with
    | .awaiting loop pending attempt => world.closeCall cfg worker self loop pending attempt script
    | _ => world
  | .repair _ permitted =>
    match self.phase with
    | .repairing granted refused =>
      if !permitted then world.enter worker self (.ended .stopped)
      else if world.repairGranted then
        { world with repairCount := 1 }.enter worker self (.spending ⟨granted, 0⟩)
      else world.enter worker self (.ended refused)
    | _ => world
  | .execute _ executionId isPrivate inputs =>
    match self.phase, cfg.registry with
    | .calling loop call rest, some registry =>
      if !isPrivate then world.enter worker self (.ended loop.stage.notPrivate)
      else if (world.tools.executions.get executionId).isSome then world
      else world.reserveTool cfg worker self registry loop call rest executionId inputs
    | _, _ => world
  | .startTool _ inputs =>
    match self.phase, cfg.registry with
    | .executing loop rest executionId embedded, some registry =>
      { world with tools := (stepTools registry world.tools
        (.startAttempt executionId inputs)).1 }.collect worker self loop rest executionId embedded
    | _, _ => world
  | .embed _ query reading script =>
    match self.phase with
    | .executing loop rest executionId false =>
      if world.handles executionId = some "retrieve_project_material" then
        world.beginCall cfg worker self loop (.embedding rest executionId)
          (.embedding [query] [("graph_node", "document_retrieval")]) reading script
      else world
    | _ => world
  | .answerTool _ answer inputs =>
    match self.phase, cfg.registry with
    | .executing loop rest executionId embedded, some registry =>
      { world with tools := (stepTools registry world.tools
        (.answer executionId answer inputs)).1 }.collect worker self loop rest executionId embedded
    | _, _ => world
  | .start .. | .publish | .elsewhere .. => world

/-- The worker that takes the step. -/
def ResumeRunOp.worker : ResumeRunOp J O V X M T → Option UUID
  | .spend worker .. | .invoke worker .. | .retry worker _ | .answer worker _
  | .repair worker _ | .execute worker .. | .startTool worker _ | .embed worker ..
  | .answerTool worker .. => some worker
  | .start .. | .publish | .elsewhere .. => none

/-- One step; a step that its worker is not ready for does not happen. -/
def stepResumeRun (op : ResumeRunOp J O V X M T) : ResumeRunWorld J O V X A :=
  match op with
  | .start worker toolDeadline =>
    if (world.workers.get worker).isSome then world
    else { world with workers := world.workers.put worker ⟨toolDeadline, initialPhase cfg.kind⟩ }
  | .publish => { world with published := true }
  | .elsewhere invocationId row =>
    if (world.llm.rows.get invocationId).isSome || row.ofRun cfg.workspaceId cfg.runId then world
    else { world with llm := { world.llm with rows := world.llm.rows.put invocationId row } }
  | op =>
    match op.worker.bind fun worker =>
      (world.workers.get worker).map fun self => (worker, self) with
    | some (worker, self) => stepWorker cfg world worker self op
    | none => world

/-- The executions of a run. -/
def resumeRun (cfg : ResumeRunConfig J O V X A S P M T) :
    Machine (ResumeRunWorld J O V X A) (ResumeRunOp J O V X M T) Unit where
  start := ⟨⟨Table.empty, []⟩, ⟨⟨Table.empty, []⟩, Table.empty⟩, 0, false, Table.empty⟩
  step world op := (stepResumeRun cfg world op, ())

end Step
end Pathfinder
