import Pathfinder.Agents.ResumeWorkers

/-!
# What a step writes for a run

A step records an attempt of a model exactly where a call is opened, and reserves a tool call
exactly where a worker executes the next call of an answer: whether it does is read off the
step and the state before it.
-/
namespace Pathfinder
open KeyedTable Machines

variable {J O V X A S P M T : Type}

/-- One more is counted exactly where it happens. -/
def Counts (happens : Prop) (before after : Nat) : Prop :=
  (happens ∧ after = before + 1) ∨ (¬ happens ∧ after = before)

theorem Counts.none {happens : Prop} {count : Nat} (never : ¬ happens) :
    Counts happens count count := .inr ⟨never, rfl⟩

/-! ## Attempts -/

/-- A turn of the retry loop gets as far as its record: the call is in time, and the recorder
takes the row of a new attempt. -/
def AccountedModel.opens {R : Type} (model : AccountedModel) (call : ModelCall R V) (deadline : ℚ)
    (script : AttemptScript R V) (ledger : InvocationLedger R V) : Prop :=
  (∃ now, script.headReading = some now ∧ now < deadline) ∧
  ∃ invocationId, script.invocationId = some invocationId ∧
    (model.newAttempt call invocationId).valid = true ∧ script.prepareReachable = true ∧
    script.authorized = true ∧ ledger.rows.get invocationId = none

/-- The later ledger has the same attempts; only outcomes are new. -/
structure SameAttempts {R : Type} (ledger later : InvocationLedger R V) : Prop where
  keys : later.rows.keys = ledger.rows.keys
  attempts : ∀ k, (later.rows.get k).map LLMInvocation.attempt =
    (ledger.rows.get k).map LLMInvocation.attempt

section Attempts
variable {R : Type} {ledger later third : InvocationLedger R V} {workspaceId runId : UUID}
  {script : AttemptScript R V} {attempt : LLMInvocationAttempt} {startedAt : ℚ}

theorem SameAttempts.refl (ledger : InvocationLedger R V) : SameAttempts ledger ledger :=
  ⟨rfl, fun _ => rfl⟩

theorem SameAttempts.trans (first : SameAttempts ledger later)
    (second : SameAttempts later third) : SameAttempts ledger third :=
  ⟨second.keys.trans first.keys, fun k => (second.attempts k).trans (first.attempts k)⟩

theorem length_ofRun (ledger : InvocationLedger R V) (workspaceId runId : UUID) :
    (ledger.ofRun workspaceId runId).length = ledger.rows.keys.countP fun k =>
      (ledger.rows.get k).any (LLMInvocation.ofRun workspaceId runId) :=
  ledger.rows.length_filter_scan _

theorem any_ofRun (row : Option LLMInvocation) : row.any (LLMInvocation.ofRun workspaceId runId) =
    (row.map LLMInvocation.attempt).any fun attempt =>
      attempt.workspaceId == workspaceId && attempt.runId == some runId := by
  cases row with
  | none => rfl
  | some row => rfl

/-- The run has as many rows. -/
theorem SameAttempts.length (same : SameAttempts ledger later) :
    (later.ofRun workspaceId runId).length = (ledger.ofRun workspaceId runId).length := by
  rw [length_ofRun, length_ofRun, same.keys]
  refine congrArg (List.countP · ledger.rows.keys) (funext fun k => ?_)
  rw [any_ofRun, any_ofRun, same.attempts k]

theorem finalize_same {reachable : Bool} {outcome : LLMInvocationOutcome}
    (finalized : ledger.finalize reachable attempt outcome = .ok later) :
    SameAttempts ledger later := by
  unfold InvocationLedger.finalize at finalized
  split at finalized
  · cases finalized
  split at finalized
  · cases finalized
  split at finalized
  · cases finalized
  next row stored =>
  split at finalized
  · cases finalized
  split at finalized
  · cases finalized
    refine ⟨Table.put_keys_of_present _ _ (by rw [stored]; rfl), fun k => ?_⟩
    simp only [InvocationLedger.put]
    rw [Table.put_get]
    split
    next here => rw [here, stored]; rfl
    · rfl
  split at finalized
  · cases finalized
    exact .refl _
  · cases finalized

theorem completeAttempt_same {outcome : LLMInvocationOutcome} :
    SameAttempts ledger (completeAttempt script attempt outcome ledger).1 := by
  unfold completeAttempt recordFinalize
  cases finalized : ledger.finalize script.finalizeReachable attempt outcome with
  | ok later => exact finalize_same finalized
  | error reason => cases reason <;> exact .refl ledger

theorem buildAndComplete_same {outcome : Nat → LLMInvocationOutcome} :
    SameAttempts ledger (buildAndComplete script attempt startedAt outcome ledger).1 := by
  unfold buildAndComplete
  split
  · exact .refl ledger
  split
  · exact completeAttempt_same
  · exact .refl ledger

theorem finalizeFailure_same {category : ProviderFailureCategory}
    {providerResponseId : Option ProviderResponseId} :
    SameAttempts ledger
      (finalizeFailure script attempt startedAt category providerResponseId ledger).1 := by
  have built : SameAttempts ledger (buildAndComplete script attempt startedAt
      (failedOutcome script.traceIds (.provider category) providerResponseId) ledger).1 :=
    buildAndComplete_same
  unfold finalizeFailure
  split
  next later failure same =>
    rw [same] at built
    exact built
  next later same =>
    rw [same] at built
    exact built

theorem raiseFailure_same {category : ProviderFailureCategory} :
    SameAttempts ledger (raiseFailure script attempt startedAt category ledger).1 := by
  have failed : SameAttempts ledger
      (finalizeFailure script attempt startedAt category none ledger).1 := finalizeFailure_same
  unfold raiseFailure
  split
  next later failure same =>
    rw [same] at failed
    exact failed
  next later failure same =>
    rw [same] at failed
    exact failed

theorem failAttempt_same {model : AccountedModel} {deadline : ℚ} {attemptNumber : Nat}
    {category : ProviderFailureCategory} {providerResponseId : Option ProviderResponseId}
    {retryable : Bool} {retryAfterSeconds : Option ℚ} :
    SameAttempts ledger (model.failAttempt script attempt startedAt deadline attemptNumber
      category providerResponseId retryable retryAfterSeconds ledger).1 := by
  have failed : SameAttempts ledger
      (finalizeFailure script attempt startedAt category providerResponseId ledger).1 :=
    finalizeFailure_same
  unfold AccountedModel.failAttempt
  split
  next later failure same =>
    rw [same] at failed
    exact failed
  next later failure same =>
    rw [same] at failed
    split
    · exact failed
    · exact failed

theorem settle_same {model : AccountedModel} {call : ModelCall R V} {deadline : ℚ}
    {attemptNumber : Nat} :
    SameAttempts ledger
      (model.settle call script attempt startedAt deadline attemptNumber ledger).1 := by
  unfold AccountedModel.settle
  split
  · exact buildAndComplete_same
  · exact failAttempt_same
  · exact failAttempt_same
  · exact raiseFailure_same
  · exact raiseFailure_same
  next result answered =>
    split
    · exact raiseFailure_same
    split
    · exact .refl ledger
    next cost priced =>
      have built : SameAttempts ledger (buildAndComplete script attempt startedAt
          (succeededOutcome script.traceIds result cost) ledger).1 := buildAndComplete_same
      split
      next later failure same =>
        rw [same] at built
        exact built
      next later same =>
        rw [same] at built
        exact built

/-- What follows a prepared record makes no other. -/
theorem callAdapter_same {model : AccountedModel} {call : ModelCall R V} {deadline : ℚ}
    {attemptNumber : Nat} :
    SameAttempts ledger
      (model.callAdapter call script attempt deadline attemptNumber ledger).1 := by
  unfold AccountedModel.callAdapter
  split
  · exact .refl ledger
  split
  · exact .refl ledger
  split
  · exact raiseFailure_same
  · refine SameAttempts.trans ?_ settle_same
    exact ⟨rfl, fun _ => rfl⟩

theorem prepare_length {reachable authorized : Bool}
    (prepared : ledger.prepare reachable authorized attempt = .ok later)
    (workspace : attempt.workspaceId = workspaceId) (run : attempt.runId = some runId) :
    (later.ofRun workspaceId runId).length = (ledger.ofRun workspaceId runId).length + 1 := by
  unfold InvocationLedger.prepare at prepared
  split at prepared
  · cases prepared
  split at prepared
  · cases prepared
  split at prepared
  · cases prepared
  next absent =>
  cases prepared
  rw [length_ofRun, length_ofRun, InvocationLedger.put, Table.put_keys_of_absent _ _ absent,
    List.countP_append]
  refine congrArg₂ (· + ·) (List.countP_congr fun k present => ?_) ?_
  · have other : k ≠ attempt.invocationId := by
      rintro rfl
      rw [(ledger.rows.mem_keys _), absent] at present
      cases present
    rw [Table.put_get_of_ne _ _ other]
  · simp [LLMInvocation.ofRun, workspace, run]

theorem recordPrepare_takes : (∃ later, recordPrepare script attempt ledger = .ok later) ↔
    script.prepareReachable = true ∧ script.authorized = true ∧
      ledger.rows.get attempt.invocationId = none := by
  unfold recordPrepare InvocationLedger.prepare
  cases script.prepareReachable <;> cases script.authorized <;>
    cases ledger.rows.get attempt.invocationId <;> simp

/-- What a turn looks at before its record is all that decides it. -/
theorem openAttempt_opens {model : AccountedModel} {call : ModelCall R V} {deadline : ℚ} :
    (∃ opened, model.openAttempt call deadline script ledger = .ok opened) ↔
      model.opens call deadline script ledger := by
  unfold AccountedModel.openAttempt AccountedModel.opens remainingUntil clockValue
  cases script.headReading with
  | none => simp [Except.map]
  | some now =>
    cases script.invocationId with
    | none => by_cases late : deadline - now ≤ 0 <;> simp [Except.map, late]
    | some invocationId =>
      have named : (model.newAttempt call invocationId).invocationId = invocationId := rfl
      have recorded : (∃ later, recordPrepare script (model.newAttempt call invocationId) ledger =
        .ok later) ↔ _ := recordPrepare_takes
      rw [named] at recorded
      by_cases late : deadline - now ≤ 0
      · simp [Except.map, late, sub_nonpos.mp late]
      · have inTime : now < deadline := by linarith
        cases valid : (model.newAttempt call invocationId).valid with
        | false => simp [Except.map, late, valid]
        | true =>
          simp only [Except.map, if_neg late, valid, Bool.not_true, Bool.false_eq_true, if_false,
            Option.some.injEq, exists_eq_left', true_and, inTime, ← recorded]
          cases recordPrepare script (model.newAttempt call invocationId) ledger <;> simp

/-- Opening an attempt adds its row to the run. -/
theorem openAttempt_length {model : AccountedModel} {call : ModelCall R V} {deadline : ℚ}
    (opened : model.openAttempt call deadline script ledger = .ok (later, attempt))
    (workspace : model.context.workspaceId = workspaceId)
    (run : model.context.runId = some runId) :
    (later.ofRun workspaceId runId).length = (ledger.ofRun workspaceId runId).length + 1 := by
  unfold AccountedModel.openAttempt at opened
  split at opened
  · cases opened
  split at opened
  · cases opened
  split at opened
  · cases opened
  split at opened
  · cases opened
  next invocationId _ _ =>
  unfold recordPrepare at opened
  cases reached : ledger.prepare script.prepareReachable script.authorized
      (model.newAttempt call invocationId) with
  | ok prepared =>
    rw [reached] at opened
    cases opened
    exact prepare_length reached workspace run
  | error reason =>
    rw [reached] at opened
    cases reason <;> cases opened

/-- Another run's row adds none. -/
theorem elsewhere_length {row : LLMInvocation} {k : UUID} (absent : ledger.rows.get k = none)
    (other : row.ofRun workspaceId runId = false) :
    (InvocationLedger.ofRun { ledger with rows := ledger.rows.put k row } workspaceId
      runId).length = (ledger.ofRun workspaceId runId).length := by
  rw [length_ofRun, length_ofRun, Table.put_keys_of_absent _ _ absent, List.countP_append]
  have alone : List.countP (fun j => ((ledger.rows.put k row).get j).any
      (LLMInvocation.ofRun workspaceId runId)) [k] = 0 := by
    simp [other]
  rw [alone, Nat.add_zero]
  refine List.countP_congr fun j present => ?_
  have different : j ≠ k := by
    rintro rfl
    rw [(ledger.rows.mem_keys _), absent] at present
    cases present
  rw [Table.put_get_of_ne _ _ different]

end Attempts

/-! ## Tool calls -/

section Tools
variable {registry : ToolRegistry J O} {ledger later : ToolLedger} {world : ToolWorld J O}
  {execution : ToolExecution J O} {executionId invocationId : UUID}

theorem startAttempt_keys {reachable authorized : Bool} {attempt : Nat}
    (started : ledger.startAttempt reachable authorized invocationId attempt = .ok later) :
    later.rows.keys = ledger.rows.keys := by
  unfold ToolLedger.startAttempt at started
  split at started
  · cases started
  split at started
  · cases started
  split at started
  · cases started
  next row stored =>
  dsimp only at started
  generalize (if attempt = 1 then ToolInvocationStatus.prepared
    else ToolInvocationStatus.executing) = expectedStatus at started
  split at started
  · cases started
    exact Table.put_keys_of_present _ _ (by rw [stored]; rfl)
  split at started
  · cases started
    rfl
  · cases started

theorem finish_keys {reachable : Bool} {latencyMs : Nat} {record : TerminalRecord}
    (finished : ledger.finish reachable invocationId latencyMs record = .ok later) :
    later.rows.keys = ledger.rows.keys := by
  unfold ToolLedger.finish at finished
  split at finished
  · cases finished
  split at finished
  · cases finished
  next row stored =>
  split at finished
  · cases finished
    exact Table.put_keys_of_present _ _ (by rw [stored]; rfl)
  · cases finished

theorem recordFailure_keys {category : String} {inputs : FinishInputs}
    (recorded : recordFailure execution category inputs ledger = .ok later) :
    later.rows.keys = ledger.rows.keys := by
  unfold recordFailure at recorded
  split at recorded
  · cases recorded
  split at recorded
  next finished =>
    cases recorded
    exact finish_keys finished
  all_goals cases recorded

theorem recordSuccess_keys {text : CodePoints} {inputs : FinishInputs}
    (recorded : recordSuccess registry execution text inputs ledger = .ok later) :
    later.rows.keys = ledger.rows.keys := by
  unfold recordSuccess at recorded
  split at recorded
  · cases recorded
  split at recorded
  next finished =>
    cases recorded
    exact finish_keys finished
  all_goals cases recorded

theorem settle_keys {attempt : Nat} {limits : Bool} {exception : AttemptException}
    {inputs : FinishInputs} :
    (world.settle executionId execution attempt limits exception inputs).ledger.rows.keys =
      world.ledger.rows.keys := by
  have noted : (if exception.observes limits then
      world.ledger.note (.observed execution.reservation.invocationId)
      else world.ledger).rows.keys = world.ledger.rows.keys := by
    split
    · rfl
    · rfl
  unfold ToolWorld.settle
  dsimp only
  split
  · exact noted
  · exact noted
  · split
    next recorded => exact (recordFailure_keys recorded).trans noted
    · exact noted

theorem startTool_keys {inputs : StartInputs} :
    (stepTools registry world (.startAttempt executionId inputs)).1.ledger.rows.keys =
      world.ledger.rows.keys := by
  unfold stepTools
  dsimp only
  split
  · split
    · unfold ToolWorld.startAttempt
      split
      · exact settle_keys
      split
      · exact settle_keys
      dsimp only
      split
      · exact settle_keys
      · exact settle_keys
      · exact settle_keys
      next started =>
        have kept := startAttempt_keys started
        exact kept
    · rfl
    · rfl
  · rfl

theorem answerTool_keys {answer : HandlerAnswer O} {inputs : FinishInputs} :
    (stepTools registry world (.answer executionId answer inputs)).1.ledger.rows.keys =
      world.ledger.rows.keys := by
  unfold stepTools
  dsimp only
  split
  · split
    · unfold ToolWorld.finishAttempt
      split
      · exact settle_keys
      split
      · rfl
      · split
        next recorded => exact recordFailure_keys recorded
        · rfl
      · split
        next recorded => exact recordSuccess_keys recorded
        · rfl
    · rfl
    · rfl
  · rfl

/-- `execute` gets as far as its row: the call is valid, in time and not cancelled, and the
recorder takes the row of a new call. -/
def ToolRegistry.reserves (registry : ToolRegistry J O) (context : ToolRunContext)
    (call : ModelToolCall J) (inputs : ReserveInputs) (ledger : ToolLedger) : Prop :=
  inputs.cancelled = some false ∧
  (∃ now, inputs.reading = some now ∧ now < context.deadline) ∧
  ∃ spec, validatedCall registry context.policy call = .ok spec ∧
    (registry.argsDigest call.arguments).isSome = true ∧ inputs.reachable = true ∧
    inputs.authorized = true ∧ ledger.rows.keys.length < spec.perRunCallLimit ∧
    ∃ invocationId, inputs.invocationId = some invocationId ∧
      ledger.rows.get invocationId = none

/-- A reservation adds one row. -/
theorem reserve_length {reachable authorized : Bool} {actorUserId : UUID} {toolName : String}
    {effect : ToolEffect} {argsDigest : String} {callLimit : Nat}
    {reservation : ToolInvocationReservation}
    (reserved : ledger.reserve reachable authorized invocationId actorUserId toolName effect
      argsDigest callLimit = .ok (later, reservation)) :
    later.rows.keys.length = ledger.rows.keys.length + 1 := by
  unfold ToolLedger.reserve at reserved
  split at reserved
  · cases reserved
  split at reserved
  · cases reserved
  dsimp only at reserved
  split at reserved
  · cases reserved
  split at reserved
  · cases reserved
  next absent =>
  cases reserved
  rw [ToolLedger.put, Table.put_keys_of_absent _ _ (Option.not_isSome_iff_eq_none.mp absent),
    List.length_append, List.length_singleton]

/-- What the recorder looks at is all that decides a reservation. -/
theorem reserveCall_takes {context : ToolRunContext} {spec : ToolSpec J O} {call : ModelToolCall J}
    {inputs : ReserveInputs} :
    (∃ reserved, reserveCall registry context spec call inputs ledger = .ok reserved) ↔
      (registry.argsDigest call.arguments).isSome = true ∧ inputs.reachable = true ∧
        inputs.authorized = true ∧ ledger.rows.keys.length < spec.perRunCallLimit ∧
        ∃ invocationId, inputs.invocationId = some invocationId ∧
          ledger.rows.get invocationId = none := by
  unfold reserveCall ToolLedger.reserve
  cases inputs.invocationId with
  | none => simp
  | some invocationId =>
    cases registry.argsDigest call.arguments with
    | none => simp
    | some argsDigest =>
      cases inputs.reachable <;> cases inputs.authorized <;>
        by_cases full : spec.perRunCallLimit ≤ ledger.rows.keys.length <;>
        cases taken : ledger.rows.get invocationId <;> simp [full, taken, Nat.lt_of_not_le]

theorem execute_counts {context : ToolRunContext} {call : ModelToolCall J}
    {inputs : ReserveInputs} (fresh : world.executions.get executionId = none) :
    Counts (registry.reserves context call inputs world.ledger) world.ledger.rows.keys.length
      (stepTools registry world (.execute executionId context call inputs)).1.ledger.rows.keys.length
    := by
  unfold stepTools beginExecution
  simp only [fresh, Option.isSome_none, Bool.false_eq_true, if_false]
  split
  next failure refused =>
    refine .none fun ⟨_, _, spec, valid, _⟩ => ?_
    cases refused.symm.trans valid
  next spec valid =>
  split
  next failure stopped =>
    refine .none fun ⟨running, _⟩ => ?_
    rw [running] at stopped
    cases stopped
  next stopped =>
  split
  next failure late =>
    refine .none fun ⟨_, ⟨now, read, inTime⟩, _⟩ => ?_
    rw [remainingTime, read] at late
    simp [toolClockValue, not_le.mpr inTime] at late
  next remaining inTime =>
  split
  next failure refused =>
    refine .none fun ⟨_, _, other, there, taken⟩ => ?_
    cases valid.symm.trans there
    obtain ⟨reserved, took⟩ := reserveCall_takes.mpr taken
    cases refused.symm.trans took
  next later reservation reserved =>
  have length : later.rows.keys.length = world.ledger.rows.keys.length + 1 := by
    unfold reserveCall at reserved
    split at reserved
    · cases reserved
    split at reserved
    · cases reserved
    split at reserved
    next inserted =>
      cases reserved
      exact reserve_length inserted
    all_goals cases reserved
  have taken : registry.reserves context call inputs world.ledger := by
    refine ⟨?_, ?_, spec, valid, reserveCall_takes.mp ⟨_, reserved⟩⟩
    · cases cancelled : inputs.cancelled with
      | none => simp [raiseIfCancelled, cancelled] at stopped
      | some cancel => cases cancel <;> simp_all [raiseIfCancelled]
    · unfold remainingTime at inTime
      cases read : inputs.reading with
      | none => simp [toolClockValue, read] at inTime
      | some now =>
        simp only [toolClockValue, read] at inTime
        split at inTime
        · cases inTime
        next early => exact ⟨now, rfl, by linarith⟩
  split
  · exact .inl ⟨taken, length⟩
  · exact .inl ⟨taken, length⟩

end Tools

/-! ## Workers -/

/-- A material search that is under way still fits into the loop's tool calls. -/
def CallSite.Within (budget : RunBudget) (loop : ModelLoop A) : CallSite J → Prop
  | .chat => True
  | .embedding rest _ => loop.toolCalls + 1 + rest.length ≤ budget.maxToolCalls

/-- What a phase has been allowed fits into the budget. -/
def WorkerPhase.Within (budget : RunBudget) : WorkerPhase J V X A → Prop
  | .admitted _ seen => seen < budget.maxModelCalls
  | .preparing loop pending | .awaiting loop pending _ => pending.site.Within budget loop
  | .calling loop _ rest | .executing loop rest _ _ =>
    loop.toolCalls + 1 + rest.length ≤ budget.maxToolCalls
  | .spending _ | .repairing _ _ | .ended _ => True

/-- The model invocations and the tool calls the run has recorded. -/
def ResumeRunWorld.attempts (cfg : ResumeRunConfig J O V X A S P M T)
    (world : ResumeRunWorld J O V X A) : Nat := (world.invocations cfg).length

def ResumeRunWorld.toolCalls (world : ResumeRunWorld J O V X A) : Nat :=
  world.tools.ledger.rows.keys.length

/-- `invoke` and `embed` get as far as the record of their first attempt. -/
def ResumeRunWorld.opensCall (cfg : ResumeRunConfig J O V X A S P M T)
    (world : ResumeRunWorld J O V X A) (request : ModelRequest M T) (reading : Option ℚ)
    (script : AttemptScript (ChatReply J X) V) : Prop :=
  ∃ call now, request.call cfg.chars cfg.hashing cfg.provider = .ok call ∧ reading = some now ∧
    cfg.model.opens call (now + cfg.retryPolicy.deadlineSeconds) script world.llm

/-- The worker is at the call of a model, and the step opens an attempt of it. -/
def ResumeWorker.opensAttempt (cfg : ResumeRunConfig J O V X A S P M T)
    (world : ResumeRunWorld J O V X A) (self : ResumeWorker J V X A) :
    ResumeRunOp J O V X M T → Prop
  | .invoke _ messages tools reading script =>
    match self.phase with
    | .admitted loop _ => world.opensCall cfg
        (.chat messages tools (loop.stage.metadata cfg.promptVersion)) reading script
    | _ => False
  | .retry _ script =>
    match self.phase with
    | .preparing _ pending => cfg.model.opens pending.call pending.deadline script world.llm
    | _ => False
  | .embed _ query reading script =>
    match self.phase with
    | .executing _ _ executionId false =>
      world.handles executionId = some "retrieve_project_material" ∧
        world.opensCall cfg (.embedding [query] [("graph_node", "document_retrieval")]) reading
          script
    | _ => False
  | _ => False

/-- The worker is at the next tool call of an answer, and the step reserves it. -/
def ResumeWorker.reservesCall (cfg : ResumeRunConfig J O V X A S P M T)
    (world : ResumeRunWorld J O V X A) (self : ResumeWorker J V X A) :
    ResumeRunOp J O V X M T → Prop
  | .execute _ executionId isPrivate inputs =>
    match self.phase, cfg.registry with
    | .calling _ call _, some registry =>
      isPrivate = true ∧ world.tools.executions.get executionId = none ∧
        registry.reserves ⟨cfg.actorUserId, self.toolDeadline, cfg.policy⟩ call inputs
          world.tools.ledger
    | _, _ => False
  | _ => False

/-- What the step of a worker does: it goes on, and records an attempt and a tool call exactly
where it `opens` and `reserves` one. -/
structure WorkerMoves (cfg : ResumeRunConfig J O V X A S P M T) (worker : UUID)
    (opens reserves : Prop) (world after : ResumeRunWorld J O V X A) : Prop where
  others : ∀ other, other ≠ worker → after.workers.get other = world.workers.get other
  within : ∀ self, after.workers.get worker = some self → self.phase.Within cfg.budget
  attempts : Counts opens (world.attempts cfg) (after.attempts cfg)
  toolCalls : Counts reserves world.toolCalls after.toolCalls

section Moves
variable {cfg : ResumeRunConfig J O V X A S P M T} {world middle : ResumeRunWorld J O V X A}
  {worker : UUID} {self : ResumeWorker J V X A} {loop : ModelLoop A} {opens reserves : Prop}

theorem stay_moves (stored : world.workers.get worker = some self)
    (within : self.phase.Within cfg.budget) (unopened : ¬ opens) (unreserved : ¬ reserves) :
    WorkerMoves cfg worker opens reserves world world := by
  refine ⟨fun _ _ => rfl, fun other found => ?_, .none unopened, .none unreserved⟩
  rw [stored] at found
  exact Option.some.inj found ▸ within

/-- A worker goes on behind what its step has written. -/
theorem enter_moves {phase : WorkerPhase J V X A} (within : phase.Within cfg.budget)
    (workers : middle.workers = world.workers)
    (attempts : Counts opens (world.attempts cfg) (middle.attempts cfg))
    (toolCalls : Counts reserves world.toolCalls middle.toolCalls) :
    WorkerMoves cfg worker opens reserves world (middle.enter worker self phase) := by
  refine ⟨fun other different => ?_, fun entered found => ?_, attempts, toolCalls⟩
  · rw [ResumeRunWorld.enter, Table.put_get_of_ne _ _ different, workers]
  · rw [ResumeRunWorld.enter, Table.put_get_self] at found
    cases found
    exact within

/-- A worker goes on and writes nothing. -/
theorem go_moves {phase : WorkerPhase J V X A} (within : phase.Within cfg.budget)
    (unopened : ¬ opens) (unreserved : ¬ reserves) :
    WorkerMoves cfg worker opens reserves world (world.enter worker self phase) :=
  enter_moves within rfl (.none unopened) (.none unreserved)

theorem callFailed_within {site : CallSite J} {failure : LLMFailure}
    (within : site.Within cfg.budget loop) :
    (ResumeRunWorld.callFailed loop failure site : WorkerPhase J V X A).Within cfg.budget := by
  cases site with
  | chat => trivial
  | embedding rest executionId => exact within

theorem graphPhase_within (next : GraphNext A) :
    (ResumeRunWorld.graphPhase next : WorkerPhase J V X A).Within cfg.budget := by
  cases next with
  | call stage => trivial
  | repair granted refused => trivial
  | ends result => trivial

theorem received_within (reply : ChatReply J X) :
    (ResumeRunWorld.received cfg loop reply : WorkerPhase J V X A).Within cfg.budget := by
  unfold ResumeRunWorld.received
  split
  · exact graphPhase_within _
  · trivial
  next call rest received =>
    obtain ⟨limit, bound, fits⟩ := ModelLoop.receive_tools received
    obtain ⟨registry, -, same⟩ := Option.map_eq_some_iff.mp bound
    rw [← same, List.length_cons] at fits
    simp only [WorkerPhase.Within]
    omega

theorem returned_within {site : CallSite J} {result : ModelResult (ChatReply J X) V}
    (within : site.Within cfg.budget loop) :
    (ResumeRunWorld.returned cfg loop result site).Within cfg.budget := by
  cases site with
  | embedding rest executionId => exact within
  | chat =>
    unfold ResumeRunWorld.returned
    dsimp only
    split
    · exact received_within _
    · trivial

theorem openCall_moves {pending : PendingCall J V X}
    {script : AttemptScript (ChatReply J X) V} (within : pending.site.Within cfg.budget loop)
    (unreserved : ¬ reserves) :
    WorkerMoves cfg worker (cfg.model.opens pending.call pending.deadline script world.llm)
      reserves world (world.openCall cfg worker self loop pending script) := by
  unfold ResumeRunWorld.openCall
  split
  next failure refused =>
    refine go_moves (callFailed_within within) (fun opens => ?_) unreserved
    obtain ⟨opened, given⟩ := openAttempt_opens.mpr opens
    cases refused.symm.trans given
  next opened attempt recorded =>
    exact enter_moves within rfl
      (.inl ⟨openAttempt_opens.mp ⟨_, recorded⟩, openAttempt_length recorded rfl rfl⟩)
      (.none unreserved)

theorem beginCall_moves {site : CallSite J} {request : ModelRequest M T} {reading : Option ℚ}
    {script : AttemptScript (ChatReply J X) V} (within : site.Within cfg.budget loop)
    (unreserved : ¬ reserves) :
    WorkerMoves cfg worker (world.opensCall cfg request reading script) reserves world
      (world.beginCall cfg worker self loop site request reading script) := by
  unfold ResumeRunWorld.beginCall
  split
  next failure refused =>
    refine go_moves (callFailed_within within) (fun ⟨call, _, valid, _⟩ => ?_) unreserved
    cases refused.symm.trans valid
  next call valid =>
  cases reading with
  | none =>
    refine go_moves (callFailed_within within) (fun ⟨_, _, _, read, _⟩ => ?_) unreserved
    cases read
  | some now =>
    have same : world.opensCall cfg request (some now) script ↔
        cfg.model.opens call (now + cfg.retryPolicy.deadlineSeconds) script world.llm := by
      unfold ResumeRunWorld.opensCall
      rw [valid]
      constructor
      · rintro ⟨_, _, ⟨⟩, ⟨⟩, opens⟩
        exact opens
      · exact fun opens => ⟨call, now, rfl, rfl, opens⟩
    have pending : (PendingCall.mk site call 1
        (now + cfg.retryPolicy.deadlineSeconds)).site.Within cfg.budget loop := within
    simp only [clockValue, same]
    exact openCall_moves pending unreserved

theorem closeCall_moves {pending : PendingCall J V X} {attempt : LLMInvocationAttempt}
    {script : AttemptScript (ChatReply J X) V} (within : pending.site.Within cfg.budget loop)
    (unopened : ¬ opens) (unreserved : ¬ reserves) :
    WorkerMoves cfg worker opens reserves world
      (world.closeCall cfg worker self loop pending attempt script) := by
  have same : SameAttempts world.llm (cfg.model.callAdapter pending.call script attempt
      pending.deadline pending.number world.llm).1 := callAdapter_same
  have counted (closed : InvocationLedger (ChatReply J X) V)
      (settled : SameAttempts world.llm closed) :
      Counts opens (world.attempts cfg)
        (ResumeRunWorld.attempts cfg { world with llm := closed }) :=
    .inr ⟨unopened, settled.length⟩
  unfold ResumeRunWorld.closeCall
  split
  next closed failure called =>
    rw [called] at same
    exact enter_moves (callFailed_within within) rfl (counted closed same) (.none unreserved)
  next closed called =>
    rw [called] at same
    exact enter_moves within rfl (counted closed same) (.none unreserved)
  next closed result called =>
    rw [called] at same
    exact enter_moves (returned_within within) rfl (counted closed same) (.none unreserved)

theorem collect_moves {tools : ToolWorld J O} {rest : List (ModelToolCall J)} {executionId : UUID}
    {embedded : Bool} (within : loop.toolCalls + 1 + rest.length ≤ cfg.budget.maxToolCalls)
    (kept : tools.ledger.rows.keys = world.tools.ledger.rows.keys) (unopened : ¬ opens)
    (unreserved : ¬ reserves) :
    WorkerMoves cfg worker opens reserves world
      ({ world with tools := tools }.collect worker self loop rest executionId embedded) := by
  have toolCalls : Counts reserves world.toolCalls
      (ResumeRunWorld.toolCalls { world with tools := tools }) :=
    .inr ⟨unreserved, congrArg List.length kept⟩
  unfold ResumeRunWorld.collect
  split
  · split
    · exact enter_moves trivial rfl (.none unopened) toolCalls
    next call rest =>
      refine enter_moves ?_ rfl (.none unopened) toolCalls
      simp only [List.length_cons] at within
      simp only [WorkerPhase.Within]
      omega
  · exact enter_moves trivial rfl (.none unopened) toolCalls
  · exact enter_moves within rfl (.none unopened) toolCalls

theorem reserveTool_moves {registry : ToolRegistry J O} {call : ModelToolCall J}
    {rest : List (ModelToolCall J)} {executionId : UUID} {inputs : ReserveInputs}
    (within : loop.toolCalls + 1 + rest.length ≤ cfg.budget.maxToolCalls)
    (fresh : world.tools.executions.get executionId = none) (unopened : ¬ opens) :
    WorkerMoves cfg worker opens
      (registry.reserves ⟨cfg.actorUserId, self.toolDeadline, cfg.policy⟩ call inputs
        world.tools.ledger) world
      (world.reserveTool cfg worker self registry loop call rest executionId inputs) := by
  have counted : Counts (registry.reserves
      ⟨cfg.actorUserId, self.toolDeadline, cfg.policy⟩ call inputs _) _ _ := execute_counts fresh
  unfold ResumeRunWorld.reserveTool
  split
  next tools failure called =>
    rw [called] at counted
    exact enter_moves trivial rfl (.none unopened) counted
  next tools called =>
    rw [called] at counted
    exact enter_moves within rfl (.none unopened) counted

end Moves

/-! ## Steps -/

section Steps
variable {cfg : ResumeRunConfig J O V X A S P M T} {world : ResumeRunWorld J O V X A}
  {worker : UUID} {self : ResumeWorker J V X A}

theorem stepWorker_moves (stored : world.workers.get worker = some self)
    (within : self.phase.Within cfg.budget) (op : ResumeRunOp J O V X M T) :
    WorkerMoves cfg worker (self.opensAttempt cfg world op) (self.reservesCall cfg world op)
      world (stepWorker cfg world worker self op) := by
  have stay {opens reserves : Prop} (unopened : ¬ opens) (unreserved : ¬ reserves) :
      WorkerMoves cfg worker opens reserves world world :=
    stay_moves stored within unopened unreserved
  cases op with
  | spend worker permitted isPrivate =>
    simp only [stepWorker]
    split
    next loop spending =>
      split
      · exact go_moves trivial id id
      split
      · exact go_moves trivial id id
      next affordable =>
      split
      · exact go_moves trivial id id
      simp only [Bool.not_eq_true, Bool.not_eq_false', spendAllowed] at affordable
      split at affordable
      · cases affordable
      have below : (world.invocations cfg).length < cfg.budget.maxModelCalls :=
        of_decide_eq_true ((Bool.and_eq_true _ _).mp affordable).1
      exact go_moves below id id
    · exact stay id id
  | invoke worker messages tools reading script =>
    cases phase : self.phase with
    | admitted loop seen =>
      simp only [stepWorker, ResumeWorker.opensAttempt, phase]
      exact beginCall_moves trivial id
    | _ =>
      simp only [stepWorker, ResumeWorker.opensAttempt, phase]
      exact stay id id
  | retry worker script =>
    cases phase : self.phase with
    | preparing loop pending =>
      rw [phase] at within
      simp only [stepWorker, ResumeWorker.opensAttempt, phase]
      exact openCall_moves within id
    | _ =>
      simp only [stepWorker, ResumeWorker.opensAttempt, phase]
      exact stay id id
  | answer worker script =>
    simp only [stepWorker]
    split
    next loop pending attempt awaiting =>
      rw [awaiting] at within
      exact closeCall_moves within id id
    · exact stay id id
  | repair worker permitted =>
    simp only [stepWorker]
    split
    · split
      · exact go_moves trivial id id
      split
      · exact enter_moves trivial rfl (.none id) (.none id)
      · exact go_moves trivial id id
    · exact stay id id
  | execute worker executionId isPrivate inputs =>
    cases phase : self.phase with
    | calling loop call rest =>
      cases declared : cfg.registry with
      | none =>
        simp only [stepWorker, ResumeWorker.reservesCall, phase, declared]
        exact stay id id
      | some registry =>
        rw [phase] at within
        simp only [stepWorker, ResumeWorker.reservesCall, phase, declared]
        cases isPrivate with
        | false => exact go_moves trivial id fun reserves => nomatch reserves.1
        | true =>
          cases there : world.tools.executions.get executionId with
          | some execution =>
            simp only [Bool.not_true, Bool.false_eq_true, if_false, Option.isSome_some, if_true]
            exact stay id fun reserves => nomatch reserves.2.1
          | none =>
            simp only [Bool.not_true, Bool.false_eq_true, if_false, Option.isSome_none, true_and]
            exact reserveTool_moves within there id
    | _ =>
      simp only [stepWorker, ResumeWorker.reservesCall, phase]
      exact stay id id
  | startTool worker inputs =>
    simp only [stepWorker]
    split
    next loop rest executionId embedded registry executing declared =>
      rw [executing] at within
      exact collect_moves within startTool_keys id id
    · exact stay id id
  | embed worker query reading script =>
    cases phase : self.phase with
    | executing loop rest executionId embedded =>
      rw [phase] at within
      cases embedded with
      | true =>
        simp only [stepWorker, ResumeWorker.opensAttempt, phase]
        exact stay id id
      | false =>
        simp only [stepWorker, ResumeWorker.opensAttempt, phase]
        by_cases handles : world.handles executionId = some "retrieve_project_material"
        · simp only [handles, if_true, true_and]
          exact beginCall_moves within id
        · rw [if_neg handles]
          exact stay (fun opens => handles opens.1) id
    | _ =>
      simp only [stepWorker, ResumeWorker.opensAttempt, phase]
      exact stay id id
  | answerTool worker answer inputs =>
    simp only [stepWorker]
    split
    next loop rest executionId embedded registry executing declared =>
      rw [executing] at within
      exact collect_moves within answerTool_keys id id
    · exact stay id id
  | start worker toolDeadline => exact stay id id
  | publish => exact stay id id
  | elsewhere invocationId row => exact stay id id

end Steps

end Pathfinder
