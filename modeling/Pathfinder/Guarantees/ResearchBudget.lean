import Pathfinder.Agents.LoopInvariant
import Pathfinder.Agents.ResearchExecution
import Pathfinder.Guarantees.ResearchGrounding

/-!
# The tool calls of a research run

A run has one limit of tool calls, and executions of it may end at any moment. What a pass has
called and no checkpoint knows of is in the rows of `tool_invocations`: an execution takes those
calls off its limits, a pass takes off those that the checkpoint has, and the two never overlap.
-/
namespace Pathfinder
open JsonTexts Conditional Machines

/-! ## The rows of a loop -/

section Loop
variable {J : Type} {setup : LoopSetup J} {state : LoopState J}

theorem LoopState.runModel_executes (before preflight after : Boundary)
    (response : Except AgentLoopError (ChatResponse J)) :
    (state.runModel setup before preflight after response).executions = state.executions ∧
      (state.runModel setup before preflight after response).tracker.toolResultCount =
        state.tracker.toolResultCount := by
  have finished (loop : LoopState J) (shown : ChatResponse J) :
      (loop.finish after shown).executions = loop.executions ∧
        (loop.finish after shown).tracker = loop.tracker := by
    unfold LoopState.finish
    repeat' split
    all_goals exact ⟨rfl, rfl⟩
  unfold LoopState.runModel
  split
  · exact ⟨rfl, rfl⟩
  next tracker began =>
  obtain ⟨-, -, rfl⟩ := Tracker.beginModel_ok began
  dsimp only
  split
  · exact ⟨rfl, rfl⟩
  · exact ⟨rfl, rfl⟩
  next response _ =>
  split
  · exact ⟨rfl, rfl⟩
  next shown tracker accepted =>
  have kept : tracker.toolResultCount = state.tracker.toolResultCount := by
    obtain ⟨-, rfl⟩ | ⟨-, -, -, -, -, -, -, rfl⟩ := LoopSetup.acceptedResponse_ok accepted <;> rfl
  split
  · obtain ⟨executions, same⟩ := finished _ shown
    exact ⟨executions, (congrArg Tracker.toolResultCount same).trans kept⟩
  · exact ⟨rfl, kept⟩

theorem LoopState.runTool_executes (index : Nat) (before entry : Boundary)
    (result : Except AgentLoopError String) (observed : Bool) :
    let after := state.runTool index before entry result observed
    (after.executions = state.executions ∧
        after.tracker.toolResultCount = state.tracker.toolResultCount) ∨
      ∃ task, after.executions = state.executions ++ [task] ∧
        (after.tracker.toolResultCount = state.tracker.toolResultCount ∨
          (LoopEvent.tool (J := J) index before entry result observed).succeeded = true ∧
            after.tracker.toolResultCount = state.tracker.toolResultCount + 1) := by
  dsimp only
  unfold LoopState.runTool
  split
  · exact .inl ⟨rfl, rfl⟩
  next task found =>
  dsimp only
  split
  · exact .inl ⟨rfl, rfl⟩
  next ordinal located =>
  split
  · exact .inl ⟨rfl, rfl⟩
  split
  · exact .inl ⟨rfl, rfl⟩
  split
  · exact .inl ⟨rfl, rfl⟩
  next tracker begun =>
  have counted : tracker.toolResultCount = state.tracker.toolResultCount := by
    obtain ⟨_, -, began⟩ := bind_ok.mp begun
    cases began
    rfl
  split
  · exact .inl ⟨rfl, counted⟩
  split
  · exact .inr ⟨task, rfl, .inl counted⟩
  next content =>
  split
  · exact .inr ⟨task, rfl, .inl counted⟩
  have completed : (tracker.completeTool ordinal).toolResultCount =
      state.tracker.toolResultCount + 1 := by
    rw [(Tracker.completeTool_frame tracker ordinal).2.2.2.1, counted]
  repeat' split
  all_goals exact .inr ⟨task, rfl, .inr ⟨rfl, completed⟩⟩

/-- A moment executes at most one call, and completes one only where it executes it. -/
theorem LoopState.next_executes (setup : LoopSetup J) (state : LoopState J) (event : LoopEvent J) :
    ((state.next setup event).executions = state.executions ∧
        (state.next setup event).tracker.toolResultCount = state.tracker.toolResultCount) ∨
      ∃ task, (state.next setup event).executions = state.executions ++ [task] ∧
        ((state.next setup event).tracker.toolResultCount = state.tracker.toolResultCount ∨
          event.succeeded = true ∧
            (state.next setup event).tracker.toolResultCount =
              state.tracker.toolResultCount + 1) := by
  cases event with
  | model before preflight after response =>
    simp only [LoopState.next]
    split
    · exact .inl ⟨rfl, rfl⟩
    · exact .inl (state.runModel_executes before preflight after response)
  | tool index before entry result observed =>
    exact state.runTool_executes index before entry result observed
  | dropped index =>
    simp only [LoopState.next]
    split
    · exact .inl ⟨rfl, rfl⟩
    · exact .inl ⟨rfl, rfl⟩
  | interrupted error => exact .inl ⟨rfl, rfl⟩

end Loop

section Answers
variable {J : Type} {setup : LoopSetup J} {limits : AgentLoopLimits} {state : LoopState J}

/-- A loop that has its answer has a result for each of its calls. -/
def LoopState.Balanced (state : LoopState J) : Prop :=
  ∀ answer, state.outcome = some (.ok answer) →
    state.tracker.toolCallCount = state.tracker.toolResultCount

theorem LoopState.Balanced.raise (balanced : state.Balanced) (error : AgentLoopError) :
    (state.raise error).Balanced :=
  fun answer ended => balanced answer (LoopState.raise_ok ended)

theorem LoopState.balanced_running (running : state.outcome = none) : state.Balanced := by
  intro answer ended
  rw [running] at ended
  cases ended

theorem LoopState.raise_balanced (running : state.outcome = none) (error : AgentLoopError) :
    (state.raise error).Balanced :=
  (LoopState.balanced_running running).raise error

theorem LoopState.finish_balanced (running : state.outcome = none) (boundary : Boundary)
    (response : ChatResponse J) : (state.finish boundary response).Balanced := by
  unfold LoopState.finish
  split
  · exact LoopState.raise_balanced running _
  split
  · exact LoopState.raise_balanced running _
  split
  · exact LoopState.raise_balanced running _
  next equal =>
  split
  · exact LoopState.raise_balanced running _
  · exact fun _ _ => not_not.mp equal

theorem LoopState.runModel_balanced (running : state.outcome = none)
    (before preflight after : Boundary) (response : Except AgentLoopError (ChatResponse J)) :
    (state.runModel setup before preflight after response).Balanced := by
  unfold LoopState.runModel
  split
  · exact LoopState.raise_balanced running _
  dsimp only
  split
  · apply LoopState.raise_balanced
    exact running
  · apply LoopState.raise_balanced
    exact running
  split
  · apply LoopState.raise_balanced
    exact running
  split
  · apply LoopState.finish_balanced
    exact running
  · apply LoopState.balanced_running
    exact running

theorem ToolMove.answered {after : LoopState J} (move : ToolMove state after) {answer : String}
    (ended : after.outcome = some (.ok answer)) : state.outcome = some (.ok answer) := by
  cases move with
  | idle => exact ended
  | refused index error => exact LoopState.raise_ok ended
  | stopped index task turn counted once error => exact LoopState.raise_ok ended
  | failed index task turn error => exact LoopState.raise_ok ended
  | unobserved index task turn found error => exact LoopState.raise_ok ended
  | completed index task turn found => exact ended

/-- No task is left behind an answer, so nothing is called behind it. -/
theorem LoopState.Balanced.next (balanced : state.Balanced) (sound : state.Sound limits)
    (event : LoopEvent J) : (state.next setup event).Balanced := by
  cases event with
  | model before preflight after response =>
    simp only [LoopState.next]
    split
    · exact balanced
    next idle =>
    have running : state.outcome = none := by
      cases ended : state.outcome with
      | none => rfl
      | some outcome => simp [ended] at idle
    exact LoopState.runModel_balanced running before preflight after response
  | tool index before entry result observed =>
    intro answer ended
    have there := (state.runTool_moves index before entry result observed).answered ended
    have idle : state.runTool index before entry result observed = state := by
      unfold LoopState.runTool
      rw [(sound.answered answer there).1]
      rfl
    change (state.runTool index before entry result observed).tracker.toolCallCount =
      (state.runTool index before entry result observed).tracker.toolResultCount
    rw [idle]
    exact balanced answer there
  | dropped index =>
    simp only [LoopState.next]
    split
    · exact balanced.raise _
    · exact balanced
  | interrupted error => exact balanced.raise error

end Answers

/-- The rows of a loop: no fewer than its results, no more than its calls. -/
structure PassState.Counted (pass : PassState) : Prop where
  results : pass.loop.tracker.toolResultCount ≤ pass.rows
  executions : pass.rows ≤ pass.loop.executions.length
  balanced : pass.loop.Balanced

section Pass

theorem PassState.Counted.step {setup : LoopSetup Json} {limits : AgentLoopLimits}
    {pass : PassState} (counted : pass.Counted) (sound : pass.loop.Sound limits)
    (moment : PassMoment) :
    ((passLoop setup).step pass moment).1.Counted where
  balanced := counted.balanced.next sound moment.event
  results := by
    change (pass.loop.next setup moment.event).tracker.toolResultCount ≤ pass.rows +
      if moment.event.succeeded || moment.reserved then
        (pass.loop.next setup moment.event).executions.length - pass.loop.executions.length else 0
    have results := counted.results
    rcases pass.loop.next_executes setup moment.event with
      ⟨-, same⟩ | ⟨task, executed, same | ⟨succeeded, more⟩⟩
    · omega
    · omega
    · rw [succeeded, Bool.true_or, if_pos rfl, executed, List.length_append, List.length_singleton]
      omega
  executions := by
    change pass.rows + (if moment.event.succeeded || moment.reserved then
        (pass.loop.next setup moment.event).executions.length - pass.loop.executions.length
      else 0) ≤ (pass.loop.next setup moment.event).executions.length
    have executions := counted.executions
    rcases pass.loop.next_executes setup moment.event with
      ⟨same, -⟩ | ⟨task, executed, -⟩
    · rw [same]
      split <;> omega
    · rw [executed, List.length_append, List.length_singleton]
      split <;> omega

theorem passLoop_loop (setup : LoopSetup Json) (moments : List PassMoment) :
    ((passLoop setup).reached moments).loop =
      (agentLoop setup).reached (moments.map PassMoment.event) :=
  (passLoop setup).after_view PassState.loop PassMoment.event (fun _ _ => rfl) _ moments

theorem passLoop_counted (setup : LoopSetup Json) (moments : List PassMoment) :
    ((passLoop setup).reached moments).Counted := by
  induction moments using List.reverseRecOn with
  | nil => exact ⟨Nat.le_refl 0, Nat.le_refl 0, LoopState.balanced_running rfl⟩
  | append_singleton moments moment ih =>
    have sound : ((passLoop setup).reached moments).loop.Sound setup.limits := by
      rw [passLoop_loop]
      exact agentLoop_sound setup _
    rw [Machine.reached_snoc]
    exact ih.step sound moment

variable (limits : AgentLoopLimits) (validateCall : CallValidator Json) (moments : List PassMoment)

theorem passAfter_sound : (passAfter validateCall moments limits).loop.Sound limits := by
  rw [passAfter, passLoop_loop]
  exact agentLoop_sound { limits := limits, validateCall := validateCall, feedback := true } _

theorem passAfter_rows : (passAfter validateCall moments limits).rows ≤ limits.maxToolCalls := by
  have sound := passAfter_sound limits validateCall moments
  exact (passLoop_counted _ moments).executions.trans (sound.executed.trans sound.calls)

/-- A loop that returns its answer has a row for each call it counts. -/
theorem passAfter_returned {transcript kept : List ChatMessage} {category : String} {count : Nat}
    (returned : (passAfter validateCall moments limits).loop.answer transcript category =
      .returned kept count) : count = (passAfter validateCall moments limits).rows := by
  have counted := passLoop_counted
    { limits := limits, validateCall := validateCall, feedback := true } moments
  have sound := passAfter_sound limits validateCall moments
  unfold LoopState.answer at returned
  split at returned
  next answer ended =>
    cases returned
    have balanced := counted.balanced answer ended
    have results := counted.results
    have executions := counted.executions
    have executed := sound.executed
    change _ = ((passLoop _).reached moments).rows
    unfold passAfter at *
    omega
  · cases returned

end Pass

/-! ## The calls of a state -/

section Calls
variable {libraries : ResearchLibraries} {nodeInput : ResearchNodeInputV1}
  {output : ResearchNodeOutputV1} {state after : ResearchGraphState} {limits : AgentLoopLimits}
  {loop : AgentLoopLimits → LoopAnswer}

theorem researchPassControl_calls {passLimits : AgentLoopLimits}
    (allowed : researchPassControl nodeInput limits = .ok passLimits) :
    passLimits.maxToolCalls = limits.maxToolCalls -
      (nodeInput.existingSearchCalls.length + nodeInput.existingDocumentRetrievalCalls.length) := by
  unfold researchPassControl at allowed
  dsimp only at allowed
  split at allowed
  · cases allowed
  cases allowed
  exact Nat.min_eq_right (Nat.sub_le _ _)

/-- The fields that say whose run a state is of. -/
def ResearchGraphState.identity (state : ResearchGraphState) :=
  (state.schemaVersion, state.runId, state.workspaceId, state.actorUserId, state.conversationId,
    state.mode, state.resumeDocumentId, state.request)

theorem mergePass_frame {nextPass : Nat} (done : mergePass state nextPass output = .ok after) :
    after.identity = state.identity ∧ after.toolCalls = state.toolCalls +
      (output.searchCalls.length + output.documentRetrievalCalls.length) := by
  obtain ⟨sources, -, done⟩ := bind_ok.mp done
  obtain ⟨evidence, -, done⟩ := bind_ok.mp done
  obtain ⟨searchCalls, searched, done⟩ := bind_ok.mp done
  obtain ⟨_, -, done⟩ := bind_ok.mp done
  obtain ⟨documentSources, -, done⟩ := bind_ok.mp done
  obtain ⟨documentEvidence, -, done⟩ := bind_ok.mp done
  obtain ⟨documentCalls, retrieved, done⟩ := bind_ok.mp done
  cases done
  refine ⟨rfl, ?_⟩
  rw [ResearchGraphState.toolCalls, (mergeSearchCalls_ok searched).1,
    (mergeDocumentCalls_ok retrieved).1, List.length_append, List.length_append]
  change _ = state.searchCalls.length + state.documentRetrievalCalls.length + _
  omega

/-- A pass adds as many calls as its loop has counted. -/
theorem researchAgent_calls {run : ResearchRun}
    (done : researchAgent libraries limits loop run.state = .ok after) :
    after.identity = run.state.identity ∧
      ∃ passLimits transcript count, run.passLimits libraries limits = some passLimits ∧
        loop passLimits = .returned transcript count ∧
        after.toolCalls = run.state.toolCalls + count := by
  obtain ⟨checked, validated, done⟩ := bind_ok.mp done
  obtain ⟨valid, rfl⟩ := validatedGraphState_ok validated
  obtain ⟨query, normalized, done⟩ := bind_ok.mp done
  obtain ⟨plan, planned, done⟩ := bind_ok.mp done
  dsimp only at done
  split at done
  · cases done
  next within =>
  split at done
  · cases done
  next output ran =>
  obtain ⟨passLimits, transcript, allowed, returned, -, -⟩ := createAgentResearchNode_output ran
  obtain ⟨same, calls⟩ := mergePass_frame done
  refine ⟨same, passLimits, transcript, _, ?_, returned, calls⟩
  have few : run.state.researchPassCount ≤ 1 := by omega
  rw [ResearchRun.passLimits, valid, requiredStateValue_ok.mp normalized,
    requiredStateValue_ok.mp planned, decide_eq_true few, allowed]
  rfl

theorem passLimits_calls {run : ResearchRun} {passLimits : AgentLoopLimits}
    (allowed : run.passLimits libraries limits = some passLimits) :
    passLimits.maxToolCalls = limits.maxToolCalls - run.state.toolCalls := by
  unfold ResearchRun.passLimits at allowed
  split at allowed
  · cases controlled : researchPassControl
        (run.state.researchInput (run.state.researchPassCount + 1)) limits with
    | error error =>
      rw [controlled] at allowed
      cases allowed
    | ok controlledLimits =>
      rw [controlled] at allowed
      cases allowed
      exact researchPassControl_calls controlled
  · cases allowed

end Calls

/-! ## What a node leaves as it is -/

section Frame
variable {libraries : ResearchLibraries} {state after : ResearchGraphState}

/-- The identity and the calls of a state. -/
def SameCalls (state after : ResearchGraphState) : Prop :=
  after.identity = state.identity ∧ after.toolCalls = state.toolCalls

theorem planNode_frame {answer : Except String ResearchPlanV1}
    (done : planNode libraries answer state = .ok after) : SameCalls state after := by
  obtain ⟨plan, rfl⟩ := planNode_effects done
  exact ⟨rfl, rfl⟩

theorem validateEvidence_frame (done : validateEvidence libraries state = .ok after) :
    SameCalls state after := by
  rw [validateEvidence_effects done]
  exact ⟨rfl, rfl⟩

theorem writeReport_frame {urls : SearchUrls} {context : ResearchGraphRuntimeContext}
    {answers : Nat → WriterAnswer} (done : writeReport urls context answers state = .ok after) :
    SameCalls state after := by
  obtain ⟨writerOutput, rfl⟩ := writeReport_effects done
  obtain ⟨proposalId, key, revision, expiresAt, framed⟩ :=
    withProposal_frame state context writerOutput
  rw [framed]
  exact ⟨rfl, rfl⟩

theorem prepareAction_frame {request : Except ResearchGraphProtocolError UUID}
    (done : prepareActionNode libraries request state = .ok after) : SameCalls state after := by
  obtain ⟨-, -, requestId, rfl⟩ := prepareAction_effects done
  exact ⟨rfl, rfl⟩

/-- The identity that a checkpoint has behind `normalize_request`. -/
def RunExecutionInput.identity (libraries : ResearchLibraries) (execution : RunExecutionInput) :=
  ((3 : Nat), execution.runId, execution.workspaceId, execution.actorUserId,
    execution.conversationId, execution.mode, execution.resumeDocumentId,
    { execution.request with query := execution.normalizedQuery libraries })

theorem matchingIdentity_iff {execution : RunExecutionInput} :
    matchingIdentity libraries execution state = true ↔
      state.identity = execution.identity libraries := by
  have same (request : ResearchRequest) : state.request = request ↔
      state.request.query = request.query ∧
        state.request.includeApplicationDraft = request.includeApplicationDraft := by
    rw [ResearchRequest.mk.injEq]
  simp only [matchingIdentity, ResearchGraphState.identity, RunExecutionInput.identity,
    Prod.mk.injEq, same, Bool.and_eq_true, decide_eq_true_eq]
  tauto

theorem normalizeRequest_frame {execution : RunExecutionInput}
    (done : normalizeRequest libraries execution.graphInput.state = .ok after) :
    after.identity = execution.identity libraries ∧
      after.toolCalls = execution.graphInput.state.toolCalls := by
  unfold normalizeRequest at done
  dsimp only at done
  split at done
  · cases done
  split at done
  · cases done
  next query made =>
    cases done
    have text : query.val = execution.normalizedQuery libraries := constrained_some made
    refine ⟨?_, rfl⟩
    rw [RunExecutionInput.identity, ← text]
    rfl

end Frame

section Advance
variable {libraries : ResearchLibraries} {run next : ResearchRun} {environment : NodeEnvironment}

/-- What a node other than the first and `research_agent` leaves of a run. -/
structure ResearchRun.Keeps (run next : ResearchRun) : Prop where
  same : SameCalls run.state next.state
  begun : next.next ≠ .normalizeRequest
  judged : run.next.judged = true → next.next.judged = true

theorem ResearchRun.keeps_move (run : ResearchRun) {node : GraphNode}
    (begun : node ≠ .normalizeRequest)
    (judged : run.next.judged = true → node.judged = true) :
    run.Keeps { run with next := node } :=
  ⟨⟨rfl, rfl⟩, begun, judged⟩

theorem ResearchRun.advance_keeps (first : run.next ≠ .normalizeRequest)
    (research : run.next ≠ .researchAgent)
    (advanced : run.advance libraries environment = .ok next) : run.Keeps next := by
  unfold ResearchRun.advance at advanced
  cases here : run.next with
  | normalizeRequest => exact absurd here first
  | researchAgent => exact absurd here research
  | plan =>
    rw [here] at advanced
    obtain ⟨after, done, advanced⟩ := bind_ok.mp advanced
    cases advanced
    refine ⟨planNode_frame (mapError_ok.mp done), nofun, fun judged => ?_⟩
    rw [here] at judged
    cases judged
  | validateEvidence =>
    rw [here] at advanced
    obtain ⟨after, done, advanced⟩ := bind_ok.mp advanced
    obtain ⟨route, -, advanced⟩ := bind_ok.mp advanced
    cases advanced
    refine ⟨validateEvidence_frame done, ?_, fun judged => ?_⟩
    · change (if _ then _ else _) ≠ _
      split <;> nofun
    · rw [here] at judged
      cases judged
  | writeReport =>
    rw [here] at advanced
    obtain ⟨after, done, advanced⟩ := bind_ok.mp advanced
    obtain ⟨route, -, advanced⟩ := bind_ok.mp advanced
    cases advanced
    have node : (if route = .prepareAction then GraphNode.prepareAction else .finalize).judged =
        true := by split <;> rfl
    refine ⟨writeReport_frame (mapError_ok.mp done), ?_, fun _ => node⟩
    change (if _ then _ else _) ≠ _
    split <;> nofun
  | prepareAction =>
    rw [here] at advanced
    obtain ⟨after, done, advanced⟩ := bind_ok.mp advanced
    cases advanced
    exact ⟨prepareAction_frame (mapError_ok.mp done), nofun, fun _ => rfl⟩
  | approvalInterrupt =>
    rw [here] at advanced
    obtain ⟨_, -, advanced⟩ := bind_ok.mp advanced
    obtain ⟨status, -, advanced⟩ := bind_ok.mp advanced
    obtain ⟨node, routed, advanced⟩ := bind_ok.mp advanced
    cases advanced
    have routed := mapError_ok.mp routed
    cases status <;> cases routed <;> exact run.keeps_move nofun fun _ => rfl
  | executeMockAction =>
    rw [here] at advanced
    obtain ⟨_, -, advanced⟩ := bind_ok.mp advanced
    obtain ⟨_, -, advanced⟩ := bind_ok.mp advanced
    cases advanced
    exact run.keeps_move nofun fun _ => rfl
  | cancelAction =>
    rw [here] at advanced
    obtain ⟨_, -, advanced⟩ := bind_ok.mp advanced
    obtain ⟨_, -, advanced⟩ := bind_ok.mp advanced
    cases advanced
    exact run.keeps_move nofun fun _ => rfl
  | finalize =>
    rw [here] at advanced
    obtain ⟨output, -, advanced⟩ := bind_ok.mp advanced
    cases advanced
    exact ⟨⟨rfl, rfl⟩, nofun, fun _ => rfl⟩
  | ended =>
    rw [here] at advanced
    cases advanced
    exact ⟨⟨rfl, rfl⟩, by rw [here]; nofun, id⟩

end Advance

/-! ## Executions -/

section Execution
variable {libraries : ResearchLibraries} {execution : RunExecutionInput} {run after : ResearchRun}
  {thread : ResearchThread} {environment : NodeEnvironment}

/-- The checkpoint is named as `_require_matching_identity` expects it, or as the run was
submitted. -/
def ResearchRun.Named (libraries : ResearchLibraries) (execution : RunExecutionInput)
    (run : ResearchRun) : Prop :=
  if run.next = .normalizeRequest then run.state = execution.graphInput.state
  else run.state.identity = execution.identity libraries

/-- What holds of a run at its checkpoint. -/
structure ResearchThread.At (libraries : ResearchLibraries) (execution : RunExecutionInput)
    (run : ResearchRun) (thread : ResearchThread) : Prop where
  here : thread.checkpoint = some run
  reached : ∃ environments,
    run = (researchGraph libraries execution.graphInput).reached environments
  named : run.Named libraries execution
  within : thread.toolRows ≤ execution.limits.maxToolCalls
  counted : run.state.toolCalls ≤ thread.toolRows
  quiet : run.next.judged = false → thread.actionRows = 0
  interrupted : ∀ interrupt, thread.interrupt = some interrupt →
    run.next = .approvalInterrupt ∧ run.state.approvalInterrupt = some interrupt
  /-- What an execution may still call, and what has been called, fit in the limit of the run;
  the calls of the checkpoint count twice, since a pass takes them off again. -/
  fits : ∀ session, thread.session = some session → run.next.judged = false →
    session.limits.maxToolCalls + thread.toolRows ≤
      execution.limits.maxToolCalls + run.state.toolCalls

def ResearchThread.Kept (libraries : ResearchLibraries) (execution : RunExecutionInput)
    (thread : ResearchThread) : Prop :=
  thread = .start ∨ ∃ run, thread.At libraries execution run

theorem ResearchThread.At.drop (at_ : thread.At libraries execution run) :
    ({ thread with session := none } : ResearchThread).At libraries execution run :=
  { at_ with fits := nofun }

theorem ResearchThread.settle_kept {result : Except ResearchGraphFailure ResearchRun}
    (failed : ({ thread with session := none } : ResearchThread).Kept libraries execution)
    (done : ∀ after, result = .ok after →
      ({ thread with checkpoint := some after, interrupt := none } : ResearchThread).At libraries
        execution after) :
    (thread.settle result).1.Kept libraries execution := by
  unfold ResearchThread.settle
  split
  · exact failed
  next after =>
    split
    · exact .inr ⟨after, (done after rfl).drop⟩
    · exact .inr ⟨after, done after rfl⟩

theorem reached_advance (reached : ∃ environments,
      run = (researchGraph libraries execution.graphInput).reached environments)
    (advanced : run.advance libraries environment = .ok after) : ∃ environments,
      after = (researchGraph libraries execution.graphInput).reached environments := by
  obtain ⟨environments, rfl⟩ := reached
  refine ⟨environments ++ [environment], ?_⟩
  rw [Machine.reached_snoc]
  simp only [researchGraph] at advanced ⊢
  rw [advanced]

/-- `normalize_request` names the checkpoint; the nodes behind it keep the name, and the calls. -/
theorem ResearchRun.Named.advance (named : run.Named libraries execution)
    (research : run.next ≠ .researchAgent)
    (advanced : run.advance libraries environment = .ok after) :
    after.Named libraries execution ∧ after.state.toolCalls = run.state.toolCalls ∧
      (after.next.judged = false → run.next.judged = false) := by
  unfold ResearchRun.Named at named
  by_cases first : run.next = .normalizeRequest
  · rw [if_pos first] at named
    unfold ResearchRun.advance at advanced
    rw [first] at advanced
    obtain ⟨state, done, advanced⟩ := bind_ok.mp advanced
    have done := mapError_ok.mp done
    rw [named] at done ⊢
    cases advanced
    obtain ⟨identity, calls⟩ := normalizeRequest_frame done
    exact ⟨identity, calls, fun _ => first ▸ rfl⟩
  · rw [if_neg first] at named
    have keeps := ResearchRun.advance_keeps first research advanced
    refine ⟨?_, keeps.same.2, fun unjudged => ?_⟩
    · rw [ResearchRun.Named, if_neg keeps.begun, keeps.same.1]
      exact named
    · rw [Bool.eq_false_iff] at unjudged ⊢
      exact fun judged => unjudged (keeps.judged judged)

theorem ResearchThread.At.advance (at_ : thread.At libraries execution run)
    (research : run.next ≠ .researchAgent)
    (advanced : run.advance libraries environment = .ok after) :
    ({ thread with checkpoint := some after, interrupt := none } : ResearchThread).At libraries
      execution after := by
  obtain ⟨named, calls, judged⟩ := at_.named.advance research advanced
  exact
    { here := rfl, reached := reached_advance at_.reached advanced, named := named
      within := at_.within, counted := calls ▸ at_.counted
      quiet := fun unjudged => at_.quiet (judged unjudged), interrupted := nofun
      fits := fun session on unjudged => calls ▸ at_.fits session on (judged unjudged) }

theorem ResearchThread.At.node (at_ : thread.At libraries execution run)
    (research : run.next ≠ .researchAgent) :
    (thread.settle (run.advance libraries environment)).1.Kept libraries execution :=
  ResearchThread.settle_kept (.inr ⟨run, at_.drop⟩) fun _ advanced =>
    at_.advance research advanced

theorem ResearchThread.At.waits (at_ : thread.At libraries execution run)
    {session : ResearchSession} {interrupt : ApprovalInterrupt}
    (here : run.next = .approvalInterrupt)
    (built : run.state.approvalInterrupt = some interrupt) :
    (thread.waits session interrupt).1.Kept libraries execution :=
  .inr ⟨run, { at_ with
    interrupted := fun _ same => ⟨here, built.trans same⟩
    fits := nofun }⟩

theorem ResearchThread.At.runNode (at_ : thread.At libraries execution run) (actionRows : Nat)
    (session : ResearchSession) :
    (thread.runNode libraries environment actionRows session run).1.Kept libraries execution := by
  unfold ResearchThread.runNode
  cases here : run.next with
  | ended => exact .inr ⟨run, at_⟩
  | researchAgent => exact .inr ⟨run, at_⟩
  | executeMockAction =>
    have acted : ({ thread with actionRows := thread.actionRows + actionRows } :
        ResearchThread).At libraries execution run :=
      { at_ with quiet := fun unjudged => by rw [here] at unjudged; cases unjudged }
    exact acted.node (here ▸ nofun)
  | approvalInterrupt =>
    dsimp only
    have failed (failure : ResearchGraphFailure) :
        (thread.settle (.error failure)).1.Kept libraries execution :=
      .inr ⟨run, at_.drop⟩
    split
    next after interrupt advanced built =>
      split
      · exact at_.waits here built
      · refine ResearchThread.settle_kept (.inr ⟨run, at_.drop⟩) fun other same => ?_
        cases same
        exact at_.advance (here ▸ nofun) advanced
    · exact failed _
    · exact failed _
  | normalizeRequest => exact at_.node (here ▸ nofun)
  | plan => exact at_.node (here ▸ nofun)
  | validateEvidence => exact at_.node (here ▸ nofun)
  | writeReport => exact at_.node (here ▸ nofun)
  | prepareAction => exact at_.node (here ▸ nofun)
  | cancelAction => exact at_.node (here ▸ nofun)
  | finalize => exact at_.node (here ▸ nofun)

/-- A pass calls no more than what is left, and its checkpoint has each call that it made. -/
theorem ResearchThread.At.runPass (at_ : thread.At libraries execution run)
    (here : run.next = .researchAgent) {session : ResearchSession}
    (on : thread.session = some session) (validateCall : CallValidator Json)
    (moments : List PassMoment) (transcript : List ChatMessage) (category : String)
    (crashed : Bool) :
    (thread.runPass libraries validateCall environment moments transcript category crashed session
      run).1.Kept libraries execution := by
  have fits := at_.fits session on (here ▸ rfl)
  have within := at_.within
  have counted := at_.counted
  unfold ResearchThread.runPass
  dsimp only
  generalize rowsNamed : (((run.passLimits libraries session.limits).map fun limits =>
    (passAfter validateCall moments limits).rows).getD 0) = rows
  have room : thread.toolRows + rows ≤ execution.limits.maxToolCalls := by
    cases allowed : run.passLimits libraries session.limits with
    | none =>
      rw [allowed] at rowsNamed
      cases rowsNamed
      exact within
    | some limits =>
      rw [allowed] at rowsNamed
      have few := passAfter_rows limits validateCall moments
      have left := passLimits_calls allowed
      change (passAfter validateCall moments limits).rows = rows at rowsNamed
      omega
  have counting : ({ thread with toolRows := thread.toolRows + rows, session := none } :
      ResearchThread).At libraries execution run :=
    { at_ with within := room, counted := counted.trans (Nat.le_add_right _ _), fits := nofun }
  split
  · exact .inr ⟨run, counting⟩
  · refine ResearchThread.settle_kept (.inr ⟨run, counting⟩) fun after advanced => ?_
    have reached := reached_advance at_.reached advanced
    unfold ResearchRun.advance at advanced
    rw [here] at advanced
    obtain ⟨state, done, advanced⟩ := bind_ok.mp advanced
    obtain ⟨same, limits, kept, count, allowed, returned, calls⟩ :=
      researchAgent_calls (mapError_ok.mp done)
    have called : count = rows := by
      rw [passAfter_returned limits validateCall moments returned, ← rowsNamed, allowed]
      rfl
    cases advanced
    have named := at_.named
    rw [ResearchRun.Named, if_neg (here ▸ nofun)] at named
    refine
      { here := rfl, reached := reached, named := same.trans named, within := room, counted := ?_
        quiet := fun _ => at_.quiet (here ▸ rfl), interrupted := nofun
        fits := fun other there _ => ?_ }
    · change state.toolCalls ≤ thread.toolRows + rows
      omega
    · change other.limits.maxToolCalls + (thread.toolRows + rows) ≤ _ + state.toolCalls
      cases on.symm.trans there
      omega

variable {resume : Option UUID} {applied : Bool} {resolved : Except ExecutionResult ApprovalStatus}
  {session : ResearchSession}

theorem countToolCalls_ok {interrupted : Bool} {checkpointed : Nat}
    (counted : countToolCalls execution resume interrupted checkpointed thread = .ok session) :
    session.limits.maxToolCalls =
      execution.limits.maxToolCalls - (thread.toolRows + thread.actionRows - checkpointed) := by
  unfold countToolCalls at counted
  dsimp only at counted
  split at counted
  · cases counted
  cases counted
  rfl

theorem beginGraph_ok (here : thread.checkpoint = some run)
    (began : beginGraph libraries execution resume applied resolved thread = .ok session) :
    session.limits.maxToolCalls = execution.limits.maxToolCalls -
      (thread.toolRows + thread.actionRows - run.state.toolCalls) := by
  unfold beginGraph at began
  rw [here] at began
  dsimp only at began
  split at began
  · cases began
  split at began
  · cases began
  split at began
  · obtain ⟨_, -, counted⟩ := bind_ok.mp began
    exact countToolCalls_ok counted
  · split at began
    · exact countToolCalls_ok began
    · split at began <;> cases began

theorem ResearchThread.At.begins (at_ : thread.At libraries execution run)
    (limited : session.limits.maxToolCalls = execution.limits.maxToolCalls -
      (thread.toolRows + thread.actionRows - run.state.toolCalls)) :
    ({ thread with session := some session } : ResearchThread).At libraries execution run :=
  { at_ with
    fits := by
      intro other on unjudged
      cases on
      have quiet := at_.quiet unjudged
      have within := at_.within
      have counted := at_.counted
      change session.limits.maxToolCalls + thread.toolRows ≤ _
      omega }

theorem ResearchThread.start_begins (limited : session.limits.maxToolCalls ≤
      execution.limits.maxToolCalls) :
    ({ ResearchThread.start with
      checkpoint := some execution.graphInput.run, session := some session } :
      ResearchThread).At libraries execution execution.graphInput.run where
  here := rfl
  reached := ⟨[], rfl⟩
  named := by
    have first : execution.graphInput.run.next = .normalizeRequest := rfl
    rw [ResearchRun.Named, if_pos first]
    rfl
  within := Nat.zero_le _
  counted := Nat.le_refl 0
  quiet _ := rfl
  interrupted := nofun
  fits := by
    intro other on _
    cases on
    exact limited

theorem researchExecution_step (validateCall : CallValidator Json) (event : ExecutionEvent)
    (kept : thread.Kept libraries execution) :
    ((researchExecution libraries execution validateCall).step thread event).1.Kept libraries
      execution := by
  rcases kept with rfl | ⟨run, at_⟩
  · cases event with
    | begin_ resume applied resolved =>
      refine .inr ⟨execution.graphInput.run, ResearchThread.start_begins (Nat.sub_le _ _)⟩
    | node environment actionRows => exact .inl rfl
    | pass environment moments transcript category crashed => exact .inl rfl
    | stopped => exact .inl rfl
  · have here := at_.here
    cases on : thread.session with
    | none =>
      cases event with
      | begin_ resume applied resolved =>
        simp only [researchExecution, on, here]
        cases began : beginGraph libraries execution resume applied resolved thread with
        | error result => exact .inr ⟨run, at_⟩
        | ok session =>
          have begun := at_.begins (beginGraph_ok here began)
          exact .inr ⟨run, { begun with here := rfl }⟩
      | node environment actionRows =>
        simp only [researchExecution, on]
        exact .inr ⟨run, at_⟩
      | pass environment moments transcript category crashed =>
        simp only [researchExecution, on]
        exact .inr ⟨run, at_⟩
      | stopped =>
        simp only [researchExecution, on]
        exact .inr ⟨run, at_⟩
    | some session =>
      cases event with
      | begin_ resume applied resolved =>
        simp only [researchExecution, on]
        exact .inr ⟨run, at_⟩
      | node environment actionRows =>
        simp only [researchExecution, on, here]
        exact at_.runNode actionRows session
      | pass environment moments transcript category crashed =>
        simp only [researchExecution, on, here]
        split
        next research =>
          exact at_.runPass research on validateCall moments transcript category crashed
        · exact .inr ⟨run, at_⟩
      | stopped =>
        simp only [researchExecution, on]
        exact .inr ⟨run, at_.drop⟩

/-! ## What a new execution finds -/

/-- The execution may go on behind the interrupt. -/
def ApprovalInterrupt.Resumed (interrupt : ApprovalInterrupt) (resume : Option UUID)
    (applied : Bool) (resolved : Except ExecutionResult ApprovalStatus) : Prop :=
  resume = some interrupt.approvalRequestId ∧ (applied = true →
    ∃ status, resolved = .ok status ∧ status ≠ .pending ∧ status ≠ .consumed)

theorem resumeInterrupt_resumed {state : ResearchGraphState} {interrupt : ApprovalInterrupt}
    (built : state.approvalInterrupt = some interrupt)
    (resumed : interrupt.Resumed resume applied resolved) :
    resumeInterrupt state interrupt resume applied resolved = .ok () := by
  obtain ⟨rfl, known⟩ := resumed
  unfold resumeInterrupt
  rw [if_neg (not_not.mpr built)]
  dsimp only
  rw [if_neg (not_not.mpr rfl)]
  cases applied with
  | false => rfl
  | true =>
    obtain ⟨status, rfl, decided, unconsumed⟩ := known rfl
    cases status <;> trivial

/-- What becomes of an execution that may not go on behind the interrupt. -/
def ApprovalInterrupt.withheld (interrupt : ApprovalInterrupt) (resume : Option UUID)
    (resolved : Except ExecutionResult ApprovalStatus) : ExecutionResult :=
  match resume with
  | none => .waitingApproval interrupt.approvalRequestId
  | some requestId =>
    if requestId ≠ interrupt.approvalRequestId then
      .failed "resume_approval_request_mismatch" false
    else match resolved with
    | .error result => result
    | .ok .consumed => .failed "approval_resume_status_invalid" false
    | .ok _ => .waitingApproval interrupt.approvalRequestId

theorem resumeInterrupt_withheld {state : ResearchGraphState} {interrupt : ApprovalInterrupt}
    (built : state.approvalInterrupt = some interrupt)
    (unresumed : ¬ interrupt.Resumed resume applied resolved) :
    resumeInterrupt state interrupt resume applied resolved =
      .error (interrupt.withheld resume resolved) := by
  unfold resumeInterrupt ApprovalInterrupt.withheld
  rw [if_neg (not_not.mpr built)]
  cases resume with
  | none => rfl
  | some requestId =>
    dsimp only
    by_cases other : requestId ≠ interrupt.approvalRequestId
    · rw [if_pos other, if_pos other]
    · rw [if_neg other, if_neg other]
      obtain rfl := not_not.mp other
      cases applied with
      | false => exact absurd ⟨rfl, nofun⟩ unresumed
      | true =>
        cases resolved with
        | error result => rfl
        | ok status =>
          cases status with
          | pending => rfl
          | consumed => rfl
          | _ => exact absurd ⟨rfl, fun _ => ⟨_, rfl, nofun, nofun⟩⟩ unresumed

theorem ResearchRun.Sound.accepted (sound : run.Sound libraries)
    (valid : run.state.valid libraries.urls = true) (going : run.next ≠ .ended) :
    checkpointState libraries run = true := by
  rw [checkpointState, valid, sound.unfinished going]
  rfl

theorem ResearchThread.At.sound (at_ : thread.At libraries execution run) :
    run.Sound libraries := by
  obtain ⟨environments, rfl⟩ := at_.reached
  exact researchGraph_sound libraries execution.graphInput environments

theorem ResearchThread.At.matching (at_ : thread.At libraries execution run)
    (named : run.next = .normalizeRequest →
      execution.request.query = execution.normalizedQuery libraries) :
    matchingIdentity libraries execution run.state = true := by
  rw [matchingIdentity_iff]
  have here := at_.named
  unfold ResearchRun.Named at here
  split at here
  next first =>
    rw [here, RunExecutionInput.identity, ← named first]
    rfl
  · exact here

/-- The rows are never fewer than the calls of the checkpoint. -/
theorem ResearchThread.At.counts (at_ : thread.At libraries execution run) (interrupted : Bool) :
    ∃ session, countToolCalls execution resume interrupted run.state.toolCalls thread =
      .ok session := by
  have counted := at_.counted
  exact ⟨_, if_neg (by omega)⟩

theorem ResearchThread.At.interrupt_withheld (at_ : thread.At libraries execution run)
    (valid : run.state.valid libraries.urls = true) {interrupt : ApprovalInterrupt}
    (standing : thread.interrupt = some interrupt)
    (unresumed : ¬ interrupt.Resumed resume applied resolved) :
    beginGraph libraries execution resume applied resolved thread =
      .error (interrupt.withheld resume resolved) := by
  obtain ⟨here, built⟩ := at_.interrupted interrupt standing
  unfold beginGraph
  rw [at_.here]
  dsimp only
  rw [at_.sound.accepted valid (here ▸ nofun), at_.matching (here ▸ nofun), standing]
  change (resumeInterrupt _ _ _ _ _ >>= fun _ => countToolCalls _ _ _ _ _) = _
  rw [resumeInterrupt_withheld built unresumed]
  rfl

theorem ResearchThread.At.continues (at_ : thread.At libraries execution run)
    (valid : run.state.valid libraries.urls = true) (going : run.next ≠ .ended)
    (named : run.next = .normalizeRequest →
      execution.request.query = execution.normalizedQuery libraries)
    (resumed : ∀ interrupt, thread.interrupt = some interrupt →
      interrupt.Resumed resume applied resolved) :
    ∃ session, beginGraph libraries execution resume applied resolved thread =
      .ok session := by
  unfold beginGraph
  rw [at_.here]
  dsimp only
  rw [at_.sound.accepted valid going, at_.matching named]
  cases standing : thread.interrupt with
  | none =>
    dsimp only
    rw [if_pos going]
    exact at_.counts false
  | some interrupt =>
    have built := (at_.interrupted interrupt standing).2
    change ∃ session, (resumeInterrupt _ _ _ _ _ >>= fun _ => countToolCalls _ _ _ _ _) = _
    rw [resumeInterrupt_resumed built (resumed interrupt standing)]
    exact at_.counts true

theorem ResearchThread.At.refuses (at_ : thread.At libraries execution run)
    (valid : run.state.valid libraries.urls = true) (first : run.next = .normalizeRequest)
    (other : execution.request.query ≠ execution.normalizedQuery libraries) :
    beginGraph libraries execution resume applied resolved thread =
      .error (.failed "checkpoint_identity_mismatch" false) := by
  have foreign : matchingIdentity libraries execution run.state = false := by
    rw [Bool.eq_false_iff]
    intro matching
    have here := at_.named
    rw [ResearchRun.Named, if_pos first] at here
    rw [matchingIdentity_iff, here] at matching
    simp only [ResearchGraphState.identity, RunExecutionInput.identity, Prod.mk.injEq] at matching
    exact other (congrArg ResearchRequest.query matching.2.2.2.2.2.2.2)
  unfold beginGraph
  rw [at_.here]
  dsimp only
  rw [at_.sound.accepted valid (first ▸ nofun), foreign]
  rfl

theorem ResearchOutput.Grounded.accepted {contents : List String} {output : ResearchOutput}
    (grounded : output.Grounded libraries contents) : output.valid = true := by
  cases output with
  | v1 output => exact grounded.1
  | v2 output => exact grounded.1

theorem ResearchThread.At.completed (at_ : thread.At libraries execution run)
    {output : ResearchOutput} (ended : run.output = some output) :
    beginGraph libraries execution resume applied resolved thread =
        .error (.completed output) ∧
      output.Grounded libraries (toolTexts run.transcripts) := by
  have sound := at_.sound
  have last : run.next = .ended := by
    by_contra going
    rw [sound.unfinished going] at ended
    cases ended
  obtain ⟨sufficient, writerOutput, reported⟩ := finalize_ok (sound.finished output ended)
  have grounded := sound.gathered.finalReport_grounded reported
  have accepted : checkpointState libraries run = true := by
    rw [checkpointState, (sound.reported (last ▸ rfl)).2, ended]
    exact grounded.accepted
  have standing : thread.interrupt = none := by
    cases standing : thread.interrupt with
    | none => rfl
    | some interrupt => cases last.symm.trans (at_.interrupted interrupt standing).1
  refine ⟨?_, grounded⟩
  unfold beginGraph
  rw [at_.here]
  dsimp only
  rw [accepted, at_.matching (last ▸ nofun), standing]
  dsimp only
  rw [last, ended]
  rfl

/-! ## What the executions of a run come to -/

/-- No execution is on once the run has its output. -/
def ResearchThread.Closed (thread : ResearchThread) : Prop :=
  ∀ run, thread.checkpoint = some run → thread.session ≠ none → run.output = none

theorem ResearchThread.closed_off (off : thread.session = none) : thread.Closed :=
  fun _ _ on => absurd off on

theorem ResearchThread.settle_closed (thread : ResearchThread)
    (result : Except ResearchGraphFailure ResearchRun) : (thread.settle result).1.Closed := by
  unfold ResearchThread.settle
  split
  · exact closed_off rfl
  · dsimp only
    split
    · exact closed_off rfl
    next unfinished =>
      intro run same _
      cases same
      exact unfinished

theorem ResearchThread.runNode_closed (closed : thread.Closed) (actionRows : Nat)
    (session : ResearchSession) :
    (thread.runNode libraries environment actionRows session run).1.Closed := by
  unfold ResearchThread.runNode
  split
  · exact closed
  · exact closed
  · exact settle_closed _ _
  · dsimp only
    split
    · split
      · exact closed_off rfl
      · exact settle_closed _ _
    · exact settle_closed _ _
    · exact settle_closed _ _
  · exact settle_closed _ _

section Runs
variable {validateCall : CallValidator Json}

/-- A worker takes a run that has a checkpoint. -/
theorem researchExecution_begins (off : thread.session = none)
    (here : thread.checkpoint = some run) :
    (researchExecution libraries execution validateCall).step thread
        (.begin_ resume applied resolved) =
      match beginGraph libraries execution resume applied resolved thread with
      | .error result => (thread, some result)
      | .ok session => ({ thread with session := some session }, none) := by
  obtain ⟨checkpoint, interrupt, toolRows, actionRows, session⟩ := thread
  cases off
  cases here
  rfl

theorem ResearchThread.At.begin_closed (at_ : thread.At libraries execution run)
    (off : thread.session = none) :
    ((researchExecution libraries execution validateCall).step thread
      (.begin_ resume applied resolved)).1.Closed := by
  rw [researchExecution_begins off at_.here]
  cases began : beginGraph libraries execution resume applied resolved thread with
  | error result => exact closed_off off
  | ok session =>
    intro other there _
    obtain rfl : other = run := Option.some.inj (there.symm.trans at_.here)
    cases ended : other.output with
    | none => rfl
    | some output => cases began.symm.trans (at_.completed ended).1

theorem researchExecution_closed (event : ExecutionEvent)
    (kept : thread.Kept libraries execution) (closed : thread.Closed) :
    ((researchExecution libraries execution validateCall).step thread event).1.Closed := by
  rcases kept with rfl | ⟨run, at_⟩
  · cases event with
    | begin_ resume applied resolved =>
      intro run here _
      cases here
      rfl
    | _ => exact closed
  · have here := at_.here
    cases on : thread.session with
    | none =>
      cases event with
      | begin_ resume applied resolved => exact at_.begin_closed on
      | _ =>
        simp only [researchExecution, on]
        exact closed
    | some session =>
      cases event with
      | begin_ resume applied resolved =>
        simp only [researchExecution, on]
        exact closed
      | node environment actionRows =>
        simp only [researchExecution, on, here]
        exact ResearchThread.runNode_closed closed actionRows session
      | pass environment moments transcript category crashed =>
        simp only [researchExecution, on, here]
        split
        · unfold ResearchThread.runPass
          dsimp only
          split
          · exact ResearchThread.closed_off rfl
          · exact ResearchThread.settle_closed _ _
        · exact closed
      | stopped =>
        simp only [researchExecution, on]
        exact ResearchThread.closed_off rfl

/-- A run that has its output stays as it is, and every execution gives the output again. -/
theorem ResearchThread.At.completed_step (at_ : thread.At libraries execution run)
    {output : ResearchOutput} (ended : run.output = some output) (off : thread.session = none)
    (event : ExecutionEvent) :
    ((researchExecution libraries execution validateCall).step thread event).1 = thread := by
  cases event with
  | begin_ resume applied resolved =>
    rw [researchExecution_begins off at_.here, (at_.completed ended).1]
  | _ => simp only [researchExecution, off]

/-- What holds of a run whose executions have come to this. -/
structure ResearchBudgeted (libraries : ResearchLibraries) (execution : RunExecutionInput)
    (validateCall : CallValidator Json) (thread : ResearchThread) : Prop where
  budget : thread.toolRows ≤ execution.limits.maxToolCalls
  /-- A checkpoint is one of an uninterrupted graph, and its calls have their rows. -/
  reached : ∀ run, thread.checkpoint = some run →
    (∃ environments, run = (researchGraph libraries execution.graphInput).reached environments) ∧
      run.state.toolCalls ≤ thread.toolRows
  continues : ∀ run resume applied resolved, thread.checkpoint = some run →
    thread.session = none → run.state.valid libraries.urls = true → run.next ≠ .ended →
    (run.next = .normalizeRequest →
      execution.request.query = execution.normalizedQuery libraries) →
    (∀ interrupt, thread.interrupt = some interrupt →
      interrupt.Resumed resume applied resolved) →
    ∃ session, (researchExecution libraries execution validateCall).step thread
      (.begin_ resume applied resolved) = ({ thread with session := some session }, none)
  /-- A persisted interrupt is the one of the state; behind it goes only who resumes it. -/
  waits : ∀ run interrupt resume applied resolved, thread.checkpoint = some run →
    thread.session = none → run.state.valid libraries.urls = true →
    thread.interrupt = some interrupt → run.state.approvalInterrupt = some interrupt ∧
      (¬ interrupt.Resumed resume applied resolved →
        (researchExecution libraries execution validateCall).step thread
          (.begin_ resume applied resolved) = (thread, some (interrupt.withheld resume resolved)))
  /-- The checkpoint in front of `normalize_request` has the query as it was submitted. -/
  refuses : ∀ run resume applied resolved, thread.checkpoint = some run → thread.session = none →
    run.state.valid libraries.urls = true → run.next = .normalizeRequest →
    execution.request.query ≠ execution.normalizedQuery libraries →
    (researchExecution libraries execution validateCall).step thread
      (.begin_ resume applied resolved) =
        (thread, some (.failed "checkpoint_identity_mismatch" false))
  /-- Whatever happens to a run that has its output. -/
  completed : ∀ run output, thread.checkpoint = some run → run.output = some output →
    output.Grounded libraries (toolTexts run.transcripts) ∧ ∀ later,
      (researchExecution libraries execution validateCall).after thread later = thread ∧
      ∀ resume applied resolved, (researchExecution libraries execution validateCall).answer
        ((researchExecution libraries execution validateCall).after thread later)
        (.begin_ resume applied resolved) = some (.completed output)

theorem ResearchThread.At.completes (at_ : thread.At libraries execution run)
    (closed : thread.Closed) {output : ResearchOutput} (ended : run.output = some output)
    (later : List ExecutionEvent) :
    (researchExecution libraries execution validateCall).after thread later = thread ∧
      ∀ resume applied resolved, (researchExecution libraries execution validateCall).answer
        ((researchExecution libraries execution validateCall).after thread later)
        (.begin_ resume applied resolved) = some (.completed output) := by
  have off : thread.session = none := by
    by_contra on
    rw [closed run at_.here on] at ended
    cases ended
  have stays : (researchExecution libraries execution validateCall).after thread later = thread :=
    (researchExecution libraries execution validateCall).after_preserves (P := (· = thread))
      (fun other event same => by rw [same, at_.completed_step ended off event]) rfl later
  refine ⟨stays, fun resume applied resolved => ?_⟩
  rw [stays, Machine.answer, researchExecution_begins off at_.here, (at_.completed ended).1]

theorem ResearchThread.Kept.budgeted (kept : thread.Kept libraries execution)
    (closed : thread.Closed) : ResearchBudgeted libraries execution validateCall thread := by
  rcases kept with rfl | ⟨run, at_⟩
  · exact
      { budget := Nat.zero_le _
        reached := fun _ none => (nomatch none)
        continues := fun _ _ _ _ none => (nomatch none)
        waits := fun _ _ _ _ _ none => (nomatch none)
        refuses := fun _ _ _ _ none => (nomatch none)
        completed := fun _ _ none => (nomatch none) }
  have only {other : ResearchRun} (there : thread.checkpoint = some other) : other = run :=
    Option.some.inj (there.symm.trans at_.here)
  refine ⟨at_.within, ?_, ?_, ?_, ?_, ?_⟩
  · intro other there
    obtain rfl := only there
    exact ⟨at_.reached, at_.counted⟩
  · intro other resume applied resolved there off valid going named resumed
    obtain rfl := only there
    obtain ⟨session, began⟩ := at_.continues valid going named resumed
    rw [researchExecution_begins off there, began]
    exact ⟨session, rfl⟩
  · intro other interrupt resume applied resolved there off valid standing
    obtain rfl := only there
    refine ⟨(at_.interrupted interrupt standing).2, fun unresumed => ?_⟩
    rw [researchExecution_begins off there, at_.interrupt_withheld valid standing unresumed]
  · intro other resume applied resolved there off valid first foreign
    obtain rfl := only there
    rw [researchExecution_begins off there, at_.refuses valid first foreign]
  · intro other output there ended
    obtain rfl := only there
    have finished : beginGraph _ _ none false (.ok .pending) _ = _ ∧ _ := at_.completed ended
    exact ⟨finished.2, at_.completes closed ended⟩

/-- Over any executions of a run, each of which may end at any moment of a node or of a pass:
its research calls fit in the limit of the run; a new execution goes on from the last
checkpoint, whose count it never finds wrong, unless it stands in front of `normalize_request`
and the submitted query is not normalized, or at an interrupt that is not resumed; and a
completed run stays as it is and gives its grounded output to every later execution. -/
theorem research_budgeted (libraries : ResearchLibraries) (execution : RunExecutionInput)
    (validateCall : CallValidator Json) (events : List ExecutionEvent) :
    ResearchBudgeted libraries execution validateCall
      ((researchExecution libraries execution validateCall).reached events) := by
  have both := Machine.reached_invariant (researchExecution libraries execution validateCall)
    (P := fun thread => thread.Kept libraries execution ∧ thread.Closed)
    ⟨.inl rfl, ResearchThread.closed_off rfl⟩
    (fun _ event held => ⟨researchExecution_step validateCall event held.1,
      researchExecution_closed event held.1 held.2⟩) events
  exact both.1.budgeted both.2

end Runs
end Execution
end Pathfinder
