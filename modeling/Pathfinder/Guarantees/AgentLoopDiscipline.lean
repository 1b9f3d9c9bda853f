import Pathfinder.Agents.LoopInvariant

/-!
# Batches of the agent loop

Whatever the model answers and in whatever order tool tasks get to run: what has been
executed is, call by call and in order, a beginning of what was accepted, and the
counters stay within their limits. A loop that returns its answer has executed
everything it accepted; one that fails may leave a rest of its last batch.
-/
namespace Pathfinder
open Machines

variable {J : Type}

/-- What holds in every state of a loop with these limits. -/
structure LoopState.Disciplined (limits : AgentLoopLimits) (state : LoopState J) : Prop where
  /-- An executed call is a call of a response that was let through as a whole. -/
  whole : ∀ task ∈ state.executions, ∃ proposal, state.proposals[task.proposal]? = some proposal ∧
    proposal.accepted = true ∧ task.call ∈ proposal.calls
  /-- Accepted calls are executed in order, each at most once. -/
  ordered : state.executions <+: acceptedCalls state.proposals
  once : ((acceptedCalls state.proposals).map ToolTask.callId).Nodup
  /-- A loop that returns its answer has executed each accepted call. -/
  answered : ∀ answer, state.outcome = some (.ok answer) →
    state.executions = acceptedCalls state.proposals
  models : state.tracker.callCount ≤ limits.maxModelCalls
  iterations : state.tracker.iterationCount ≤ limits.maxIterations
  executed : state.executions.length ≤ state.tracker.toolCallCount
  calls : state.tracker.toolCallCount ≤ limits.maxToolCalls
  results : state.tracker.toolResultCount ≤ limits.maxToolResults

/-- Every run of the loop is disciplined: over any responses and any order of tool tasks. -/
theorem agent_loop_disciplined (setup : LoopSetup J) (events : List (LoopEvent J)) :
    ((agentLoop setup).reached events).Disciplined setup.limits := by
  have sound := agentLoop_sound setup events
  obtain ⟨remaining, order, -⟩ := sound.ordered
  exact
    { whole := fun task member =>
        mem_acceptedCalls.mp (order ▸ List.mem_append_left remaining member)
      ordered := ⟨remaining, order.symm⟩
      once := sound.unique
      answered := fun answer ended => (sound.answered answer ended).2
      models := sound.models, iterations := sound.iterations, executed := sound.executed
      calls := sound.calls, results := sound.results }

/-! A batch of two calls whose first execution fails. -/
namespace AbortedBatch

def setup : LoopSetup Unit :=
  { limits :=
      { maxModelCalls := 3, maxToolCalls := 4, maxToolResults := 4, maxIterations := 6
        positive := by decide, resultsFit := by decide }
    validateCall := fun _ => .ok (), feedback := false }

def batch : List (ProposedCall Unit) :=
  [⟨"first", ⟨"search_web", []⟩⟩, ⟨"second", ⟨"search_web", []⟩⟩]

/-- The second task gets to run once more after the failure of the first. -/
def events : List (LoopEvent Unit) :=
  [.model .clear .clear .clear (.ok ⟨none, batch⟩),
   .tool 0 .clear .clear (.error (.tool (.timeout "tool timed out"))) true,
   .tool 0 .clear .clear (.ok "results") true]

end AbortedBatch

/-- Not each accepted call is executed: a loop ended by a failed call, with no task left,
has not executed the second call of its accepted batch. -/
theorem accepted_call_not_executed :
    let state := (agentLoop AbortedBatch.setup).reached AbortedBatch.events
    state.outcome = some (.error (.tool (.timeout "tool timed out"))) ∧ state.tasks.length = 0 ∧
      (acceptedCalls state.proposals).map ToolTask.callId = ["first", "second"] ∧
      state.executions.map ToolTask.callId = ["first"] := by
  decide +kernel

end Pathfinder
