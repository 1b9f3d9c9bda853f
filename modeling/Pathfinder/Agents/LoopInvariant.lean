import Pathfinder.Agents.CreateAgentLoop

/-!
# The invariant of the agent loop

What is accepted and not yet executed remains in order, and the task whose turn it is is
the first of it. Each operation is inverted once; each moment of the loop keeps the
invariant.
-/
namespace Pathfinder
open Machines

variable {J : Type}

/-! ## What each operation does when it succeeds -/

section Operations
variable {limits : AgentLoopLimits} {boundary : Boundary} {tracker after : Tracker}

theorem Tracker.beginModel_ok (began : tracker.beginModel limits boundary = .ok after) :
    tracker.callCount < limits.maxModelCalls ∧ tracker.iterationCount < limits.maxIterations ∧
      after = { tracker with
        callCount := tracker.callCount + 1
        iterationCount := tracker.iterationCount + 1 } := by
  unfold Tracker.beginModel at began
  cases checked : boundary.check with
  | error error => simp [checked, bind, Except.bind] at began
  | ok _ =>
    simp only [checked, bind, Except.bind, pure, Except.pure] at began
    split at began
    · cases began
    split at began
    · cases began
    split at began
    · cases began
    cases began
    exact ⟨by omega, by omega, rfl⟩

theorem Tracker.preflightToolBatch_ok {calls : List (ProposedCall J)} (proposed : calls ≠ [])
    (passed : tracker.preflightToolBatch limits boundary calls = .ok after) :
    tracker.iterationCount + 2 ≤ limits.maxIterations ∧
      tracker.toolCallCount + calls.length ≤ limits.maxToolCalls ∧
      tracker.toolResultCount + calls.length ≤ limits.maxToolResults ∧
      after = { tracker with
        iterationCount := tracker.iterationCount + 1
        currentBatchIteration := tracker.iterationCount + 1
        currentBatchCallIds := calls.map ProposedCall.callId } := by
  unfold Tracker.preflightToolBatch at passed
  cases checked : boundary.check with
  | error error => simp [checked, bind, Except.bind] at passed
  | ok _ =>
    simp only [checked, List.isEmpty_iff, proposed, if_false, bind, Except.bind, pure,
      Except.pure] at passed
    split at passed
    · cases passed
    split at passed
    · cases passed
    split at passed
    · cases passed
    split at passed
    · cases passed
    split at passed
    · cases passed
    cases passed
    exact ⟨by omega, by omega, by omega, rfl⟩

theorem Tracker.preflightToolBatch_nil
    (passed : tracker.preflightToolBatch limits boundary ([] : List (ProposedCall J)) = .ok after) :
    after = tracker := by
  unfold Tracker.preflightToolBatch at passed
  cases checked : boundary.check with
  | error error => simp [checked, bind, Except.bind] at passed
  | ok _ =>
    simp only [checked, List.isEmpty_nil, bind, Except.bind, pure, Except.pure, if_true] at passed
    cases passed
    rfl

theorem LoopSetup.refuse_ok {setup : LoopSetup J} {error : AgentLoopError}
    {shown : ChatResponse J} (refused : setup.refuse error tracker = .ok (shown, after)) :
    shown.toolCalls = [] ∧ after = tracker := by
  unfold LoopSetup.refuse at refused
  split at refused
  · cases refused
    exact ⟨rfl, rfl⟩
  · cases refused

/-- A response is let through whole, within the limits and with identifiers of its own,
or none of its calls is. -/
theorem LoopSetup.acceptedResponse_ok {setup : LoopSetup J} {response shown : ChatResponse J}
    (accepted : setup.acceptedResponse boundary response tracker = .ok (shown, after)) :
    (shown.toolCalls = [] ∧ after = tracker) ∨
      (response.toolCalls ≠ [] ∧ shown = response ∧
        (response.toolCalls.map ProposedCall.callId).Nodup ∧
        (∀ proposed ∈ response.toolCalls, proposed.callId ∉ tracker.seenToolCallIds) ∧
        tracker.iterationCount + 2 ≤ setup.limits.maxIterations ∧
        tracker.toolCallCount + response.toolCalls.length ≤ setup.limits.maxToolCalls ∧
        tracker.toolResultCount + response.toolCalls.length ≤ setup.limits.maxToolResults ∧
        after = { tracker with
          iterationCount := tracker.iterationCount + 1
          currentBatchIteration := tracker.iterationCount + 1
          currentBatchCallIds := response.toolCalls.map ProposedCall.callId
          seenToolCallIds :=
            tracker.seenToolCallIds ++ response.toolCalls.map ProposedCall.callId }) := by
  unfold LoopSetup.acceptedResponse at accepted
  dsimp only at accepted
  split at accepted
  · cases accepted
    exact .inl ⟨rfl, rfl⟩
  · split at accepted
    · exact .inl (LoopSetup.refuse_ok accepted)
    · split at accepted
      · exact .inl (LoopSetup.refuse_ok accepted)
      · split at accepted
        · exact .inl (LoopSetup.refuse_ok accepted)
        · exact .inl (LoopSetup.refuse_ok accepted)
        · cases accepted
        · split at accepted
          · exact .inl (LoopSetup.refuse_ok accepted)
          · exact .inl (LoopSetup.refuse_ok accepted)
          · cases accepted
          next unique fresh _ _ _ _ passed =>
            cases accepted
            by_cases proposed : response.toolCalls = []
            · rw [proposed] at passed
              rw [Tracker.preflightToolBatch_nil passed, proposed]
              exact .inl ⟨rfl, by simp⟩
            · obtain ⟨iterations, calls, results, rfl⟩ :=
                Tracker.preflightToolBatch_ok proposed passed
              refine .inr ⟨proposed, rfl, not_not.mp unique, ?_, iterations, calls, results, rfl⟩
              intro call member seen
              exact fresh (List.any_eq_true.mpr
                ⟨_, List.mem_map_of_mem member, decide_eq_true seen⟩)

end Operations

/-- A task whose turn it is. -/
structure LoopState.Turn (state : LoopState J) (task : ToolTask J) : Prop where
  waiting : task ∈ state.tasks
  working : state.failed = false
  next : state.tracker.batchOrdinal task.call.callId = .ok state.nextBatchOrdinal

/-- What a tool task can do to a loop when it gets to run. -/
inductive ToolMove (state : LoopState J) : LoopState J → Prop
  | idle : ToolMove state state
  | refused (index : Nat) (error : AgentLoopError) :
    ToolMove state ({ state with tasks := state.tasks.eraseIdx index }.raise error)
  /-- A boundary stops the call: before it is counted or between that and its execution. -/
  | stopped (index : Nat) (task : ToolTask J) (turn : state.Turn task) (counted : Nat)
      (once : counted ≤ 1) (error : AgentLoopError) :
    ToolMove state
      ({ state with
        tasks := state.tasks.eraseIdx index
        tracker :=
          { state.tracker with toolCallCount := state.tracker.toolCallCount + counted } }.abort
        error)
  | failed (index : Nat) (task : ToolTask J) (turn : state.Turn task) (error : AgentLoopError) :
    ToolMove state
      ({ state with
        tasks := state.tasks.eraseIdx index
        executions := state.executions ++ [task]
        tracker :=
          { state.tracker with toolCallCount := state.tracker.toolCallCount + 1 } }.abort error)
  | unobserved (index : Nat) (task : ToolTask J) (turn : state.Turn task)
      (found : state.tasks[index]? = some task) (error : AgentLoopError) :
    ToolMove state
      ({ state with
        tasks := state.tasks.eraseIdx index
        executions := state.executions ++ [task]
        tracker :=
          { state.tracker with
            toolCallCount := state.tracker.toolCallCount + 1 }.completeTool
              state.nextBatchOrdinal }.raise error)
  | completed (index : Nat) (task : ToolTask J) (turn : state.Turn task)
      (found : state.tasks[index]? = some task) :
    ToolMove state
      { state with
        tasks := state.tasks.eraseIdx index
        executions := state.executions ++ [task]
        tracker :=
          { state.tracker with
            toolCallCount := state.tracker.toolCallCount + 1 }.completeTool
              state.nextBatchOrdinal
        nextBatchOrdinal :=
          if ({ state.tracker with
              toolCallCount := state.tracker.toolCallCount + 1 }.completeTool
                state.nextBatchOrdinal).currentBatchCallIds = [] then 1
          else state.nextBatchOrdinal + 1 }

theorem LoopState.runTool_moves (state : LoopState J) (index : Nat) (before entry : Boundary)
    (result : Except AgentLoopError String) (observed : Bool) :
    ToolMove state (state.runTool index before entry result observed) := by
  unfold LoopState.runTool
  split
  next => exact .idle
  next task found =>
    dsimp only
    split
    next => exact .refused index _
    next ordinal located =>
      split
      next => exact .refused index _
      next working =>
        split
        next => exact .idle
        next here =>
          have turn : state.Turn task :=
            ⟨List.mem_of_getElem? found, Bool.not_eq_true _ ▸ working,
              located.trans (congrArg _ (not_not.mp here))⟩
          obtain rfl := not_not.mp here
          split
          next error _ => exact .stopped index task turn 0 (Nat.zero_le 1) error
          next tracker begun =>
            have counted : tracker =
                { state.tracker with toolCallCount := state.tracker.toolCallCount + 1 } := by
              unfold Tracker.beginTool at begun
              cases checked : before.check with
              | error error => simp [checked, bind, Except.bind] at begun
              | ok _ =>
                simp only [checked, bind, Except.bind, pure, Except.pure, Except.ok.injEq] at begun
                exact begun.symm
            subst counted
            split
            next error _ => exact .stopped index task turn 1 (Nat.le_refl 1) error
            next =>
              split
              next error => exact .failed index task turn error
              next content =>
                split
                next => exact .failed index task turn _
                next =>
                  split
                  next => exact .unobserved index task turn found _
                  next =>
                    have moved := ToolMove.completed index task turn found
                    split
                    next cleared => rwa [if_pos cleared] at moved
                    next open_ => rwa [if_neg open_] at moved

/-! ## The invariant -/

/-- The calls of the accepted proposals, in the order the model made them. -/
def acceptedCalls (proposals : List (Proposal J)) : List (ToolTask J) :=
  proposals.zipIdx.flatMap fun entry =>
    if entry.1.accepted then entry.1.calls.map (ToolTask.mk entry.2) else []

def ToolTask.callId (task : ToolTask J) : String := task.call.callId

theorem acceptedCalls_snoc (proposals : List (Proposal J)) (proposal : Proposal J) :
    acceptedCalls (proposals ++ [proposal]) = acceptedCalls proposals ++
      if proposal.accepted then proposal.calls.map (ToolTask.mk proposals.length) else [] := by
  simp [acceptedCalls, List.zipIdx_append]

theorem acceptedCalls_snoc_none (proposals : List (Proposal J)) {proposal : Proposal J}
    (none : proposal.accepted = false ∨ proposal.calls = []) :
    acceptedCalls (proposals ++ [proposal]) = acceptedCalls proposals := by
  rw [acceptedCalls_snoc]
  rcases none with refused | empty
  · simp [refused]
  · simp [empty]

theorem mem_acceptedCalls {proposals : List (Proposal J)} {task : ToolTask J} :
    task ∈ acceptedCalls proposals ↔ ∃ proposal, proposals[task.proposal]? = some proposal ∧
      proposal.accepted = true ∧ task.call ∈ proposal.calls := by
  simp only [acceptedCalls, List.mem_flatMap, Prod.exists, List.mem_zipIdx_iff_getElem?]
  constructor
  · rintro ⟨proposal, index, located, member⟩
    split at member
    next accepted =>
      obtain ⟨call, inside, rfl⟩ := List.mem_map.mp member
      exact ⟨proposal, located, accepted, inside⟩
    next => cases member
  · rintro ⟨proposal, located, accepted, inside⟩
    refine ⟨proposal, task.proposal, located, ?_⟩
    rw [if_pos accepted]
    exact List.mem_map.mpr ⟨task.call, inside, rfl⟩

/-- A loop in which no task has failed, `remaining` being what is accepted and not executed. -/
structure LoopState.Working (limits : AgentLoopLimits) (state : LoopState J)
    (remaining : List (ToolTask J)) : Prop where
  begun : state.tracker.toolCallCount = state.executions.length
  completed : state.tracker.toolResultCount = state.executions.length
  callsFit : state.executions.length + remaining.length ≤ limits.maxToolCalls
  resultsFit : state.executions.length + remaining.length ≤ limits.maxToolResults
  inside : state.tasks.Sublist remaining
  whole : state.outcome = none → state.tasks = remaining
  positive : 1 ≤ state.nextBatchOrdinal
  /-- The next ordinal is that of the first remaining call, or the loop is over and no
  remaining call has a turn. -/
  place :
    (state.tracker.currentBatchCallIds.drop (state.nextBatchOrdinal - 1) =
        remaining.map ToolTask.callId ∧
      (remaining = [] → state.tracker.currentBatchCallIds = [] ∧ state.nextBatchOrdinal = 1)) ∨
    (state.outcome ≠ none ∧ ∀ task ∈ remaining,
      state.tracker.batchOrdinal task.callId ≠ .ok state.nextBatchOrdinal)

/-- The invariant of a loop. -/
structure LoopState.Sound (limits : AgentLoopLimits) (state : LoopState J) : Prop where
  models : state.tracker.callCount ≤ limits.maxModelCalls
  iterations : state.tracker.iterationCount ≤ limits.maxIterations
  calls : state.tracker.toolCallCount ≤ limits.maxToolCalls
  results : state.tracker.toolResultCount ≤ limits.maxToolResults
  executed : state.executions.length ≤ state.tracker.toolCallCount
  seen : ∀ task ∈ acceptedCalls state.proposals, task.callId ∈ state.tracker.seenToolCallIds
  unique : ((acceptedCalls state.proposals).map ToolTask.callId).Nodup
  ordered : ∃ remaining, acceptedCalls state.proposals = state.executions ++ remaining ∧
    (state.failed = false → state.Working limits remaining)
  ended : state.failed = true → state.outcome ≠ none
  answered : ∀ answer, state.outcome = some (.ok answer) →
    state.tasks = [] ∧ state.executions = acceptedCalls state.proposals

theorem LoopState.start_sound (limits : AgentLoopLimits) :
    (LoopState.start : LoopState J).Sound limits where
  models := Nat.zero_le _
  iterations := Nat.zero_le _
  calls := Nat.zero_le _
  results := Nat.zero_le _
  executed := Nat.le_refl 0
  seen := by rintro task ⟨⟩
  unique := List.nodup_nil
  ordered := ⟨[], rfl, fun _ => ⟨rfl, rfl, Nat.zero_le _, Nat.zero_le _, List.Sublist.refl _,
    fun _ => rfl, Nat.le_refl 1, .inl ⟨rfl, fun _ => ⟨rfl, rfl⟩⟩⟩⟩
  ended := by rintro ⟨⟩
  answered := by rintro answer ⟨⟩

section Steps
variable {limits : AgentLoopLimits} {state : LoopState J} {remaining : List (ToolTask J)}
  {task : ToolTask J}

theorem Tracker.batchOrdinal_ok {tracker : Tracker} {callId : String} {ordinal : Nat}
    (located : tracker.batchOrdinal callId = .ok ordinal) :
    ∃ rest, tracker.currentBatchCallIds.drop (ordinal - 1) = callId :: rest := by
  unfold Tracker.batchOrdinal at located
  split at located
  next index found =>
    cases located
    obtain ⟨inside, here, -⟩ := List.idxOf?_eq_some_iff.mp found
    exact ⟨_, here ▸ List.drop_eq_getElem_cons inside⟩
  next => cases located

/-- The call whose turn it is is the first one that remains. -/
theorem LoopState.Working.first (working : state.Working limits remaining)
    (unique : (remaining.map ToolTask.callId).Nodup) (turn : state.Turn task) :
    ∃ rest, remaining = task :: rest ∧
      state.tracker.currentBatchCallIds.drop (state.nextBatchOrdinal - 1) =
        task.callId :: rest.map ToolTask.callId := by
  have member := working.inside.subset turn.waiting
  rcases working.place with ⟨place, -⟩ | ⟨-, none⟩
  · obtain ⟨behind, located⟩ := Tracker.batchOrdinal_ok turn.next
    cases remaining with
    | nil => cases member
    | cons head rest =>
      have headed := (List.cons.inj (place.symm.trans located)).1
      obtain rfl : head = task :=
        KeyedList.eq_of_key unique List.mem_cons_self member headed
      exact ⟨rest, rfl, place⟩
  · exact absurd turn.next (none task member)

theorem LoopState.raise_outcome (error : AgentLoopError) : (state.raise error).outcome ≠ none := by
  intro none
  cases none

theorem LoopState.raise_ok {error : AgentLoopError} {answer : String}
    (ended : (state.raise error).outcome = some (.ok answer)) :
    state.outcome = some (.ok answer) := by
  cases outcome : state.outcome with
  | none => simp [LoopState.raise, outcome] at ended
  | some value => simpa [LoopState.raise, outcome] using ended

/-- Ending a loop, or dropping tasks of one that ends, executes nothing. -/
theorem LoopState.Sound.drop (sound : state.Sound limits) {tasks : List (ToolTask J)}
    (fewer : tasks.Sublist state.tasks) (error : AgentLoopError) :
    ({ state with tasks := tasks }.raise error).Sound limits where
  models := sound.models
  iterations := sound.iterations
  calls := sound.calls
  results := sound.results
  executed := sound.executed
  seen := sound.seen
  unique := sound.unique
  ordered := by
    obtain ⟨remaining, order, work⟩ := sound.ordered
    refine ⟨remaining, order, fun unfailed => ?_⟩
    have working := work unfailed
    exact ⟨working.begun, working.completed, working.callsFit, working.resultsFit,
      fewer.trans working.inside, fun none => absurd none (LoopState.raise_outcome error),
      working.positive,
      working.place.imp_right fun stuck => ⟨LoopState.raise_outcome error, stuck.2⟩⟩
  ended := fun _ => LoopState.raise_outcome error
  answered := by
    intro answer ended
    obtain ⟨none, all⟩ := sound.answered answer (LoopState.raise_ok ended)
    exact ⟨List.sublist_nil.mp (none ▸ fewer), all⟩

theorem LoopState.Sound.raise (sound : state.Sound limits) (error : AgentLoopError) :
    (state.raise error).Sound limits :=
  sound.drop (List.Sublist.refl _) error

/-- The first remaining call, and what is left behind it. -/
theorem LoopState.Sound.turn (sound : state.Sound limits) (turn : state.Turn task) :
    ∃ rest, acceptedCalls state.proposals = state.executions ++ task :: rest ∧
      state.Working limits (task :: rest) ∧
      state.tracker.currentBatchCallIds.drop (state.nextBatchOrdinal - 1) =
        task.callId :: rest.map ToolTask.callId ∧
      ((task :: rest).map ToolTask.callId).Nodup := by
  obtain ⟨remaining, order, work⟩ := sound.ordered
  have working := work turn.working
  have unique : (remaining.map ToolTask.callId).Nodup := by
    have all := sound.unique
    rw [order, List.map_append] at all
    exact (List.nodup_append.mp all).2.1
  obtain ⟨rest, rfl, place⟩ := working.first unique turn
  exact ⟨rest, order, working, place, unique⟩

theorem LoopState.Sound.not_answered (sound : state.Sound limits) (turn : state.Turn task)
    {answer : String} (ended : state.outcome = some (.ok answer)) : False := by
  have waiting := turn.waiting
  rw [(sound.answered answer ended).1] at waiting
  cases waiting

/-- A tool task that fails ends the loop with at most its own call counted and executed. -/
theorem LoopState.Sound.abort (sound : state.Sound limits) (turn : state.Turn task)
    (tasks : List (ToolTask J)) {executions : List (ToolTask J)} {counted : Nat}
    (error : AgentLoopError) (once : counted ≤ 1)
    (next : executions = state.executions ∨
      counted = 1 ∧ executions = state.executions ++ [task]) :
    ({ state with
      tasks := tasks
      executions := executions
      tracker :=
        { state.tracker with
          toolCallCount := state.tracker.toolCallCount + counted } }.abort error).Sound limits := by
  obtain ⟨rest, order, working, -, -⟩ := sound.turn turn
  have later : acceptedCalls state.proposals = state.executions ++ [task] ++ rest := by
    rw [order, List.append_assoc]
    rfl
  have begun := working.begun
  have fits := working.callsFit
  rw [List.length_cons] at fits
  refine
    { models := sound.models, iterations := sound.iterations, calls := ?_, results := sound.results
      executed := ?_, seen := sound.seen, unique := sound.unique, ordered := ?_
      ended := fun _ => LoopState.raise_outcome error
      answered := fun answer ended =>
        (sound.not_answered turn (LoopState.raise_ok ended)).elim }
  · change state.tracker.toolCallCount + counted ≤ limits.maxToolCalls
    omega
  · change executions.length ≤ state.tracker.toolCallCount + counted
    rcases next with rfl | ⟨rfl, rfl⟩
    · omega
    · rw [List.length_append, List.length_singleton]
      omega
  · rcases next with rfl | ⟨-, rfl⟩
    · exact ⟨task :: rest, order, by rintro ⟨⟩⟩
    · exact ⟨rest, later, by rintro ⟨⟩⟩

theorem Tracker.completeTool_batch (tracker : Tracker) (ordinal : Nat) :
    (tracker.completeTool ordinal).currentBatchCallIds =
      if ordinal = tracker.currentBatchCallIds.length then [] else tracker.currentBatchCallIds := by
  unfold Tracker.completeTool
  split <;> rfl

theorem Tracker.completeTool_frame (tracker : Tracker) (ordinal : Nat) :
    (tracker.completeTool ordinal).callCount = tracker.callCount ∧
      (tracker.completeTool ordinal).iterationCount = tracker.iterationCount ∧
      (tracker.completeTool ordinal).toolCallCount = tracker.toolCallCount ∧
      (tracker.completeTool ordinal).toolResultCount = tracker.toolResultCount + 1 ∧
      (tracker.completeTool ordinal).seenToolCallIds = tracker.seenToolCallIds := by
  unfold Tracker.completeTool
  split <;> exact ⟨rfl, rfl, rfl, rfl, rfl⟩

/-- The tracker of a loop after the call whose turn it was. -/
def LoopState.trackerAfter (state : LoopState J) : Tracker :=
  { state.tracker with
    toolCallCount := state.tracker.toolCallCount + 1 }.completeTool state.nextBatchOrdinal

/-- A completed call moves from what remains to what is executed. -/
theorem LoopState.Sound.complete (sound : state.Sound limits) {index next : Nat}
    (turn : state.Turn task) {rest : List (ToolTask J)}
    {outcome : Option (Except AgentLoopError String)}
    (order : acceptedCalls state.proposals = state.executions ++ task :: rest)
    (later : ∀ answer, outcome = some (.ok answer) → state.outcome = some (.ok answer))
    (working : state.Working limits (task :: rest))
    (fewer : (state.tasks.eraseIdx index).Sublist rest)
    (whole : outcome = none → state.tasks.eraseIdx index = rest) (positive : 1 ≤ next)
    (place :
      (state.trackerAfter.currentBatchCallIds.drop (next - 1) = rest.map ToolTask.callId ∧
        (rest = [] → state.trackerAfter.currentBatchCallIds = [] ∧ next = 1)) ∨
      (outcome ≠ none ∧ ∀ other ∈ rest,
        state.trackerAfter.batchOrdinal other.callId ≠ .ok next)) :
    LoopState.Sound limits
      { state with
        tasks := state.tasks.eraseIdx index
        executions := state.executions ++ [task]
        tracker := state.trackerAfter
        nextBatchOrdinal := next
        outcome := outcome } := by
  obtain ⟨models, iterations, calls, results, seen⟩ := Tracker.completeTool_frame
    { state.tracker with toolCallCount := state.tracker.toolCallCount + 1 } state.nextBatchOrdinal
  have begun := working.begun
  have completed := working.completed
  have callsFit := working.callsFit
  have resultsFit := working.resultsFit
  have size : (state.executions ++ [task]).length = state.executions.length + 1 := by simp
  have called : state.trackerAfter.toolCallCount = (state.executions ++ [task]).length := by
    rw [size, LoopState.trackerAfter, calls, begun]
  have answered : state.trackerAfter.toolResultCount = (state.executions ++ [task]).length := by
    rw [size, LoopState.trackerAfter, results, completed]
  rw [List.length_cons] at callsFit resultsFit
  have room : (state.executions ++ [task]).length + rest.length ≤ limits.maxToolCalls ∧
      (state.executions ++ [task]).length + rest.length ≤ limits.maxToolResults := by omega
  refine
    { models := models.trans_le sound.models, iterations := iterations.trans_le sound.iterations
      calls := ?_, results := ?_, executed := called.ge, seen := ?_, unique := sound.unique
      ordered := ⟨rest, order.trans (List.append_assoc _ [task] rest).symm, fun _ =>
        ⟨called, answered, room.1, room.2, fewer, whole, positive, place⟩⟩
      ended := fun failed => absurd (failed.symm.trans turn.working) (by decide)
      answered := fun answer ended => (sound.not_answered turn (later answer ended)).elim }
  · change state.trackerAfter.toolCallCount ≤ limits.maxToolCalls
    omega
  · change state.trackerAfter.toolResultCount ≤ limits.maxToolResults
    omega
  · intro other member
    exact seen ▸ sound.seen other member

/-- The batch after a completed call: cleared behind its last call. -/
theorem LoopState.trackerAfter_batch {first : String} {rest : List String}
    (positive : 1 ≤ state.nextBatchOrdinal)
    (place : state.tracker.currentBatchCallIds.drop (state.nextBatchOrdinal - 1) =
      first :: rest) :
    (rest = [] → state.trackerAfter.currentBatchCallIds = []) ∧
      (rest ≠ [] → state.trackerAfter.currentBatchCallIds ≠ [] ∧
        state.trackerAfter.currentBatchCallIds = state.tracker.currentBatchCallIds ∧
        state.trackerAfter.currentBatchCallIds.drop state.nextBatchOrdinal = rest) := by
  have batch : state.trackerAfter.currentBatchCallIds =
      if state.nextBatchOrdinal = state.tracker.currentBatchCallIds.length then []
      else state.tracker.currentBatchCallIds := Tracker.completeTool_batch _ _
  have tail := congrArg (List.drop 1) place
  rw [List.drop_drop, show state.nextBatchOrdinal - 1 + 1 = state.nextBatchOrdinal by omega] at tail
  have size := congrArg List.length place
  rw [List.length_drop, List.length_cons] at size
  constructor
  · rintro rfl
    rw [batch, if_pos]
    simp only [List.length_nil] at size
    omega
  · intro more
    have later := List.length_pos_iff.mpr more
    have unfinished : state.nextBatchOrdinal ≠ state.tracker.currentBatchCallIds.length := by omega
    rw [batch, if_neg unfinished]
    refine ⟨fun none => ?_, rfl, tail⟩
    rw [none, List.length_nil] at size
    omega

/-- The tasks other than the one that completes are among the calls that remain. -/
theorem LoopState.Working.others (working : state.Working limits (task :: remaining)) {index : Nat}
    (unique : ((task :: remaining).map ToolTask.callId).Nodup)
    (found : state.tasks[index]? = some task) :
    (state.tasks.eraseIdx index).Sublist remaining ∧
      (state.outcome = none → state.tasks.eraseIdx index = remaining) := by
  have distinct : (state.tasks.map ToolTask.callId).Nodup :=
    unique.sublist (working.inside.map ToolTask.callId)
  have rest : (task :: remaining).filter (fun other => decide (other.callId ≠ task.callId)) =
      remaining := (KeyedList.eraseIdx_of_unique unique (i := 0) rfl).symm
  rw [KeyedList.eraseIdx_of_unique distinct found]
  constructor
  · have fewer := working.inside.filter fun other => decide (other.callId ≠ task.callId)
    rwa [rest] at fewer
  · intro none
    rw [working.whole none, rest]

theorem LoopState.Sound.tool (sound : state.Sound limits) {after : LoopState J}
    (moved : ToolMove state after) : after.Sound limits := by
  cases moved with
  | idle => exact sound
  | refused index error => exact sound.drop (List.eraseIdx_sublist _ _) error
  | stopped index task turn counted once error => exact sound.abort turn _ error once (.inl rfl)
  | failed index task turn error => exact sound.abort turn _ error (Nat.le_refl 1) (.inr ⟨rfl, rfl⟩)
  | unobserved index task turn found error =>
    obtain ⟨rest, order, working, place, unique⟩ := sound.turn turn
    obtain ⟨fewer, -⟩ := working.others unique found
    refine sound.complete turn order (fun answer ended => LoopState.raise_ok ended) working fewer
      (fun none => absurd none (LoopState.raise_outcome error)) working.positive
      (.inr ⟨LoopState.raise_outcome error, fun other member here => ?_⟩)
    obtain ⟨-, open_⟩ := LoopState.trackerAfter_batch working.positive place
    obtain ⟨-, batch, -⟩ := open_ fun none => by
      rw [List.map_eq_nil_iff.mp none] at member
      cases member
    obtain ⟨behind, located⟩ := Tracker.batchOrdinal_ok here
    rw [batch, place] at located
    rw [List.map_cons, List.nodup_cons] at unique
    exact unique.1 ((List.cons.inj located).1 ▸ List.mem_map_of_mem member)
  | completed index task turn found =>
    obtain ⟨rest, order, working, place, unique⟩ := sound.turn turn
    obtain ⟨fewer, all⟩ := working.others unique found
    obtain ⟨closed, open_⟩ := LoopState.trackerAfter_batch working.positive place
    refine sound.complete turn order (fun answer ended => ended) working fewer all ?_ (.inl ?_)
    · split <;> omega
    · change state.trackerAfter.currentBatchCallIds.drop
          ((if state.trackerAfter.currentBatchCallIds = [] then 1
            else state.nextBatchOrdinal + 1) - 1) = _ ∧ (_ → _ ∧
          (if state.trackerAfter.currentBatchCallIds = [] then 1
            else state.nextBatchOrdinal + 1) = 1)
      cases rest with
      | nil =>
        rw [closed rfl]
        exact ⟨rfl, fun _ => ⟨rfl, rfl⟩⟩
      | cons next rest =>
        obtain ⟨some, -, tail⟩ := open_ (by simp)
        rw [if_neg some]
        exact ⟨tail, by rintro ⟨⟩⟩

/-- Between batches everything accepted has been executed. -/
theorem LoopState.Sound.settled (sound : state.Sound limits) (running : state.outcome = none)
    (free : state.tasks = []) :
    state.failed = false ∧ state.executions = acceptedCalls state.proposals ∧
      state.Working limits [] ∧ state.nextBatchOrdinal = 1 := by
  have unfailed : state.failed = false := by
    cases failed : state.failed with
    | false => rfl
    | true => exact absurd running (sound.ended failed)
  obtain ⟨remaining, order, work⟩ := sound.ordered
  have working := work unfailed
  obtain rfl : remaining = [] := (working.whole running).symm.trans free
  rcases working.place with ⟨-, cleared⟩ | ⟨over_, -⟩
  · exact ⟨unfailed, by rw [order, List.append_nil], working, (cleared rfl).2⟩
  · exact absurd running over_

/-- Counting a model call, and recording proposals that add no call. -/
theorem LoopState.Sound.frame (sound : state.Sound limits) {callCount iterationCount : Nat}
    {proposals : List (Proposal J)} (models : callCount ≤ limits.maxModelCalls)
    (iterations : iterationCount ≤ limits.maxIterations)
    (same : acceptedCalls proposals = acceptedCalls state.proposals) :
    LoopState.Sound limits
      { state with
        tracker :=
          { state.tracker with callCount := callCount, iterationCount := iterationCount }
        proposals := proposals } where
  models := models
  iterations := iterations
  calls := sound.calls
  results := sound.results
  executed := sound.executed
  seen := fun task member => sound.seen task (same ▸ member)
  unique := same ▸ sound.unique
  ordered := by
    obtain ⟨remaining, order, work⟩ := sound.ordered
    exact ⟨remaining, same.trans order, fun unfailed =>
      let working := work unfailed
      ⟨working.begun, working.completed, working.callsFit, working.resultsFit, working.inside,
        working.whole, working.positive, working.place⟩⟩
  ended := sound.ended
  answered := fun answer ended => by
    obtain ⟨none, all⟩ := sound.answered answer ended
    exact ⟨none, all.trans same.symm⟩

theorem LoopState.Sound.finish (sound : state.Sound limits) (running : state.outcome = none)
    (free : state.tasks = []) (boundary : Boundary) (response : ChatResponse J) :
    (state.finish boundary response).Sound limits := by
  unfold LoopState.finish
  split
  · exact sound.raise _
  · split
    · exact sound.raise _
    · split
      · exact sound.raise _
      · split
        · exact sound.raise _
        next answer _ _ _ =>
          obtain ⟨unfailed, all, working, first⟩ := sound.settled running free
          refine
            { sound with
              ordered := ⟨[], by rw [List.append_nil]; exact all.symm, fun _ =>
                { working with
                  whole := by rintro ⟨⟩
                  place := working.place.imp_right fun stuck => absurd running stuck.1 }⟩
              ended := fun failed => absurd (failed.symm.trans unfailed) (by decide)
              answered := fun _ _ => ⟨free, all⟩ }

/-- A batch that is let through becomes what remains. -/
theorem LoopState.Sound.accept (sound : state.Sound limits) (running : state.outcome = none)
    (free : state.tasks = []) {calls : List (ProposedCall J)} (proposed : calls ≠ [])
    (distinct : (calls.map ProposedCall.callId).Nodup)
    (fresh : ∀ call ∈ calls, call.callId ∉ state.tracker.seenToolCallIds)
    {iterationCount batchIteration : Nat} (iterations : iterationCount ≤ limits.maxIterations)
    (callsFit : state.tracker.toolCallCount + calls.length ≤ limits.maxToolCalls)
    (resultsFit : state.tracker.toolResultCount + calls.length ≤ limits.maxToolResults) :
    LoopState.Sound limits
      { state.propose ⟨calls, true⟩ with
        tracker :=
          { state.tracker with
            iterationCount := iterationCount
            currentBatchIteration := batchIteration
            currentBatchCallIds := calls.map ProposedCall.callId
            seenToolCallIds :=
              state.tracker.seenToolCallIds ++ calls.map ProposedCall.callId }
        tasks := calls.map (ToolTask.mk state.proposals.length) } := by
  obtain ⟨unfailed, all, working, first⟩ := sound.settled running free
  have accepted : acceptedCalls (state.proposals ++ [⟨calls, true⟩]) =
      acceptedCalls state.proposals ++ calls.map (ToolTask.mk state.proposals.length) :=
    acceptedCalls_snoc _ _
  have ids : (calls.map (ToolTask.mk state.proposals.length)).map ToolTask.callId =
      calls.map ProposedCall.callId := by
    rw [List.map_map]
    rfl
  have seen : ∀ task ∈ acceptedCalls (state.proposals ++ [⟨calls, true⟩]), task.callId ∈
      state.tracker.seenToolCallIds ++ calls.map ProposedCall.callId := by
    intro task member
    rw [accepted, List.mem_append] at member
    refine List.mem_append.mpr (member.imp (sound.seen task) fun inside => ?_)
    exact ids ▸ List.mem_map_of_mem inside
  have unique : ((acceptedCalls (state.proposals ++ [⟨calls, true⟩])).map
      ToolTask.callId).Nodup := by
    rw [accepted, List.map_append, ids]
    refine List.nodup_append'.mpr ⟨sound.unique, distinct, ?_⟩
    intro callId old new
    obtain ⟨task, member, rfl⟩ := List.mem_map.mp old
    obtain ⟨call, inside, same⟩ := List.mem_map.mp new
    exact fresh call inside (same ▸ sound.seen task member)
  have size : (calls.map (ToolTask.mk state.proposals.length)).length = calls.length :=
    List.length_map _
  have begun := working.begun
  have completed := working.completed
  exact
    { models := sound.models, iterations := iterations, calls := sound.calls
      results := sound.results, executed := sound.executed, seen := seen, unique := unique
      ordered := ⟨calls.map (ToolTask.mk state.proposals.length),
        accepted.trans (congrArg (· ++ _) all.symm), fun _ =>
        { begun := begun, completed := completed
          callsFit := size ▸ begun ▸ callsFit
          resultsFit := size ▸ completed ▸ resultsFit
          inside := List.Sublist.refl _
          whole := fun _ => rfl
          positive := working.positive
          place := .inl ⟨(congrArg (fun ordinal => List.drop (ordinal - 1) _) first).trans ids.symm,
            fun none => absurd (List.map_eq_nil_iff.mp none) proposed⟩ }⟩
      ended := fun failed => absurd (failed.symm.trans unfailed) (by decide)
      answered := fun answer ended => absurd (running.symm.trans ended) (by simp) }

theorem LoopState.Sound.model {setup : LoopSetup J} (sound : state.Sound setup.limits)
    (running : state.outcome = none) (free : state.tasks = []) (before preflight end_ : Boundary)
    (response : Except AgentLoopError (ChatResponse J)) :
    (state.runModel setup before preflight end_ response).Sound setup.limits := by
  unfold LoopState.runModel
  cases began : state.tracker.beginModel setup.limits before with
  | error error => exact sound.raise error
  | ok tracker =>
    obtain ⟨models, iterations, rfl⟩ := Tracker.beginModel_ok began
    have counted := sound.frame models iterations (Eq.refl (acceptedCalls state.proposals))
    dsimp only
    split
    next => exact counted.raise _
    next => exact counted.raise _
    next response _ =>
      split
      next =>
        exact (sound.frame models iterations
          (acceptedCalls_snoc_none state.proposals (.inl rfl))).raise _
      next shown after accepted =>
        rcases LoopSetup.acceptedResponse_ok accepted with
          ⟨none, rfl⟩ | ⟨proposed, rfl, distinct, fresh, room, calls, results, rfl⟩
        · have same : acceptedCalls
                (state.proposals ++ [⟨response.toolCalls, response.toolCalls.isEmpty⟩]) =
              acceptedCalls state.proposals :=
            acceptedCalls_snoc_none _ (by cases response.toolCalls <;> simp)
          rw [none]
          exact (free ▸ sound.frame models iterations same).finish running rfl end_ shown
        · have some : shown.toolCalls.isEmpty = false := by simpa using proposed
          rw [some]
          exact counted.accept running free proposed distinct fresh (Nat.le_of_succ_le room) calls
            results

theorem agentLoop_sound (setup : LoopSetup J) (events : List (LoopEvent J)) :
    ((agentLoop setup).reached events).Sound setup.limits := by
  refine (agentLoop setup).reached_invariant (LoopState.start_sound _) ?_ events
  intro state event sound
  change (state.next setup event).Sound setup.limits
  cases event with
  | model before preflight after response =>
    simp only [LoopState.next]
    split
    · exact sound
    next idle =>
      simp only [Bool.or_eq_true, Bool.not_eq_true', not_or, Bool.not_eq_true,
        Option.isSome_eq_false_iff, Option.isNone_iff_eq_none, Bool.not_eq_false,
        List.isEmpty_iff] at idle
      exact sound.model idle.1 idle.2 before preflight after response
  | tool index before entry result observed =>
    exact sound.tool (state.runTool_moves index before entry result observed)
  | dropped index =>
    simp only [LoopState.next]
    split
    · exact sound.drop (List.eraseIdx_sublist _ _) _
    · exact sound
  | interrupted error => exact sound.raise error

end Steps

end Pathfinder
