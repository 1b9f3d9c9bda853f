import Pathfinder.Tools.Books

/-!
# Turns of an execution

What one step of an execution does to the ledger, where the recorder is reachable
and the clock does not run backwards: it starts an attempt, goes on with the next one
or records the end. Only an answer that no clause can record ends the execution
without a record.
-/
namespace Pathfinder
open KeyedTable Machines

variable {J O : Type} {registry : ToolRegistry J O}

/-- The `except` clauses, or the checks of the output, record the end of such an
attempt. -/
def Finalizable (spec : ToolSpec J O) : HandlerAnswer O → Prop
  | .raised exception => exception ≠ .unavailable ∧ exception ≠ .base
  | .returned output => match spec.serialize output with
    | .ok text => (encodedLength text).isSome = true
    | .error .invalid => True
    | .error .other => False

/-- The recorder is reachable and the clock has not run backwards. -/
def FinishInputs.Undisturbed (inputs : FinishInputs) (startedAt : ℚ) : Prop :=
  inputs.reachable = true ∧ ∃ now, inputs.reading = some now ∧ startedAt ≤ now

/-- A turn of an execution that has `count` attempts started. -/
inductive ToolTurn (registry : ToolRegistry J O) (execution : ToolExecution J O)
    (ledger : ToolLedger) (count : Nat) : ToolLedger → ExecutionPhase → Prop where
  | started {row : ToolInvocationRow} {limits : Bool}
      (below : count < execution.spec.maxAttempts)
      (stored : ledger.rows.get execution.reservation.invocationId = some row) :
      ToolTurn registry execution ledger count
        ((ledger.put execution.reservation.invocationId
            { row with status := .executing, attempt := count + 1 }
            (.started execution.reservation.invocationId (count + 1))).note
          (.handled execution.reservation.invocationId (count + 1)))
        (.handling (count + 1) limits)
  | retried (below : count < execution.spec.maxAttempts) :
      ToolTurn registry execution ledger count ledger (.looping (count + 1))
  | recorded {seen : ToolLedger} {row : ToolInvocationRow} {latencyMs : Nat}
      {record : TerminalRecord} {result : Except ToolFailure CodePoints}
      (noted : seen = ledger ∨ seen = ledger.note (.observed execution.reservation.invocationId))
      (agrees : record.agrees registry result) :
      ToolTurn registry execution ledger count
        (seen.put execution.reservation.invocationId (row.finish latencyMs record)
          (.finished execution.reservation.invocationId record))
        (.ended result)

section Turns
variable {world : ToolWorld J O} {executionId : UUID} {execution : ToolExecution J O}
  {ledger seen : ToolLedger} {count attempt : Nat} {inputs : FinishInputs}

theorem toolElapsedMs_ok {reading : Option ℚ} {now startedAt : ℚ} (read : reading = some now)
    (forwards : startedAt ≤ now) :
    ∃ latencyMs, toolElapsedMs reading startedAt = .ok latencyMs := by
  have elapsed : ¬ now - startedAt < 0 := not_lt.mpr (sub_nonneg.mpr forwards)
  rw [read, toolElapsedMs]
  dsimp only [toolClockValue]
  rw [if_neg elapsed]
  exact ⟨_, rfl⟩

/-- `_finish` finds the row of an invocation that is under way. -/
theorem finish_underway (underway : OpenInvocation ledger execution.reservation.invocationId count)
    (noted : seen = ledger ∨ seen = ledger.note (.observed execution.reservation.invocationId))
    (latencyMs : Nat) (record : TerminalRecord) :
    ∃ row : ToolInvocationRow,
      seen.finish true execution.reservation.invocationId latencyMs record =
        .ok (seen.put execution.reservation.invocationId (row.finish latencyMs record)
          (.finished execution.reservation.invocationId record)) := by
  obtain ⟨row, stored, -, status⟩ := underway.stored
  have there : seen.rows.get execution.reservation.invocationId = some row := by
    rcases noted with rfl | rfl
    · exact stored
    · exact stored
  have unfinished : row.status = .prepared ∨ row.status = .executing := by
    rw [status]
    split
    · exact .inl rfl
    · exact .inr rfl
  refine ⟨row, ?_⟩
  rw [ToolLedger.finish, there]
  exact if_pos unfinished

/-- `_record_failure` succeeds. -/
theorem recordFailure_ok (undisturbed : inputs.Undisturbed execution.startedAt)
    (underway : OpenInvocation ledger execution.reservation.invocationId count)
    (noted : seen = ledger ∨ seen = ledger.note (.observed execution.reservation.invocationId))
    (category : String) :
    ∃ (row : ToolInvocationRow) (latencyMs : Nat), recordFailure execution category inputs seen =
      .ok (seen.put execution.reservation.invocationId (row.finish latencyMs (.failed category))
        (.finished execution.reservation.invocationId (.failed category))) := by
  obtain ⟨reachable, now, read, forwards⟩ := undisturbed
  obtain ⟨latencyMs, elapsed⟩ := toolElapsedMs_ok read forwards
  obtain ⟨row, finished⟩ := finish_underway underway noted latencyMs (.failed category)
  refine ⟨row, latencyMs, ?_⟩
  rw [recordFailure, elapsed]
  dsimp only
  rw [reachable, finished]

/-- So does `succeed`. -/
theorem recordSuccess_ok (undisturbed : inputs.Undisturbed execution.startedAt)
    (underway : OpenInvocation ledger execution.reservation.invocationId count)
    (text : CodePoints) :
    ∃ (row : ToolInvocationRow) (latencyMs : Nat),
      recordSuccess registry execution text inputs ledger =
        .ok (ledger.put execution.reservation.invocationId
          (row.finish latencyMs (.succeeded (outputSummary registry text)))
          (.finished execution.reservation.invocationId
            (.succeeded (outputSummary registry text)))) := by
  obtain ⟨reachable, now, read, forwards⟩ := undisturbed
  obtain ⟨latencyMs, elapsed⟩ := toolElapsedMs_ok read forwards
  obtain ⟨row, finished⟩ := finish_underway underway (.inl rfl) latencyMs
    (.succeeded (outputSummary registry text))
  refine ⟨row, latencyMs, ?_⟩
  rw [recordSuccess, elapsed]
  dsimp only
  rw [reachable, finished]

/-- The category that a clause records is the one its error is reported by. -/
theorem resolveException_agrees {maxAttempts : Nat} {limits insists : Bool}
    {exception : AttemptException} {category : String} {failure : ToolFailure}
    (resolved : resolveException maxAttempts attempt limits exception =
      .fail category failure insists) : failure.category = some category := by
  cases exception <;> simp only [resolveException] at resolved <;> grind [ToolFailure.category]

/-- A clause goes on with the loop below the limit only, and for no exception that shows
an end of the permission. -/
theorem resolveException_retry {maxAttempts : Nat} {limits : Bool}
    {exception : AttemptException}
    (resolved : resolveException maxAttempts attempt limits exception = .retry) :
    attempt < maxAttempts ∧ exception.observes limits = false := by
  cases exception <;> simp only [resolveException] at resolved <;> grind [AttemptException.observes]

theorem resolveException_abandon {maxAttempts : Nat} {limits : Bool}
    {exception : AttemptException} {failure : ToolFailure}
    (resolved : resolveException maxAttempts attempt limits exception = .abandon failure) :
    exception = .unavailable ∨ exception = .base := by
  cases exception <;> simp only [resolveException] at resolved <;> grind

/-- An attempt that raised is retried or recorded. -/
theorem settle_turn {limits : Bool} {exception : AttemptException}
    (undisturbed : inputs.Undisturbed execution.startedAt)
    (underway : OpenInvocation world.ledger execution.reservation.invocationId count)
    (handled : exception ≠ .unavailable ∧ exception ≠ .base)
    (going : attempt = count ∨
      resolveException execution.spec.maxAttempts attempt limits exception ≠ .retry) :
    ∃ later phase, world.settle executionId execution attempt limits exception inputs =
        world.enter executionId execution later phase ∧
      ToolTurn registry execution world.ledger count later phase := by
  have noted : (if exception.observes limits then
      world.ledger.note (.observed execution.reservation.invocationId) else world.ledger) =
        world.ledger ∨ (if exception.observes limits then
      world.ledger.note (.observed execution.reservation.invocationId) else world.ledger) =
        world.ledger.note (.observed execution.reservation.invocationId) := by
    split
    · exact .inr rfl
    · exact .inl rfl
  unfold ToolWorld.settle
  dsimp only
  generalize saw : (if exception.observes limits then
    world.ledger.note (.observed execution.reservation.invocationId) else world.ledger) = seen
    at noted ⊢
  split
  next retried =>
    obtain ⟨below, silent⟩ := resolveException_retry retried
    rcases going with rfl | never
    · rw [silent, if_neg Bool.false_ne_true] at saw
      subst saw
      exact ⟨_, _, rfl, .retried below⟩
    · exact absurd retried never
  next abandoned =>
    rcases resolveException_abandon abandoned with same | same
    · exact absurd same handled.1
    · exact absurd same handled.2
  next category failure insists failed =>
    obtain ⟨row, latencyMs, written⟩ := recordFailure_ok undisturbed underway noted category
    rw [written]
    exact ⟨_, _, rfl, .recorded noted ⟨category, resolveException_agrees failed, rfl⟩⟩

/-- `start_attempt` finds the row as the attempt before has left it. -/
theorem startAttempt_underway
    (underway : OpenInvocation ledger execution.reservation.invocationId count) :
    ∃ row : ToolInvocationRow,
      ledger.rows.get execution.reservation.invocationId = some row ∧
        ledger.startAttempt true true execution.reservation.invocationId (count + 1) =
          .ok (ledger.put execution.reservation.invocationId
            { row with status := .executing, attempt := count + 1 }
            (.started execution.reservation.invocationId (count + 1))) := by
  obtain ⟨row, stored, counted, status⟩ := underway.stored
  have first : count + 1 = 1 ↔ count = 0 := Nat.add_eq_right
  have expected : row.status = (if count + 1 = 1 then .prepared else .executing) ∧
      row.attempt = count + 1 - 1 := by
    rw [status, counted]
    simp only [first, Nat.add_sub_cancel, and_self]
  refine ⟨row, stored, ?_⟩
  rw [ToolLedger.startAttempt, stored]
  exact if_pos expected

/-- The checks in front of an attempt fail for good. -/
theorem settle_front {exception : AttemptException}
    (undisturbed : inputs.Undisturbed execution.startedAt)
    (underway : OpenInvocation world.ledger execution.reservation.invocationId count)
    (front : exception = .authorization ∨ exception = .other ∨
      (∃ message, exception = .toolCancelled message) ∨
      ∃ message, exception = .deadlineExceeded message) :
    ∃ later phase, world.settle executionId execution (count + 1) false exception inputs =
        world.enter executionId execution later phase ∧
      ToolTurn registry execution world.ledger count later phase := by
  rcases front with rfl | rfl | ⟨message, rfl⟩ | ⟨message, rfl⟩
  all_goals exact settle_turn undisturbed underway ⟨nofun, nofun⟩ (.inr nofun)

theorem asException_front (failure : ToolFailure) : failure.asException = .authorization ∨
    failure.asException = .other ∨
      (∃ message, failure.asException = .toolCancelled message) ∨
      ∃ message, failure.asException = .deadlineExceeded message := by
  cases failure with
  | toolCancelled message => exact .inr (.inr (.inl ⟨message, rfl⟩))
  | deadlineExceeded message => exact .inr (.inr (.inr ⟨message, rfl⟩))
  | _ => exact .inr (.inl rfl)

/-- The head of the loop starts the attempt, or records why it does not. -/
theorem startAttempt_turn (executionId : UUID) {inputs : StartInputs}
    (reachable : inputs.reachable = true)
    (undisturbed : inputs.finish.Undisturbed execution.startedAt)
    (underway : OpenInvocation world.ledger execution.reservation.invocationId count)
    (below : count < execution.spec.maxAttempts) :
    ∃ later phase, world.startAttempt executionId execution (count + 1) inputs =
        world.enter executionId execution later phase ∧
      ToolTurn registry execution world.ledger count later phase := by
  unfold ToolWorld.startAttempt
  split
  next failure _ => exact settle_front undisturbed underway (asException_front failure)
  · split
    next failure _ => exact settle_front undisturbed underway (asException_front failure)
    next remaining _ =>
      dsimp only
      rw [reachable]
      cases authorized : inputs.authorized with
      | false => exact settle_front undisturbed underway (.inl rfl)
      | true =>
        obtain ⟨row, stored, started⟩ := startAttempt_underway underway
        rw [started]
        exact ⟨_, _, rfl, .started below stored⟩

theorem normalizeOutput_failure {spec : ToolSpec J O} {output : O} {failure : ToolFailure}
    (refused : normalizeOutput spec output = .error (.registry failure)) :
    failure.category = some "invalid_tool_output" := by
  unfold normalizeOutput at refused
  split at refused
  · cases refused
    rfl
  · cases refused
  · split at refused
    · cases refused
    split at refused
    · cases refused
      rfl
    · cases refused

theorem normalizeOutput_other {spec : ToolSpec J O} {output : O} :
    normalizeOutput spec output = .error .other ↔ ¬ Finalizable spec (.returned output) := by
  unfold normalizeOutput Finalizable
  dsimp only
  cases spec.serialize output with
  | error error => cases error <;> simp
  | ok text =>
    dsimp only
    cases encoded : encodedLength text with
    | none => simp
    | some bytes =>
      dsimp only
      split
      · simp
      · simp

/-- What follows the handler's await retries or records, for an answer that can be
recorded. -/
theorem finishAttempt_turn (registry : ToolRegistry J O) (executionId : UUID) (limits : Bool)
    {answer : HandlerAnswer O}
    (undisturbed : inputs.Undisturbed execution.startedAt)
    (underway : OpenInvocation world.ledger execution.reservation.invocationId count)
    (finalizable : Finalizable execution.spec answer) :
    ∃ later phase,
      world.finishAttempt executionId execution registry count limits answer inputs =
        world.enter executionId execution later phase ∧
      ToolTurn registry execution world.ledger count later phase := by
  cases answer with
  | raised exception => exact settle_turn undisturbed underway finalizable (.inl rfl)
  | returned output =>
    unfold ToolWorld.finishAttempt
    dsimp only
    split
    next escaped => exact absurd finalizable (normalizeOutput_other.mp escaped)
    next failure refused =>
      obtain ⟨row, latencyMs, written⟩ :=
        recordFailure_ok undisturbed underway (.inl rfl) "invalid_tool_output"
      rw [written]
      exact ⟨_, _, rfl, .recorded (.inl rfl) ⟨_, normalizeOutput_failure refused, rfl⟩⟩
    next text normalized =>
      obtain ⟨row, latencyMs, written⟩ := recordSuccess_ok undisturbed underway text
      rw [written]
      exact ⟨_, _, rfl, .recorded (.inl rfl) rfl⟩

/-- Any other answer ends the execution and writes nothing. -/
theorem finishAttempt_stuck (registry : ToolRegistry J O) (world : ToolWorld J O)
    (executionId : UUID) (count : Nat) (limits : Bool) (inputs : FinishInputs)
    {answer : HandlerAnswer O} (refused : ¬ Finalizable execution.spec answer) :
    ∃ failure, world.finishAttempt executionId execution registry count limits answer inputs =
      world.enter executionId execution world.ledger (.ended (.error failure)) := by
  cases answer with
  | raised exception =>
    have clause : exception = .unavailable ∨ exception = .base := by
      simpa only [Finalizable, ne_eq, not_and_or, not_not] using refused
    rcases clause with rfl | rfl
    · exact ⟨_, rfl⟩
    · exact ⟨_, rfl⟩
  | returned output =>
    unfold ToolWorld.finishAttempt
    dsimp only
    rw [normalizeOutput_other.mpr refused]
    exact ⟨_, rfl⟩

end Turns

/-! ## Steps -/

/-- The recorder is reachable in the step, and the clock gives readings that do not run
backwards. -/
def UndisturbedStep (world : ToolWorld J O) : ToolOp J O → Prop
  | .execute _ _ _ inputs => inputs.reachable = true ∧ inputs.startReading.isSome = true
  | .startAttempt executionId inputs => ∀ execution,
    world.executions.get executionId = some execution →
      inputs.reachable = true ∧ inputs.finish.Undisturbed execution.startedAt
  | .answer executionId _ inputs => ∀ execution,
    world.executions.get executionId = some execution → inputs.Undisturbed execution.startedAt
  | .action .. => True

/-- The handler of a running attempt ends in a way that can be recorded. -/
def HandlerFinalizable (world : ToolWorld J O) : ToolOp J O → Prop
  | .answer executionId answer _ => ∀ execution attempt limits,
    world.executions.get executionId = some execution →
      execution.phase = .handling attempt limits → Finalizable execution.spec answer
  | .execute .. | .startAttempt .. | .action .. => True

/-- A reservation of `spec` under a fresh id. -/
structure Reserves (spec : ToolSpec J O) (ledger later : ToolLedger)
    (invocationId : UUID) : Prop where
  below : ledger.rows.keys.length < spec.perRunCallLimit
  absent : ledger.rows.get invocationId = none
  written : ∃ row : ToolInvocationRow, row.status = .prepared ∧ row.attempt = 0 ∧
    later = ledger.put invocationId row (.reserved invocationId spec.name)

/-- What an undisturbed step does. -/
inductive ToolStep (registry : ToolRegistry J O) (world : ToolWorld J O) :
    ToolOp J O → ToolWorld J O → Prop where
  | idle {op : ToolOp J O} (finalizable : HandlerFinalizable world op) :
      ToolStep registry world op world
  | action {invocationId : UUID} {row : ToolInvocationRow}
      (absent : world.ledger.rows.get invocationId = none) :
      ToolStep registry world (.action invocationId row)
        ⟨⟨world.ledger.rows.put invocationId row, world.ledger.log⟩, world.executions⟩
  | reserved {executionId : UUID} {context : ToolRunContext} {call : ModelToolCall J}
      {inputs : ReserveInputs} {spec : ToolSpec J O} {later : ToolLedger}
      {reservation : ToolInvocationReservation} {startedAt : ℚ}
      (fresh : world.executions.get executionId = none)
      (declared : registry.specs spec.name = some spec)
      (reserves : Reserves spec world.ledger later reservation.invocationId) :
      ToolStep registry world (.execute executionId context call inputs)
        ⟨later, world.executions.put executionId
          ⟨context, spec, reservation, startedAt, .looping 1⟩⟩
  | turned {op : ToolOp J O} {executionId : UUID} {execution : ToolExecution J O} {count : Nat}
      {later : ToolLedger} {phase : ExecutionPhase}
      (running : world.executions.get executionId = some execution)
      (underway : OpenInvocation world.ledger execution.reservation.invocationId count)
      (bounded : count ≤ execution.spec.maxAttempts)
      (turn : ToolTurn registry execution world.ledger count later phase)
      (finalizable : HandlerFinalizable world op) :
      ToolStep registry world op (world.enter executionId execution later phase)
  | stuck {op : ToolOp J O} {executionId : UUID} {execution : ToolExecution J O} {count : Nat}
      {failure : ToolFailure}
      (running : world.executions.get executionId = some execution)
      (underway : OpenInvocation world.ledger execution.reservation.invocationId count)
      (bounded : count ≤ execution.spec.maxAttempts)
      (refused : ¬ HandlerFinalizable world op) :
      ToolStep registry world op
        (world.enter executionId execution world.ledger (.ended (.error failure)))

theorem validatedCall_declared {policy : GraphToolPolicy} {call : ModelToolCall J}
    {spec : ToolSpec J O} (validated : validatedCall registry policy call = .ok spec) :
    registry.specs spec.name = some spec := by
  unfold validatedCall at validated
  split at validated
  · cases validated
  split at validated
  · cases validated
  next found declared =>
    split at validated
    · cases validated
    split at validated
    · cases validated
    split at validated
    · cases validated
    cases validated
    rw [registry.named _ _ declared, declared]

theorem reserve_ok {ledger later : ToolLedger} {authorized : Bool}
    {invocationId actorUserId : UUID} {spec : ToolSpec J O} {argsDigest : String}
    {reservation : ToolInvocationReservation}
    (reserved : ledger.reserve true authorized invocationId actorUserId spec.name spec.effect
      argsDigest spec.perRunCallLimit = .ok (later, reservation)) :
    reservation.invocationId = invocationId ∧ Reserves spec ledger later invocationId := by
  unfold ToolLedger.reserve at reserved
  rw [if_neg (by decide)] at reserved
  split at reserved
  · cases reserved
  dsimp only at reserved
  split at reserved
  · cases reserved
  next below =>
    split at reserved
    · cases reserved
    next absent =>
      cases reserved
      exact ⟨rfl, Nat.lt_of_not_le below, Option.not_isSome_iff_eq_none.mp absent,
        _, rfl, rfl, rfl⟩

theorem reserveCall_ok {context : ToolRunContext} {spec : ToolSpec J O} {call : ModelToolCall J}
    {inputs : ReserveInputs} {ledger later : ToolLedger}
    {reservation : ToolInvocationReservation} (reachable : inputs.reachable = true)
    (reserved : reserveCall registry context spec call inputs ledger = .ok (later, reservation)) :
    Reserves spec ledger later reservation.invocationId := by
  unfold reserveCall at reserved
  split at reserved
  · cases reserved
  split at reserved
  · cases reserved
  rw [reachable] at reserved
  split at reserved
  next inserted =>
    cases reserved
    obtain ⟨same, reserves⟩ := reserve_ok inserted
    exact same ▸ reserves
  all_goals cases reserved

/-- Every undisturbed step is one of these. -/
theorem stepTools_cases {world : ToolWorld J O} {op : ToolOp J O}
    (books : ∀ executionId execution, world.executions.get executionId = some execution →
      PhaseBooks world.ledger execution)
    (undisturbed : UndisturbedStep world op) :
    ToolStep registry world op (stepTools registry world op).1 := by
  cases op with
  | execute executionId context call inputs =>
    dsimp only [stepTools]
    split
    · exact .idle trivial
    next fresh =>
      unfold beginExecution
      split
      · exact .idle trivial
      next spec validated =>
        split
        · exact .idle trivial
        · split
          · exact .idle trivial
          · split
            · exact .idle trivial
            next later reservation reserved =>
              obtain ⟨startedAt, read⟩ := Option.isSome_iff_exists.mp undisturbed.2
              rw [read]
              exact .reserved (Option.not_isSome_iff_eq_none.mp fresh)
                (validatedCall_declared validated) (reserveCall_ok undisturbed.1 reserved)
  | startAttempt executionId inputs =>
    dsimp only [stepTools]
    split
    next execution running =>
      have here := books executionId execution running
      have settled := undisturbed execution running
      split
      next attempt looping =>
        rw [PhaseBooks, looping] at here
        obtain ⟨first, last, underway⟩ := here
        obtain ⟨count, rfl⟩ := Nat.exists_eq_add_of_le' first
        rw [Nat.add_sub_cancel] at underway
        obtain ⟨later, phase, entered, turn⟩ :=
          startAttempt_turn executionId settled.1 settled.2 underway last
        rw [entered]
        exact .turned running underway (Nat.le_of_succ_le last) turn trivial
      · exact .idle trivial
      · exact .idle trivial
    · exact .idle trivial
  | answer executionId answer inputs =>
    dsimp only [stepTools]
    split
    next execution running =>
      have here := books executionId execution running
      have settled := undisturbed execution running
      split
      next attempt limits handling =>
        rw [PhaseBooks, handling] at here
        obtain ⟨-, last, underway⟩ := here
        by_cases finalizable : Finalizable execution.spec answer
        · obtain ⟨later, phase, entered, turn⟩ :=
            finishAttempt_turn registry executionId limits settled underway finalizable
          rw [entered]
          refine .turned running underway last turn fun other _ _ same _ => ?_
          cases running.symm.trans same
          exact finalizable
        · obtain ⟨failure, entered⟩ :=
            finishAttempt_stuck registry world executionId attempt limits inputs finalizable
          rw [entered]
          exact .stuck running underway last fun all =>
            finalizable (all execution attempt limits running handling)
      next looping =>
        refine .idle fun other _ _ same handling => ?_
        cases running.symm.trans same
        cases looping.symm.trans handling
      next ended =>
        refine .idle fun other _ _ same handling => ?_
        cases running.symm.trans same
        cases ended.symm.trans handling
    next absent =>
      exact .idle fun other _ _ same _ => by cases absent.symm.trans same
  | action invocationId row =>
    dsimp only [stepTools]
    split
    · exact .idle trivial
    next absent => exact .action (Option.not_isSome_iff_eq_none.mp absent)

end Pathfinder
