import Pathfinder.Llm.Books
import Pathfinder.Llm.Factory

/-!
# One attempt

An attempt that calls the adapter ends with its record finalized, or the answer came
with an id that the outcome or the database refuses and the record stays open.
-/
namespace Pathfinder
open KeyedTable Journals

variable {R V : Type}

/-- The id of the answer, where it is recorded, is storable. -/
def AdapterAnswer.idStorable (validResult : ModelResult R V → Bool) : AdapterAnswer R V → Bool
  | returned result =>
    !validResult result || result.providerResponseId.all ProviderResponseId.storable
  | providerError error => error.providerResponseId.all ProviderResponseId.storable
  | other | timeout | cancelled | failed => true

/-- The recorder is reachable, the clock runs, the price book knows a price and names
it, and no cancellation comes but during the adapter call. -/
structure UndisturbedAttempt (model : AccountedModel) (kind : LLMInvocationKind)
    (script : AttemptScript R V) : Prop where
  recorder : script.prepareReachable = true ∧ script.finalizeReachable = true
  clock : ∃ start call finish, script.startReading = some start ∧
    script.callReading = some call ∧ script.endReading = some finish ∧ start ≤ finish
  priced : ∀ result, script.answer = .returned result → ∃ cost,
    model.priceBook model.provider kind result.usage = .ok cost ∧
      ∀ price ∈ cost, pricingVersionValid price.pricingVersion = true
  uncancelled : script.cancelledAtFinalize = false ∧ script.sleep ≠ .cancelled

/-! ## Finalizing -/

section Attempt
variable {model : AccountedModel} {kind : LLMInvocationKind} {script : AttemptScript R V}
  {attempt : LLMInvocationAttempt} {ledger : InvocationLedger R V}

/-- The ledger with the outcome of the attempt. -/
def InvocationLedger.closed (ledger : InvocationLedger R V) (attempt : LLMInvocationAttempt)
    (outcome : LLMInvocationOutcome) : InvocationLedger R V :=
  ledger.put attempt.invocationId ⟨attempt, some outcome⟩ (.finalized attempt.invocationId outcome)

theorem elapsedMs_ok {start finish : ℚ} (forward : start ≤ finish) :
    elapsedMs (some finish) start = .ok (roundHalfEven ((finish - start) * 1000)).toNat := by
  have running : ¬ finish - start < 0 := not_lt.mpr (sub_nonneg.mpr forward)
  simp only [elapsedMs, clockValue, running, if_false]

/-- An outcome with an accepted id closes the attempt. -/
theorem buildAndComplete_closes (undisturbed : UndisturbedAttempt model kind script)
    (opened : Open ledger attempt) {start finish : ℚ} (ends : script.endReading = some finish)
    (forward : start ≤ finish) {outcome : Nat → LLMInvocationOutcome} {latencyMs : Nat}
    (measured : latencyMs = (roundHalfEven ((finish - start) * 1000)).toNat)
    (valid : (outcome latencyMs).valid = true)
    (nonzero : (outcome latencyMs).providerResponseId.any (fun id => decide (0 ∈ id)) = false) :
    buildAndComplete script attempt start outcome ledger =
      (ledger.closed attempt (outcome latencyMs), .ok ()) := by
  have recorded : recordFinalize script attempt (outcome latencyMs) ledger =
      .ok (ledger.closed attempt (outcome latencyMs)) := by
    simp [recordFinalize, InvocationLedger.finalize, undisturbed.recorder.2, nonzero, opened.row,
      InvocationLedger.closed]
  rw [buildAndComplete, ends, elapsedMs_ok forward, ← measured]
  simp [valid, completeAttempt, recorded, undisturbed.uncancelled.1]

/-- An outcome with a refused id leaves the ledger as it is. -/
theorem buildAndComplete_refuses (undisturbed : UndisturbedAttempt model kind script)
    {start finish : ℚ} (ends : script.endReading = some finish) (forward : start ≤ finish)
    {outcome : Nat → LLMInvocationOutcome} {latencyMs : Nat}
    (measured : latencyMs = (roundHalfEven ((finish - start) * 1000)).toNat)
    (refused : (outcome latencyMs).valid = false ∨
      (outcome latencyMs).providerResponseId.any (fun id => decide (0 ∈ id)) = true) :
    ∃ failure, buildAndComplete script attempt start outcome ledger = (ledger, .error failure) := by
  rw [buildAndComplete, ends, elapsedMs_ok forward, ← measured]
  by_cases valid : (outcome latencyMs).valid = true
  · have zero := refused.resolve_left (by simp [valid])
    have recorded : recordFinalize script attempt (outcome latencyMs) ledger =
        .error (.accounting .finalize false) := by
      simp [recordFinalize, InvocationLedger.finalize, undisturbed.recorder.2, zero]
    exact ⟨.accounting .finalize false,
      by simp [valid, completeAttempt, recorded, undisturbed.uncancelled.1]⟩
  · exact ⟨.value "LLMInvocationOutcome", by simp [valid]⟩

/-- Whether the attempt is closed is decided by the id of the outcome alone. -/
theorem buildAndComplete_cases (undisturbed : UndisturbedAttempt model kind script)
    (opened : Open ledger attempt) {start finish : ℚ} (ends : script.endReading = some finish)
    (forward : start ≤ finish) {outcome : Nat → LLMInvocationOutcome}
    {id : Option ProviderResponseId}
    (carried : ∀ latencyMs,
      (outcome latencyMs).providerResponseId = id.map ProviderResponseId.value)
    (valid : ∀ latencyMs,
      (outcome latencyMs).valid = (id.map ProviderResponseId.value).all outcomeIdValid) :
    (id.all ProviderResponseId.storable = true ∧ ∃ latencyMs,
      buildAndComplete script attempt start outcome ledger =
        (ledger.closed attempt (outcome latencyMs), .ok ())) ∨
    (id.all ProviderResponseId.storable = false ∧ ∃ failure,
      buildAndComplete script attempt start outcome ledger = (ledger, .error failure)) := by
  cases id with
  | none =>
    refine .inl ⟨rfl, _, buildAndComplete_closes undisturbed opened ends forward rfl ?_ ?_⟩
    · rw [valid]
      rfl
    · rw [carried]
      rfl
  | some id =>
    by_cases storable : id.storable = true
    · obtain ⟨accepted, nonzero⟩ := (id_accepted_iff id).mpr storable
      refine .inl ⟨storable, _, buildAndComplete_closes undisturbed opened ends forward rfl ?_ ?_⟩
      · rw [valid]
        exact accepted
      · rw [carried]
        exact decide_eq_false nonzero
    · refine .inr ⟨Bool.eq_false_iff.mpr storable,
        buildAndComplete_refuses undisturbed ends forward rfl ?_⟩
      rw [valid, carried]
      by_cases accepted : outcomeIdValid id.value = true
      · have zero : 0 ∈ id.value := by
          by_contra nonzero
          exact storable ((id_accepted_iff id).mp ⟨accepted, nonzero⟩)
        exact .inr (decide_eq_true zero)
      · exact .inl (Bool.eq_false_iff.mpr accepted)

/-- The reply of a closed attempt says what its outcome says. -/
def Agrees (provider : ModelProvider) (answer : AdapterAnswer R V)
    (outcome : LLMInvocationOutcome) :
    Except LLMFailure (Option (ModelResult R V)) → Prop
  | .ok (some _) => outcome.status = .succeeded
  | .ok none => outcome.status = .failed ∧ answer.retryable provider = true
  | .error _ => outcome.status = .failed

/-- How an attempt whose call was made ends. -/
inductive AnswerSettled (model : AccountedModel) (validResult : ModelResult R V → Bool)
    (attempt : LLMInvocationAttempt) (answer : AdapterAnswer R V)
    (ledger : InvocationLedger R V) :
    InvocationLedger R V × Except LLMFailure (Option (ModelResult R V)) → Prop
  | closed {outcome reply} (storable : answer.idStorable validResult = true)
      (agrees : Agrees model.provider answer outcome reply) :
      AnswerSettled model validResult attempt answer ledger (ledger.closed attempt outcome, reply)
  | stuck {failure} (refused : answer.idStorable validResult = false) :
      AnswerSettled model validResult attempt answer ledger (ledger, .error failure)

theorem finalizeFailure_cases (undisturbed : UndisturbedAttempt model kind script)
    (opened : Open ledger attempt) {start finish : ℚ} (ends : script.endReading = some finish)
    (forward : start ≤ finish) (category : ProviderFailureCategory)
    (id : Option ProviderResponseId) :
    (id.all ProviderResponseId.storable = true ∧ ∃ outcome,
      finalizeFailure script attempt start category id ledger =
        (ledger.closed attempt outcome, .ok (.provider (.provider category))) ∧
      outcome.status = .failed) ∨
    (id.all ProviderResponseId.storable = false ∧ ∃ failure,
      finalizeFailure script attempt start category id ledger = (ledger, .error failure)) := by
  have carried : ∀ latencyMs,
      (failedOutcome script.traceIds (.provider category) id latencyMs).providerResponseId =
        id.map ProviderResponseId.value := fun _ => rfl
  rcases buildAndComplete_cases undisturbed opened ends forward carried
    (fun latencyMs => failedOutcome_valid _ _ _ latencyMs) with
    ⟨storable, latencyMs, built⟩ | ⟨refused, failure, built⟩
  · refine .inl ⟨storable, failedOutcome script.traceIds (.provider category) id latencyMs, ?_, rfl⟩
    rw [finalizeFailure, built]
  · refine .inr ⟨refused, failure, ?_⟩
    rw [finalizeFailure, built]

/-- What is raised without an id closes the attempt. -/
theorem raiseFailure_closes (undisturbed : UndisturbedAttempt model kind script)
    (opened : Open ledger attempt) {start finish : ℚ} (ends : script.endReading = some finish)
    (forward : start ≤ finish) (category : ProviderFailureCategory) :
    ∃ outcome failure, raiseFailure script attempt start category ledger =
      (ledger.closed attempt outcome, .error failure) ∧ outcome.status = .failed := by
  rcases finalizeFailure_cases undisturbed opened ends forward category none with
    ⟨-, outcome, finalized, failed⟩ | ⟨refused, -⟩
  · refine ⟨outcome, .provider (.provider category), ?_, failed⟩
    rw [raiseFailure, finalized]
  · cases refused

/-- The two branches that may retry. -/
theorem failAttempt_settled (undisturbed : UndisturbedAttempt model kind script)
    (opened : Open ledger attempt) {start finish : ℚ} (ends : script.endReading = some finish)
    (forward : start ≤ finish) (deadline : ℚ) (attemptNumber : Nat)
    (category : ProviderFailureCategory) (id : Option ProviderResponseId)
    (retryAfterSeconds : Option ℚ) {validResult : ModelResult R V → Bool}
    {answer : AdapterAnswer R V}
    (recorded : answer.idStorable validResult = id.all ProviderResponseId.storable) :
    AnswerSettled model validResult attempt answer ledger
      (model.failAttempt script attempt start deadline attemptNumber category id
        (answer.retryable model.provider) retryAfterSeconds ledger) := by
  rcases finalizeFailure_cases undisturbed opened ends forward category id with
    ⟨storable, outcome, finalized, failed⟩ | ⟨refused, failure, finalized⟩
  · rw [AccountedModel.failAttempt, finalized]
    dsimp only
    split
    · exact .closed (recorded.trans storable) failed
    next retries =>
      refine .closed (recorded.trans storable) ?_
      generalize waitBeforeRetry .. = waited
      cases waited with
      | error failure => exact failed
      | ok slept =>
        simp only [Bool.or_eq_true, Bool.not_eq_true', decide_eq_true_eq, not_or] at retries
        exact ⟨failed, by simpa using retries.1⟩
  · rw [AccountedModel.failAttempt, finalized]
    exact .stuck (recorded.trans refused)

/-- Behind the call, an attempt is closed or its answer has an id that is refused. -/
theorem settle_settled {call : ModelCall R V}
    (undisturbed : UndisturbedAttempt model call.kind script)
    (opened : Open ledger attempt) {start finish : ℚ} (ends : script.endReading = some finish)
    (forward : start ≤ finish) (deadline : ℚ) (attemptNumber : Nat) :
    AnswerSettled model call.validResult attempt script.answer ledger
      (model.settle call script attempt start deadline attemptNumber ledger) := by
  have raised := raiseFailure_closes undisturbed opened ends forward
  unfold AccountedModel.settle
  split
  next answered =>
    have carried : ∀ latencyMs,
        (failedOutcome script.traceIds .cancelled none latencyMs).providerResponseId =
          (none : Option ProviderResponseId).map ProviderResponseId.value := fun _ => rfl
    rcases buildAndComplete_cases undisturbed opened ends forward carried
      (fun latencyMs => failedOutcome_valid _ _ _ latencyMs) with
      ⟨-, latencyMs, built⟩ | ⟨refused, -⟩
    · rw [built]
      exact .closed (by rw [answered]; rfl) rfl
    · cases refused
  next error answered =>
    rw [answered]
    exact failAttempt_settled undisturbed opened ends forward deadline attemptNumber error.category
      error.providerResponseId error.retryAfterSeconds rfl
  next answered =>
    rw [answered]
    exact failAttempt_settled undisturbed opened ends forward deadline attemptNumber
      .providerTimeout none none rfl
  next answered =>
    obtain ⟨outcome, failure, closes, failed⟩ := raised .providerError
    rw [closes]
    exact .closed (by rw [answered]; rfl) failed
  next answered =>
    obtain ⟨outcome, failure, closes, failed⟩ := raised .invalidProviderResponse
    rw [closes]
    exact .closed (by rw [answered]; rfl) failed
  next result answered =>
    split
    next invalid =>
      obtain ⟨outcome, failure, closes, failed⟩ := raised .invalidProviderResponse
      rw [closes]
      exact .closed (by rw [answered, AdapterAnswer.idStorable, invalid, Bool.true_or]) failed
    next accepted =>
      have recorded : script.answer.idStorable call.validResult =
          result.providerResponseId.all ProviderResponseId.storable := by
        rw [answered, AdapterAnswer.idStorable, Bool.eq_false_iff.mpr accepted, Bool.false_or]
      obtain ⟨cost, priced, named⟩ := undisturbed.priced result answered
      rw [priced]
      dsimp only
      have carried : ∀ latencyMs,
          (succeededOutcome script.traceIds result cost latencyMs).providerResponseId =
            result.providerResponseId.map ProviderResponseId.value := fun _ => rfl
      rcases buildAndComplete_cases undisturbed opened ends forward carried
        (fun latencyMs => succeededOutcome_valid _ _ _ latencyMs named) with
        ⟨storable, latencyMs, built⟩ | ⟨refused, failure, built⟩
      · rw [built]
        exact .closed (recorded.trans storable) rfl
      · rw [built]
        exact .stuck (recorded.trans refused)

/-- The ledger with the record of a new attempt. -/
def InvocationLedger.opened (ledger : InvocationLedger R V) (attempt : LLMInvocationAttempt) :
    InvocationLedger R V :=
  ledger.put attempt.invocationId ⟨attempt, none⟩ (.prepared attempt)

/-- How one turn of the loop ends. -/
inductive AttemptEnd (model : AccountedModel) (validResult : ModelResult R V → Bool)
    (ledger : InvocationLedger R V) :
    InvocationLedger R V × Except LLMFailure (Option (ModelResult R V)) → Prop
  | idle {failure} : AttemptEnd model validResult ledger (ledger, .error failure)
  | expired {attempt outcome failure}
      (absent : ledger.rows.get attempt.invocationId = none) (failed : outcome.status = .failed) :
      AttemptEnd model validResult ledger
        ((ledger.opened attempt).closed attempt outcome, .error failure)
  | called {attempt answer reached}
      (absent : ledger.rows.get attempt.invocationId = none)
      (settled : AnswerSettled model validResult attempt answer
        ((ledger.opened attempt).call attempt.invocationId answer) reached) :
      AttemptEnd model validResult ledger reached

theorem recordPrepare_ok {after : InvocationLedger R V}
    (ran : recordPrepare script attempt ledger = .ok after) :
    ledger.rows.get attempt.invocationId = none ∧ after = ledger.opened attempt := by
  unfold recordPrepare InvocationLedger.prepare at ran
  split at ran
  next prepared =>
    split at prepared
    · cases prepared
    · split at prepared
      · cases prepared
      · split at prepared
        · cases prepared
        next absent =>
          cases prepared
          cases ran
          exact ⟨absent, rfl⟩
  all_goals cases ran

theorem openAttempt_ok {call : ModelCall R V} {deadline : ℚ} {after : InvocationLedger R V}
    (ran : model.openAttempt call deadline script ledger = .ok (after, attempt)) :
    ledger.rows.get attempt.invocationId = none ∧ after = ledger.opened attempt := by
  unfold AccountedModel.openAttempt at ran
  split at ran
  · cases ran
  split at ran
  · cases ran
  split at ran
  · cases ran
  split at ran
  · cases ran
  obtain ⟨prepared, recorded, same⟩ := map_ok ran
  cases same
  exact recordPrepare_ok recorded

theorem attemptOnce_end {call : ModelCall R V}
    (undisturbed : UndisturbedAttempt model call.kind script)
    (books : Books model.provider none ledger)
    (allowed : ledger.log = [] ∨ EndsRetryable model.provider ledger.log) (deadline : ℚ)
    (attemptNumber : Nat) :
    AttemptEnd model call.validResult ledger
      (model.attemptOnce call deadline script attemptNumber ledger) := by
  unfold AccountedModel.attemptOnce
  split
  · exact .idle
  next after attempt prepared =>
    obtain ⟨absent, rfl⟩ := openAttempt_ok prepared
    obtain ⟨start, called, finish, starts, calls, ends, forward⟩ := undisturbed.clock
    have opening := books.prepare absent allowed
    rw [AccountedModel.callAdapter, starts, calls]
    simp only [clockValue, remainingUntil, Except.map]
    split
    · obtain ⟨outcome, failure, closes, failed⟩ :=
        raiseFailure_closes undisturbed opening.2 ends forward .providerTimeout
      rw [InvocationLedger.opened, closes]
      exact .expired absent failed
    · have uncalled := books.unnamed absent fun event => calls_names event
      have reached := opening.1.call opening.2
        (by simpa [InvocationLedger.put, LedgerEvent.calls] using uncalled) script.answer
      exact .called absent
        (settle_settled undisturbed reached.2 ends forward deadline attemptNumber)

end Attempt

end Pathfinder
