import Pathfinder.Llm.Attempts

/-!
# Accounting of model attempts

Every way an attempt can end finalizes its record, except one: an answer whose
response id is well formed for the adapter but refused by the outcome leaves the
record started.
-/
namespace Pathfinder
open KeyedTable Journals

variable {R V M T : Type}

/-- What an invocation that ended with `reply` has written. -/
structure Accounted (model : AccountedModel) (ledger : InvocationLedger R V)
    (reply : Except LLMFailure (ModelResult R V)) : Prop where
  prepared : EachAfter (fun before event => ∀ id answer, event = .called id answer →
    before.countP (LedgerEvent.prepares id) = 1) ledger.log
  calledOnce : ∀ id, ledger.log.countP (LedgerEvent.calls id) ≤ 1
  terminal : ∀ attempt, .prepared attempt ∈ ledger.log → Terminal ledger attempt
  bounded : ledger.log.countP LedgerEvent.isCall ≤ model.retryPolicy.maxAttempts
  retried : EachAfter (fun before event => ∀ attempt, event = .prepared attempt →
    before = [] ∨ EndsRetryable model.provider before) ledger.log
  returned : (∃ result, reply = .ok result) ↔ EndsSucceeded ledger.log

/-! ## The loop -/

section Loop
variable {model : AccountedModel} {ledger : InvocationLedger R V}
  {attempt : LLMInvocationAttempt} {validResult : ModelResult R V → Bool}

/-- Every answer that came had an id that can be recorded. -/
def AnswersStorable (validResult : ModelResult R V → Bool) (log : List (LedgerEvent R V)) : Prop :=
  ∀ id answer, .called id answer ∈ log → answer.idStorable validResult = true

theorem answersStorable_concat {log : List (LedgerEvent R V)} {event : LedgerEvent R V} :
    AnswersStorable validResult (log ++ [event]) ↔ AnswersStorable validResult log ∧
      ∀ id answer, event = .called id answer → answer.idStorable validResult = true := by
  simp only [AnswersStorable, List.mem_append, List.mem_singleton, or_imp, forall_and, eq_comm]

/-- What the event answers has a storable id. -/
def LedgerEvent.storable (validResult : ModelResult R V → Bool) : LedgerEvent R V → Bool
  | called _ answer => answer.idStorable validResult
  | prepared _ | finalized .. => true

theorem answersStorable_of_all {log : List (LedgerEvent R V)}
    (checked : log.all (LedgerEvent.storable validResult) = true) :
    AnswersStorable validResult log :=
  fun _ _ member => List.all_eq_true.mp checked _ member

theorem endsSucceeded_closed {outcome : LLMInvocationOutcome} :
    EndsSucceeded (ledger.closed attempt outcome).log ↔ outcome.status = .succeeded := by
  constructor
  · rintro ⟨earlier, id, other, split, succeeded⟩
    have lasts := (List.append_inj' split rfl).2
    cases lasts
    exact succeeded
  · exact fun succeeded => ⟨_, _, _, rfl, succeeded⟩

theorem EndsRetryable.not_succeeded {provider : ModelProvider} {log : List (LedgerEvent R V)}
    (retryable : EndsRetryable provider log) : ¬ EndsSucceeded log := by
  rintro ⟨earlier, id, outcome, split, succeeded⟩
  obtain ⟨before, other, answer, last, ended, failed, -⟩ := retryable
  rw [ended, List.append_cons] at split
  have lasts := (List.append_inj' split rfl).2
  cases lasts
  cases failed.symm.trans succeeded

/-- A log behind which the loop goes on. -/
structure Continues (model : AccountedModel) (validResult : ModelResult R V → Bool)
    (ledger : InvocationLedger R V) (used : Nat) : Prop where
  books : Books model.provider none ledger
  allowed : ledger.log = [] ∨ EndsRetryable model.provider ledger.log
  storable : AnswersStorable validResult ledger.log
  counted : ledger.log.countP LedgerEvent.isCall ≤ used

theorem Continues.not_succeeded {used : Nat} (here : Continues model validResult ledger used) :
    ¬ EndsSucceeded ledger.log := by
  rcases here.allowed with empty | retryable
  · rintro ⟨earlier, id, outcome, split, -⟩
    rw [empty] at split
    simp at split
  · exact retryable.not_succeeded

section Continues
variable {used : Nat} {answer : AdapterAnswer R V}

/-- The call of a new attempt leaves its record open. -/
theorem Continues.calling (here : Continues model validResult ledger used)
    (absent : ledger.rows.get attempt.invocationId = none) (answer : AdapterAnswer R V) :
    let after := (ledger.opened attempt).call attempt.invocationId answer
    Books model.provider (some attempt.invocationId) after ∧ Open after attempt := by
  have opening := here.books.prepare absent here.allowed
  have uncalled := here.books.unnamed absent fun event => calls_names event
  exact opening.1.call opening.2
    (by simpa [InvocationLedger.put, LedgerEvent.calls] using uncalled) answer

/-- An attempt that is finalized leaves the books in order. -/
theorem Continues.closed (here : Continues model validResult ledger used)
    (absent : ledger.rows.get attempt.invocationId = none)
    (storable : answer.idStorable validResult = true) (outcome : LLMInvocationOutcome) :
    let after := ((ledger.opened attempt).call attempt.invocationId answer).closed attempt outcome
    Books model.provider none after ∧ AnswersStorable validResult after.log ∧
      after.log.countP LedgerEvent.isCall ≤ used + 1 := by
  have calling := here.calling absent answer
  refine ⟨calling.1.finalize calling.2 outcome, ?_, ?_⟩
  · refine answersStorable_concat.mpr ⟨answersStorable_concat.mpr
      ⟨answersStorable_concat.mpr ⟨here.storable, nofun⟩, ?_⟩, nofun⟩
    rintro id _ same
    cases same
    exact storable
  · simpa [InvocationLedger.closed, InvocationLedger.opened, InvocationLedger.put,
      InvocationLedger.call, List.countP_cons, LedgerEvent.isCall] using here.counted

/-- So does one whose deadline passed before the call. -/
theorem Continues.expired (here : Continues model validResult ledger used)
    (absent : ledger.rows.get attempt.invocationId = none) (outcome : LLMInvocationOutcome) :
    let after := (ledger.opened attempt).closed attempt outcome
    Books model.provider none after ∧ AnswersStorable validResult after.log ∧
      after.log.countP LedgerEvent.isCall ≤ used := by
  have opening := here.books.prepare absent here.allowed
  refine ⟨opening.1.finalize opening.2 outcome,
    answersStorable_concat.mpr ⟨answersStorable_concat.mpr ⟨here.storable, nofun⟩, nofun⟩, ?_⟩
  simpa [InvocationLedger.closed, InvocationLedger.opened, InvocationLedger.put,
    LedgerEvent.isCall] using here.counted

theorem not_succeeded_of_failed {outcome : LLMInvocationOutcome}
    (failed : outcome.status = .failed) :
    ¬ EndsSucceeded (ledger.closed attempt outcome).log := by
  rw [endsSucceeded_closed, failed]
  exact nofun

end Continues

/-- How the loop ends: with all records closed, or with one left open behind a refused
answer. -/
def LoopEnd (model : AccountedModel) (validResult : ModelResult R V → Bool) (limit : Nat)
    (reached : InvocationLedger R V × Except LLMFailure (ModelResult R V)) : Prop :=
  (Books model.provider none reached.1 ∧ AnswersStorable validResult reached.1.log ∧
    reached.1.log.countP LedgerEvent.isCall ≤ limit ∧
    ((∃ result, reached.2 = .ok result) ↔ EndsSucceeded reached.1.log)) ∨
  ((∃ attempt, Open reached.1 attempt) ∧ ¬ AnswersStorable validResult reached.1.log)

theorem Continues.idle {used limit : Nat} (here : Continues model validResult ledger used)
    (within : used ≤ limit) (failure : LLMFailure) :
    LoopEnd model validResult limit (ledger, .error failure) :=
  .inl ⟨here.books, here.storable, here.counted.trans within,
    iff_of_false nofun here.not_succeeded⟩

theorem continues_start (model : AccountedModel) (validResult : ModelResult R V → Bool)
    (rows : Table UUID LLMInvocation) : Continues model validResult ⟨rows, []⟩ 0 where
  books := ⟨eachAfter_nil, fun _ => Nat.zero_le 1,
    fun _ member => (List.not_mem_nil member).elim, eachAfter_nil,
    fun _ member => (List.not_mem_nil member).elim⟩
  allowed := .inl rfl
  storable _ _ member := (List.not_mem_nil member).elim
  counted := Nat.le_refl 0

theorem attempts_end {call : ModelCall R V} {scripts : Nat → AttemptScript R V}
    (undisturbed : ∀ attemptNumber, UndisturbedAttempt model call.kind (scripts attemptNumber))
    (deadline : ℚ) (numbers : List Nat) {ledger : InvocationLedger R V} {used : Nat}
    (here : Continues model call.validResult ledger used) :
    LoopEnd model call.validResult (used + numbers.length)
      (model.attempts call deadline scripts numbers ledger) := by
  induction numbers generalizing ledger used with
  | nil => exact here.idle (Nat.le_refl used) _
  | cons attemptNumber rest ih =>
    rw [AccountedModel.attempts, List.length_cons, Nat.add_comm rest.length, ← Nat.add_assoc]
    have ended := attemptOnce_end (undisturbed attemptNumber) here.books here.allowed deadline
      attemptNumber
    generalize model.attemptOnce call deadline (scripts attemptNumber) attemptNumber ledger =
      reached at ended
    have more := Nat.le_add_right (used + 1) rest.length
    cases ended with
    | idle => exact here.idle ((Nat.le_succ used).trans more) _
    | expired absent failed =>
      obtain ⟨books, answers, counted⟩ := here.expired absent _
      exact .inl ⟨books, answers, (counted.trans (Nat.le_succ used)).trans more,
        iff_of_false nofun (not_succeeded_of_failed failed)⟩
    | @called attempt answer reached absent settled =>
      cases settled with
      | stuck refused =>
        refine .inr ⟨⟨attempt, (here.calling absent answer).2⟩, fun storable => ?_⟩
        have accepted := storable attempt.invocationId answer
          (List.mem_append_right _ (List.mem_singleton.mpr rfl))
        exact absurd accepted (by simp [refused])
      | @closed outcome reply storable agrees =>
        obtain ⟨books, answers, counted⟩ := here.closed absent storable outcome
        match reply, agrees with
        | .error failure, failed =>
          exact .inl ⟨books, answers, counted.trans more,
            iff_of_false nofun (not_succeeded_of_failed failed)⟩
        | .ok (some result), succeeded =>
          exact .inl ⟨books, answers, counted.trans more,
            iff_of_true ⟨result, rfl⟩ (endsSucceeded_closed.mpr succeeded)⟩
        | .ok none, retried =>
          exact ih ⟨books, .inr ⟨(ledger.opened attempt).log, attempt.invocationId, answer, outcome,
            List.append_assoc _ _ _, retried⟩, answers, counted⟩

end Loop

/-! ## Whole invocations -/

variable (chars : CharacterTables) (hashing : RequestHashing M T)

theorem call_kind {provider : ModelProvider} {request : ModelRequest M T} {call : ModelCall R V}
    (ran : request.call chars hashing provider = .ok call) :
    call.kind = request.kind ∧ call.validResult = request.validResult provider := by
  unfold ModelRequest.call at ran
  cases identified : request.identify chars hashing with
  | error failure =>
    rw [identified] at ran
    cases ran
  | ok identity =>
    rw [identified] at ran
    cases ran
    exact ⟨rfl, rfl⟩

theorem invoke_end (model : AccountedModel) (request : ModelRequest M T)
    (reading : Option ℚ) (scripts : Nat → AttemptScript R V) (rows : Table UUID LLMInvocation)
    (undisturbed : ∀ attemptNumber, UndisturbedAttempt model request.kind (scripts attemptNumber)) :
    LoopEnd model (request.validResult model.provider) model.retryPolicy.maxAttempts
      (model.invoke chars hashing request reading scripts ⟨rows, []⟩) := by
  have start := continues_start model (request.validResult (R := R) (V := V) model.provider) rows
  unfold AccountedModel.invoke
  split
  · exact start.idle (Nat.zero_le _) _
  next call asked =>
    obtain ⟨kind, valid⟩ := call_kind chars hashing asked
    unfold AccountedModel.accounted
    split
    · exact start.idle (Nat.zero_le _) _
    next now read =>
      rw [← valid] at start ⊢
      have looped := attempts_end (fun n => kind ▸ undisturbed n)
        (now + model.retryPolicy.deadlineSeconds)
        (List.range' 1 model.retryPolicy.maxAttempts) start
      rwa [List.length_range', Nat.zero_add] at looped

/-- Every invocation keeps exact accounts if and only if no answer of an adapter call
comes with an id to be recorded that has a line feed, a lone surrogate or a zero
character. -/
theorem attempts_accounted_iff (model : AccountedModel) (request : ModelRequest M T)
    (reading : Option ℚ) (scripts : Nat → AttemptScript R V) (rows : Table UUID LLMInvocation)
    (undisturbed : ∀ attemptNumber, UndisturbedAttempt model request.kind (scripts attemptNumber)) :
    let reached := model.invoke chars hashing request reading scripts ⟨rows, []⟩
    Accounted model reached.1 reached.2 ↔
      ∀ id answer, .called id answer ∈ reached.1.log →
        answer.idStorable (request.validResult model.provider) = true := by
  have ended := invoke_end chars hashing model request reading scripts rows undisturbed
  rcases ended with ⟨books, storable, counted, returned⟩ | ⟨⟨attempt, opened⟩, refused⟩
  · exact iff_of_true ⟨books.prepared, books.calledOnce,
      fun attempt member => books.terminal attempt member nofun, counted, books.retried,
      returned⟩ storable
  · refine iff_of_false (fun accounted => ?_) refused
    have once := (accounted.terminal attempt opened.listed).1
    rw [opened.unfinished] at once
    cases once

/-! ## A rate limit, then a reply -/

namespace Sample

def accountedModel : AccountedModel where
  context := ⟨1, 2, none, none⟩
  provider := .qwen
  priceBook := qwenBeijingPriceBook
  retryPolicy := ⟨3, 120, 1 / 2, 4, by decide, by decide +kernel, by decide +kernel⟩

def digest : String :=
  "sha256:0123456789abcdef0123456789abcdef0123456789abcdef0123456789abcdef"

def requestHashing : RequestHashing Unit Unit := ⟨fun _ _ => some digest, fun _ => some digest⟩

def chatRequest : ModelRequest Unit Unit :=
  .chat [()] [] [("graph_node", "draft"), ("prompt_version", digest)]

/-- A turn of the loop that takes a second, with this answer. -/
def turn (attemptNumber : Nat) (answer : AdapterAnswer Unit Unit) : AttemptScript Unit Unit where
  headReading := some attemptNumber
  invocationId := some (6 + attemptNumber)
  prepareReachable := true
  authorized := true
  traceIds := none
  startReading := some attemptNumber
  callReading := some attemptNumber
  answer := answer
  endReading := some (attemptNumber + 1)
  finalizeReachable := true
  cancelledAtFinalize := false
  sample := some 0
  waitReading := some (attemptNumber + 1)
  sleep := .slept
  resumeReading := some (attemptNumber + 1)

def usage : ModelUsage := ⟨⟨10, 5, none, none, none, none⟩, by decide⟩

def reply (id : Option ProviderResponseId)
    (encodable : ∀ held ∈ id, held.value.all (fun c => !surrogate c) = true) :
    AdapterAnswer Unit Unit :=
  .returned ⟨.chat (), usage, .qwen, id, encodable⟩

def limited : AdapterAnswer Unit Unit := .providerError ⟨.rateLimited, none, none, nofun⟩

def limitedThenReply (attemptNumber : Nat) : AttemptScript Unit Unit :=
  turn attemptNumber (if attemptNumber = 1 then limited else reply none nofun)

theorem turn_undisturbed (attemptNumber : Nat) {answer : AdapterAnswer Unit Unit}
    (priced : ∀ result, answer = .returned result → ∃ cost,
      qwenBeijingPriceBook .qwen .chat result.usage = .ok cost ∧
        ∀ price ∈ cost, pricingVersionValid price.pricingVersion = true) :
    UndisturbedAttempt accountedModel .chat (turn attemptNumber answer) where
  recorder := ⟨rfl, rfl⟩
  clock := ⟨attemptNumber, attemptNumber, attemptNumber + 1, rfl, rfl, rfl,
    le_add_of_nonneg_right zero_le_one⟩
  priced := priced
  uncancelled := ⟨rfl, nofun⟩

theorem price_length : 1 ≤ qwenBeijingPricingVersion.length ∧
    qwenBeijingPricingVersion.length ≤ 100 := by decide

theorem price_digits : 48000000 < costLimit := by decide +kernel

def price : InvocationCost := ⟨qwenBeijingPricingVersion, 48000000, price_length, price_digits⟩

theorem usage_priced : qwenBeijingPriceBook .qwen .chat usage = .ok (some price) := by
  rw [qwenBeijingPriceBook]
  dsimp only [usage, chatCost]
  rw [if_neg (by decide), if_neg (by decide)]
  exact dif_pos price.digits

theorem price_named : pricingVersionValid price.pricingVersion = true := by decide +kernel

theorem reply_priced {id : Option ProviderResponseId}
    {encodable : ∀ held ∈ id, held.value.all (fun c => !surrogate c) = true} :
    ∀ result, reply id encodable = .returned result → ∃ cost,
      qwenBeijingPriceBook .qwen .chat result.usage = .ok cost ∧
        ∀ price ∈ cost, pricingVersionValid price.pricingVersion = true := by
  rintro result ⟨⟩
  refine ⟨some price, usage_priced, ?_⟩
  rintro _ ⟨⟩
  exact price_named

end Sample

/-- The rate limit is recorded as failed, the reply as succeeded. -/
theorem attempts_accounted_retried :
    let reached := Sample.accountedModel.invoke asciiTables Sample.requestHashing Sample.chatRequest
      (some 0) Sample.limitedThenReply ⟨Table.empty, []⟩
    Accounted Sample.accountedModel reached.1 reached.2 := by
  refine (attempts_accounted_iff asciiTables Sample.requestHashing Sample.accountedModel
    Sample.chatRequest (some 0) Sample.limitedThenReply Table.empty fun attemptNumber => ?_).mpr ?_
  · refine Sample.turn_undisturbed attemptNumber fun result answered => ?_
    split at answered
    · cases answered
    · exact Sample.reply_priced result answered
  · refine answersStorable_of_all ?_
    decide +kernel

/-! ## A reply whose id holds a line feed -/

namespace Sample

/-- The id `a`, line feed, `b`: trimmed, nonblank and short. -/
def brokenId : ProviderResponseId := ⟨[97, 10, 98], by decide, by decide, by decide⟩

def brokenReply (attemptNumber : Nat) : AttemptScript Unit Unit :=
  turn attemptNumber (reply (some brokenId) (by rintro _ ⟨⟩; decide))

end Sample

/-- The outcome is refused, and the record stays started. -/
theorem attempt_unaccounted : ¬ ∀ (model : AccountedModel) (request : ModelRequest Unit Unit)
    (reading : Option ℚ) (scripts : Nat → AttemptScript Unit Unit),
    (∀ attemptNumber, UndisturbedAttempt model request.kind (scripts attemptNumber)) →
    let reached := model.invoke asciiTables Sample.requestHashing request reading scripts
      ⟨Table.empty, []⟩
    Accounted model reached.1 reached.2 := by
  intro all
  have accounted := all Sample.accountedModel Sample.chatRequest (some 0) Sample.brokenReply
    fun attemptNumber => Sample.turn_undisturbed attemptNumber Sample.reply_priced
  have prepared : (Sample.accountedModel.invoke asciiTables Sample.requestHashing
      Sample.chatRequest (some 0) Sample.brokenReply ⟨Table.empty, []⟩).1.log.countP
        (LedgerEvent.prepares 7) = 1 := by decide +kernel
  have unfinished : (Sample.accountedModel.invoke asciiTables Sample.requestHashing
      Sample.chatRequest (some 0) Sample.brokenReply ⟨Table.empty, []⟩).1.log.countP
        (LedgerEvent.finalizes 7) = 0 := by decide +kernel
  obtain ⟨event, member, prepares⟩ := List.countP_pos_iff.mp (prepared ▸ Nat.one_pos)
  cases event with
  | prepared attempt =>
    have once := (accounted.terminal attempt member).1
    rw [beq_iff_eq.mp prepares, unfinished] at once
    cases once
  | called | finalized => cases prepares

end Pathfinder
