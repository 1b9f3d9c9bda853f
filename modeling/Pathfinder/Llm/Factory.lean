import Mathlib.Data.List.Induction
import Mathlib.Data.List.TakeWhile
import Pathfinder.Domain.ResumeText
import Pathfinder.Llm.Invocations

/-!
# Accounted models

The retry loop of `llm/factory.py`. What the environment does in one turn of the
loop (clock readings, the recorder's database, the adapter, the sleeper) is a
script; a clock reading is missing where the clock raises.
-/
namespace Pathfinder
open KeyedTable

variable {R V : Type}

/-- `LLMRetryPolicy`, with the checks of its `__post_init__`. -/
structure LLMRetryPolicy where
  maxAttempts : Nat
  deadlineSeconds : ℚ
  baseDelaySeconds : ℚ
  maxDelaySeconds : ℚ
  attempts : 1 ≤ maxAttempts ∧ maxAttempts ≤ 3
  positive : 0 < deadlineSeconds ∧ 0 < baseDelaySeconds ∧ 0 < maxDelaySeconds
  ordered : baseDelaySeconds ≤ maxDelaySeconds

/-- `LLMInvocationContext`. -/
structure LLMInvocationContext where
  workspaceId : UUID
  actorUserId : UUID
  requestId : Option UUID
  runId : Option UUID

/-- `_AccountedModel`. -/
structure AccountedModel where
  context : LLMInvocationContext
  provider : ModelProvider
  priceBook : PriceBook
  retryPolicy : LLMRetryPolicy

inductive SleepOutcome where
  | slept | cancelled | failed
  deriving DecidableEq, Repr

/-- What the environment does in one turn of the loop, in the order of the calls. -/
structure AttemptScript (R V : Type) where
  headReading : Option ℚ
  invocationId : Option UUID
  prepareReachable : Bool
  authorized : Bool
  traceIds : Option TraceIdentifiers
  startReading : Option ℚ
  callReading : Option ℚ
  answer : AdapterAnswer R V
  endReading : Option ℚ
  finalizeReachable : Bool
  cancelledAtFinalize : Bool
  sample : Option ℚ
  waitReading : Option ℚ
  sleep : SleepOutcome
  resumeReading : Option ℚ

/-- What a chat and an embedding invocation differ in. -/
structure ModelCall (R V : Type) where
  kind : LLMInvocationKind
  graphNode : String
  promptVersion : Option String
  requestHash : String
  validResult : ModelResult R V → Bool

/-! ## Clock -/

def clockValue : Option ℚ → Except LLMFailure ℚ
  | none => .error (.accounting .timing false)
  | some value => .ok value

def elapsedMs (reading : Option ℚ) (startedAt : ℚ) : Except LLMFailure Nat :=
  match clockValue reading with
  | .error failure => .error failure
  | .ok now =>
    if now - startedAt < 0 then .error (.accounting .timing false)
    else .ok (roundHalfEven ((now - startedAt) * 1000)).toNat

def remainingUntil (deadline : ℚ) (reading : Option ℚ) : Except LLMFailure ℚ :=
  (clockValue reading).map fun now => deadline - now

/-! ## Records -/

/-- `_prepare`. -/
def recordPrepare (script : AttemptScript R V) (attempt : LLMInvocationAttempt)
    (ledger : InvocationLedger R V) : Except LLMFailure (InvocationLedger R V) :=
  match ledger.prepare script.prepareReachable script.authorized attempt with
  | .ok ledger => .ok ledger
  | .error .authorization => .error .authorization
  | .error .invariant => .error .invariant
  | .error .unavailable => .error (.accounting .prepare true)
  | .error .other => .error (.accounting .prepare false)

/-- `_finalize`. -/
def recordFinalize (script : AttemptScript R V) (attempt : LLMInvocationAttempt)
    (outcome : LLMInvocationOutcome) (ledger : InvocationLedger R V) :
    Except LLMFailure (InvocationLedger R V) :=
  match ledger.finalize script.finalizeReachable attempt outcome with
  | .ok ledger => .ok ledger
  | .error .invariant => .error .invariant
  | .error .unavailable => .error (.accounting .finalize true)
  | .error .authorization | .error .other => .error (.accounting .finalize false)

/-- `_complete`: a cancellation waits for the shielded finalization and comes first. -/
def completeAttempt (script : AttemptScript R V) (attempt : LLMInvocationAttempt)
    (outcome : LLMInvocationOutcome) (ledger : InvocationLedger R V) :
    InvocationLedger R V × Except LLMFailure Unit :=
  match recordFinalize script attempt outcome ledger with
  | .error failure =>
    (ledger, .error (if script.cancelledAtFinalize then .cancelled else failure))
  | .ok ledger => (ledger, if script.cancelledAtFinalize then .error .cancelled else .ok ())

/-- The outcome is built, and refused where its contract does not hold, before it is
handed to `_complete`. -/
def buildAndComplete (script : AttemptScript R V) (attempt : LLMInvocationAttempt) (startedAt : ℚ)
    (outcome : Nat → LLMInvocationOutcome) (ledger : InvocationLedger R V) :
    InvocationLedger R V × Except LLMFailure Unit :=
  match elapsedMs script.endReading startedAt with
  | .error failure => (ledger, .error failure)
  | .ok latencyMs =>
    if (outcome latencyMs).valid then completeAttempt script attempt (outcome latencyMs) ledger
    else (ledger, .error (.value "LLMInvocationOutcome"))

def failedOutcome (traceIds : Option TraceIdentifiers) (category : LLMInvocationErrorCategory)
    (providerResponseId : Option ProviderResponseId) (latencyMs : Nat) : LLMInvocationOutcome where
  status := .failed
  tokenUsage := none
  providerResponseId := providerResponseId.map ProviderResponseId.value
  latencyMs := latencyMs
  errorCategory := some category
  pricingVersion := none
  currency := none
  estimatedCost := none
  traceIds := traceIds

def succeededOutcome (traceIds : Option TraceIdentifiers) (result : ModelResult R V)
    (cost : Option InvocationCost) (latencyMs : Nat) : LLMInvocationOutcome where
  status := .succeeded
  tokenUsage := some result.usage
  providerResponseId := result.providerResponseId.map ProviderResponseId.value
  latencyMs := latencyMs
  errorCategory := none
  pricingVersion := cost.map InvocationCost.pricingVersion
  currency := cost.map fun _ => ()
  estimatedCost := cost.map InvocationCost.estimatedCost
  traceIds := traceIds

/-- `_finalize_failure`: the error that is raised once the record is final. -/
def finalizeFailure (script : AttemptScript R V) (attempt : LLMInvocationAttempt) (startedAt : ℚ)
    (category : ProviderFailureCategory) (providerResponseId : Option ProviderResponseId)
    (ledger : InvocationLedger R V) : InvocationLedger R V × Except LLMFailure LLMFailure :=
  match buildAndComplete script attempt startedAt
      (failedOutcome script.traceIds (.provider category) providerResponseId) ledger with
  | (ledger, .error failure) => (ledger, .error failure)
  | (ledger, .ok ()) => (ledger, .ok (.provider (.provider category)))

/-- `raise await self._finalize_failure(...)`. -/
def raiseFailure (script : AttemptScript R V) (attempt : LLMInvocationAttempt) (startedAt : ℚ)
    (category : ProviderFailureCategory) (ledger : InvocationLedger R V) :
    InvocationLedger R V × Except LLMFailure (Option (ModelResult R V)) :=
  match finalizeFailure script attempt startedAt category none ledger with
  | (ledger, .error failure) | (ledger, .ok failure) => (ledger, .error failure)

/-! ## Waiting -/

/-- `_retry_delay`. -/
def retryDelay (policy : LLMRetryPolicy) (attemptNumber : Nat)
    (retryAfterSeconds sample : Option ℚ) : Except LLMFailure ℚ :=
  match retryAfterSeconds with
  | some seconds => .ok seconds
  | none =>
    match sample.filter fun sample => decide (0 ≤ sample ∧ sample ≤ 1) with
    | none => .error .configuration
    | some sample =>
      .ok (min policy.maxDelaySeconds (policy.baseDelaySeconds * 2 ^ (attemptNumber - 1)) * sample)

/-- `_wait_before_retry`. -/
def waitBeforeRetry (policy : LLMRetryPolicy) (script : AttemptScript R V) (attemptNumber : Nat)
    (deadline : ℚ) (retryAfterSeconds : Option ℚ) (finalError : LLMFailure) :
    Except LLMFailure Unit :=
  match retryDelay policy attemptNumber retryAfterSeconds script.sample with
  | .error failure => .error failure
  | .ok delay =>
    match remainingUntil deadline script.waitReading with
    | .error failure => .error failure
    | .ok remaining =>
      if remaining ≤ delay then .error finalError
      else match script.sleep with
      | .cancelled => .error .cancelled
      | .failed => .error .configuration
      | .slept =>
        match remainingUntil deadline script.resumeReading with
        | .error failure => .error failure
        | .ok remaining => if remaining ≤ 0 then .error finalError else .ok ()

/-! ## The loop -/

namespace AccountedModel
variable (model : AccountedModel) (call : ModelCall R V)

/-- A failure that is final, or after which the loop continues with `none`. -/
def failAttempt (script : AttemptScript R V) (attempt : LLMInvocationAttempt)
    (startedAt deadline : ℚ) (attemptNumber : Nat) (category : ProviderFailureCategory)
    (providerResponseId : Option ProviderResponseId) (retryable : Bool)
    (retryAfterSeconds : Option ℚ) (ledger : InvocationLedger R V) :
    InvocationLedger R V × Except LLMFailure (Option (ModelResult R V)) :=
  match finalizeFailure script attempt startedAt category providerResponseId ledger with
  | (ledger, .error failure) => (ledger, .error failure)
  | (ledger, .ok finalError) =>
    if !retryable || attemptNumber = model.retryPolicy.maxAttempts then (ledger, .error finalError)
    else (ledger, (waitBeforeRetry model.retryPolicy script attemptNumber deadline
      retryAfterSeconds finalError).map fun _ => none)

/-- What follows the adapter's answer. -/
def settle (script : AttemptScript R V) (attempt : LLMInvocationAttempt) (startedAt deadline : ℚ)
    (attemptNumber : Nat) (ledger : InvocationLedger R V) :
    InvocationLedger R V × Except LLMFailure (Option (ModelResult R V)) :=
  match script.answer with
  | .cancelled =>
    let (ledger, _) := buildAndComplete script attempt startedAt
      (failedOutcome script.traceIds .cancelled none) ledger
    (ledger, .error .cancelled)
  | .providerError error =>
    model.failAttempt script attempt startedAt deadline attemptNumber error.category
      error.providerResponseId error.retryable error.retryAfterSeconds ledger
  | .timeout =>
    model.failAttempt script attempt startedAt deadline attemptNumber .providerTimeout none
      (model.provider == .qwen) none ledger
  | .failed => raiseFailure script attempt startedAt .providerError ledger
  | .other => raiseFailure script attempt startedAt .invalidProviderResponse ledger
  | .returned result =>
    if !call.validResult result then
      raiseFailure script attempt startedAt .invalidProviderResponse ledger
    else match model.priceBook model.provider call.kind result.usage with
    | .error () => (ledger, .error (.accounting .pricing false))
    | .ok cost =>
      match buildAndComplete script attempt startedAt
          (succeededOutcome script.traceIds result cost) ledger with
      | (ledger, .error failure) => (ledger, .error failure)
      | (ledger, .ok ()) => (ledger, .ok (some result))

/-- From the prepared record on. -/
def callAdapter (script : AttemptScript R V) (attempt : LLMInvocationAttempt) (deadline : ℚ)
    (attemptNumber : Nat) (ledger : InvocationLedger R V) :
    InvocationLedger R V × Except LLMFailure (Option (ModelResult R V)) :=
  match clockValue script.startReading with
  | .error failure => (ledger, .error failure)
  | .ok startedAt =>
    match remainingUntil deadline script.callReading with
    | .error failure => (ledger, .error failure)
    | .ok remaining =>
      -- `_deadline_exhausted_after_prepare`
      if remaining ≤ 0 then raiseFailure script attempt startedAt .providerTimeout ledger
      else model.settle call script attempt startedAt deadline attemptNumber
        (ledger.call attempt.invocationId script.answer)

/-- `LLMInvocationAttempt(...)`. -/
def newAttempt (invocationId : UUID) : LLMInvocationAttempt where
  invocationId := invocationId
  workspaceId := model.context.workspaceId
  actorUserId := model.context.actorUserId
  runId := model.context.runId
  invocationKind := call.kind
  provider := model.provider
  graphNode := call.graphNode
  promptVersion := call.promptVersion
  requestHash := call.requestHash

/-- A turn of the loop up to the call of the adapter. -/
def openAttempt (deadline : ℚ) (script : AttemptScript R V) (ledger : InvocationLedger R V) :
    Except LLMFailure (InvocationLedger R V × LLMInvocationAttempt) :=
  match remainingUntil deadline script.headReading with
  | .error failure => .error failure
  | .ok remaining =>
    if remaining ≤ 0 then .error (.provider (.provider .providerTimeout))
    else match script.invocationId with
    | none => .error .configuration
    | some invocationId =>
      if !(model.newAttempt call invocationId).valid then
        .error (.value "LLMInvocationAttempt")
      else (recordPrepare script (model.newAttempt call invocationId) ledger).map fun ledger =>
        (ledger, model.newAttempt call invocationId)

/-- One turn of the loop. -/
def attemptOnce (deadline : ℚ) (script : AttemptScript R V) (attemptNumber : Nat)
    (ledger : InvocationLedger R V) :
    InvocationLedger R V × Except LLMFailure (Option (ModelResult R V)) :=
  match model.openAttempt call deadline script ledger with
  | .error failure => (ledger, .error failure)
  | .ok (opened, attempt) => model.callAdapter call script attempt deadline attemptNumber opened

/-- `for attempt_number in range(1, max_attempts + 1)`. -/
def attempts (deadline : ℚ) (scripts : Nat → AttemptScript R V) :
    List Nat → InvocationLedger R V → InvocationLedger R V × Except LLMFailure (ModelResult R V)
  | [], ledger => (ledger, .error (.assertion "bounded retry loop did not terminate"))
  | attemptNumber :: rest, ledger =>
    match model.attemptOnce call deadline (scripts attemptNumber) attemptNumber ledger with
    | (ledger, .error failure) => (ledger, .error failure)
    | (ledger, .ok (some result)) => (ledger, .ok result)
    | (ledger, .ok none) => attempts deadline scripts rest ledger

/-- From the deadline on; `reading` is the clock's first. -/
def accounted (reading : Option ℚ) (scripts : Nat → AttemptScript R V)
    (ledger : InvocationLedger R V) :
    InvocationLedger R V × Except LLMFailure (ModelResult R V) :=
  match clockValue reading with
  | .error failure => (ledger, .error failure)
  | .ok now => model.attempts call (now + model.retryPolicy.deadlineSeconds) scripts
      (List.range' 1 model.retryPolicy.maxAttempts) ledger

end AccountedModel

/-! ## Chat and embedding -/

/-- The SHA-256 hashes of canonical requests; none where a text cannot be encoded. -/
structure RequestHashing (M T : Type) where
  chat : List M → List T → Option String
  embedding : List Text → Option String

/-- `_AccountedChatModel` and `_AccountedEmbeddingModel` with what they are asked. -/
inductive ModelRequest (M T : Type) where
  | chat (messages : List M) (tools : List T) (metadata : Metadata)
  | embedding (texts : List Text) (metadata : Metadata)

variable {M T : Type} (chars : CharacterTables) (hashing : RequestHashing M T)

/-- `_valid_result` of a chat model. -/
def validChatResult (provider : ModelProvider) (result : ModelResult R V) : Bool :=
  match result.reply with
  | .chat _ => result.provider == provider
  | .embedding _ => false

/-- `_valid_result` of an embedding model. -/
def validEmbeddingResult (provider : ModelProvider) (expectedCount : Nat)
    (result : ModelResult R V) : Bool :=
  match result.reply with
  | .chat _ => false
  | .embedding vectors => result.provider == provider && vectors.length == expectedCount

/-- `chat_request_hash`. -/
def chatRequestHash (messages : List M) (tools : List T) : Except LLMFailure String :=
  if messages.isEmpty then .error (.value "chat request messages use the wrong contract")
  else match hashing.chat messages tools with
  | none => .error (.value "UnicodeEncodeError")
  | some digest => .ok digest

/-- `embedding_request_hash`. -/
def embeddingRequestHash (texts : List Text) : Except LLMFailure String :=
  if texts.isEmpty || texts.any (blank chars) then
    .error (.value "embedding request texts must contain non-blank strings")
  else match hashing.embedding texts with
  | none => .error (.value "UnicodeEncodeError")
  | some digest => .ok digest

namespace ModelRequest

def kind : ModelRequest M T → LLMInvocationKind
  | chat .. => .chat
  | embedding .. => .embedding

/-- `_valid_result` of the model that is asked. -/
def validResult (provider : ModelProvider) : ModelRequest M T → ModelResult R V → Bool
  | chat .. => validChatResult provider
  | embedding texts _ => validEmbeddingResult provider texts.length

/-- The graph node, the prompt version and the request hash. -/
def identify : ModelRequest M T → Except LLMFailure (String × Option String × String)
  | chat messages tools metadata =>
    match invocationMetadata metadata true with
    | .error failure => .error failure
    | .ok (graphNode, promptVersion) =>
      (chatRequestHash hashing messages tools).map fun hash => (graphNode, promptVersion, hash)
  | embedding texts metadata =>
    match invocationMetadata metadata false with
    | .error failure => .error failure
    | .ok (graphNode, _) =>
      (embeddingRequestHash chars hashing texts).map fun hash => (graphNode, none, hash)

/-- What `invoke` and `embed` fix before they look at the clock. -/
def call (provider : ModelProvider) (request : ModelRequest M T) :
    Except LLMFailure (ModelCall R V) :=
  (request.identify chars hashing).map fun (graphNode, promptVersion, requestHash) =>
    ⟨request.kind, graphNode, promptVersion, requestHash, request.validResult provider⟩

end ModelRequest

/-- `_AccountedChatModel.invoke` and `_AccountedEmbeddingModel.embed`. -/
def AccountedModel.invoke (model : AccountedModel) (request : ModelRequest M T)
    (reading : Option ℚ) (scripts : Nat → AttemptScript R V) (ledger : InvocationLedger R V) :
    InvocationLedger R V × Except LLMFailure (ModelResult R V) :=
  match request.call chars hashing model.provider with
  | .error failure => (ledger, .error failure)
  | .ok call => model.accounted call reading scripts ledger

end Pathfinder

/-!
## What an outcome admits

A response id that passed the check of a result or of an adapter error passes the
pattern of an outcome and the database unless it holds a line feed, a lone surrogate
or a zero character. Nothing else in an outcome is refused.
-/
namespace Pathfinder
open KeyedTable

variable {R V : Type}

/-- A character of an id that outcomes and the database take. -/
def storableCharacter (c : Nat) : Bool := !surrogate c && c ≠ 0x0A && c ≠ 0

def ProviderResponseId.storable (id : ProviderResponseId) : Bool := id.value.all storableCharacter

namespace ProviderResponseId
variable (id : ProviderResponseId)

theorem value_ne_nil : id.value ≠ [] := by
  rw [id.trimmed]
  exact id.nonblank

/-- The first character is no space: else stripping would make the id shorter. -/
theorem dropWhile_value : id.value.dropWhile pythonSpace = id.value := by
  have shorter : (strip id.value).length ≤ (id.value.dropWhile pythonSpace).length := by
    rw [strip, List.length_reverse]
    exact (List.dropWhile_suffix _).length_le.trans_eq List.length_reverse
  rw [← id.trimmed] at shorter
  exact (List.dropWhile_suffix _).eq_of_length_le shorter

theorem dropWhile_reverse : id.value.reverse.dropWhile pythonSpace = id.value.reverse := by
  have stripped : id.value = (id.value.reverse.dropWhile pythonSpace).reverse := by
    have trimmed := id.trimmed
    rwa [strip, id.dropWhile_value] at trimmed
  rw [← List.reverse_eq_iff, ← stripped]

theorem head_not_space {first : Nat} {rest : CodePoints} (split : id.value = first :: rest) :
    pythonSpace first = false := by
  have kept := List.dropWhile_eq_self_iff.mp id.dropWhile_value (by simp [split])
  simpa [split] using kept

theorem last_not_space {rest : CodePoints} {last : Nat} (split : id.value = rest ++ [last]) :
    pythonSpace last = false := by
  have kept := List.dropWhile_eq_self_iff.mp id.dropWhile_reverse (by simp [split])
  simpa [split] using kept

end ProviderResponseId

theorem not_whiteSpace {c : Nat} (other : pythonSpace c = false) : whiteSpace c = false :=
  (Bool.or_eq_false_iff.mp other).1

/-- A trimmed id is on one line if and only if it matches the pattern. -/
theorem matchesIdPattern_iff (id : ProviderResponseId) :
    matchesIdPattern id.value = true ↔ 0x0A ∉ id.value := by
  have notFeed {c : Nat} (other : pythonSpace c = false) : c ≠ 0x0A := by
    rintro rfl
    cases other
  obtain ⟨first, rest, split⟩ := List.exists_cons_of_ne_nil id.value_ne_nil
  have firstOther := id.head_not_space split
  rw [split, matchesIdPattern, not_whiteSpace firstOther]
  cases rest using List.reverseRecOn with
  | nil => simp [(notFeed firstOther).symm]
  | append_singleton middle last =>
    have ended : id.value = (first :: middle) ++ [last] := by rw [split, List.cons_append]
    have lastOther := id.last_not_space ended
    simp only [List.getLast?_concat, not_whiteSpace lastOther, List.dropLast_concat, Bool.not_false,
      Bool.true_and, List.all_eq_true, decide_eq_true_eq, List.mem_cons, List.mem_append,
      List.not_mem_nil, or_false, not_or]
    constructor
    · intro none
      exact ⟨(notFeed firstOther).symm, fun member => none _ member rfl, (notFeed lastOther).symm⟩
    · rintro ⟨-, none, -⟩ c member rfl
      exact none member

/-- The outcome and the database take exactly the storable ids. -/
theorem id_accepted_iff (id : ProviderResponseId) :
    outcomeIdValid id.value = true ∧ 0 ∉ id.value ↔ id.storable = true := by
  have nonempty : 1 ≤ id.value.length := List.length_pos_iff.mpr id.value_ne_nil
  simp only [outcomeIdValid, Bool.and_eq_true, matchesIdPattern_iff, decide_eq_true_eq, nonempty,
    id.bounded, and_true, ProviderResponseId.storable, storableCharacter, List.all_eq_true]
  constructor
  · rintro ⟨⟨scalars, line⟩, nonzero⟩ c member
    exact ⟨⟨scalars c member, fun feed => line (feed ▸ member)⟩,
      fun zero => nonzero (zero ▸ member)⟩
  · intro all
    exact ⟨⟨fun c member => (all c member).1.1, fun member => (all _ member).1.2 rfl⟩,
      fun member => (all _ member).2 rfl⟩

/-! ## Outcomes -/

theorem failedOutcome_valid (traceIds : Option TraceIdentifiers)
    (category : LLMInvocationErrorCategory) (id : Option ProviderResponseId) (latencyMs : Nat) :
    (failedOutcome traceIds category id latencyMs).valid =
      (id.map ProviderResponseId.value).all outcomeIdValid := by
  simp [LLMInvocationOutcome.valid, failedOutcome]

theorem succeededOutcome_valid (traceIds : Option TraceIdentifiers) (result : ModelResult R V)
    (cost : Option InvocationCost) (latencyMs : Nat)
    (named : ∀ price ∈ cost, pricingVersionValid price.pricingVersion = true) :
    (succeededOutcome traceIds result cost latencyMs).valid =
      (result.providerResponseId.map ProviderResponseId.value).all outcomeIdValid := by
  cases cost with
  | none => simp [LLMInvocationOutcome.valid, succeededOutcome]
  | some price =>
    simp [LLMInvocationOutcome.valid, succeededOutcome, named price rfl, price.digits]

end Pathfinder
