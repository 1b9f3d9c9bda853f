import Pathfinder.Domain.PythonText
import Pathfinder.Domain.Status
import Pathfinder.Library.Table

/-!
# What a model provider answers

The contracts of `llm/ports.py` and the price book of `llm/pricing.py`. A response id
comes from outside, so its code points may be lone surrogates.
-/
namespace Pathfinder

def maxProviderResponseIdLength : Nat := 512

/-- A `provider_response_id` as results and adapter errors check it. -/
structure ProviderResponseId where
  value : CodePoints
  nonblank : strip value ≠ []
  trimmed : value = strip value
  bounded : value.length ≤ maxProviderResponseIdLength

inductive ModelProvider where
  | fake | qwen
  deriving DecidableEq, Repr

/-! ## Usage and cost -/

structure TokenCounts where
  inputTokens : Nat
  outputTokens : Nat
  totalTokens : Option Nat
  cachedInputTokens : Option Nat
  cacheWriteInputTokens : Option Nat
  reasoningOutputTokens : Option Nat
  deriving DecidableEq, Repr

/-- `token_details_must_match_parent_totals`. -/
def TokenCounts.valid (counts : TokenCounts) : Bool :=
  counts.totalTokens.all (· == counts.inputTokens + counts.outputTokens) &&
    counts.cachedInputTokens.getD 0 + counts.cacheWriteInputTokens.getD 0 ≤ counts.inputTokens &&
    counts.reasoningOutputTokens.all (· ≤ counts.outputTokens)

structure ModelUsage where
  counts : TokenCounts
  valid : counts.valid = true
  deriving DecidableEq

inductive LLMInvocationKind where
  | chat | embedding
  deriving DecidableEq, Repr

/-- The first amount of more than 20 digits, 12 of them decimal places. -/
def costLimit : Nat := 100000000000000000000

/-- `InvocationCost`: an amount in units of 10⁻¹² CNY. -/
structure InvocationCost where
  pricingVersion : String
  estimatedCost : Nat
  named : 1 ≤ pricingVersion.length ∧ pricingVersion.length ≤ 100
  digits : estimatedCost < costLimit

/-- `PriceBookPort.estimate`; an error where it raises. -/
abbrev PriceBook :=
  ModelProvider → LLMInvocationKind → ModelUsage → Except Unit (Option InvocationCost)

def qwenBeijingPricingVersion : String := "qwen-cn-beijing-cny-2026-08-13-v1"

/-- `_chat_cost`. -/
def chatCost (counts : TokenCounts) : Option Nat :=
  if counts.cachedInputTokens.getD 0 ≠ 0 ∨ counts.cacheWriteInputTokens.getD 0 ≠ 0 ∨
      1000000 < counts.inputTokens then none
  else if 256000 < counts.inputTokens then
    some (counts.inputTokens * 4800000 + counts.outputTokens * 28800000)
  else some (counts.inputTokens * 1200000 + counts.outputTokens * 7200000)

/-- `QwenBeijingPriceBook.estimate`. -/
def qwenBeijingPriceBook : PriceBook
  | .fake, _, _ => .ok none
  | .qwen, kind, usage =>
    let amount := match kind with
      | .chat => chatCost usage.counts
      | .embedding => some (usage.counts.inputTokens * 500000)
    match amount with
    | none => .ok none
    | some amount =>
      if digits : amount < costLimit then
        .ok (some ⟨qwenBeijingPricingVersion, amount, by decide, digits⟩)
      else .error ()

/-! ## Results and errors of an adapter -/

/-- What a result holds besides its accounting fields: `R` for a chat reply, `V` for
one embedding vector. -/
inductive ModelReply (R V : Type) where
  | chat (reply : R)
  | embedding (vectors : List V)

/-- `ChatModelResult` and `EmbeddingResult`. Each admits one `model` only. -/
structure ModelResult (R V : Type) where
  reply : ModelReply R V
  usage : ModelUsage
  provider : ModelProvider
  providerResponseId : Option ProviderResponseId
  encodable : ∀ id ∈ providerResponseId, id.value.all (fun c => !surrogate c) = true

inductive ProviderFailureCategory where
  | rateLimited | providerTimeout | providerUnavailable | providerAuthentication
  | providerRejected | providerError | invalidProviderResponse
  deriving DecidableEq, Repr

def ProviderFailureCategory.transient : ProviderFailureCategory → Bool
  | rateLimited | providerTimeout | providerUnavailable => true
  | providerAuthentication | providerRejected | providerError | invalidProviderResponse => false

/-- `ProviderAdapterError`; its constructor ties `retryable` to the category. -/
structure ProviderAdapterError where
  category : ProviderFailureCategory
  retryAfterSeconds : Option ℚ
  providerResponseId : Option ProviderResponseId
  waits : ∀ seconds ∈ retryAfterSeconds, 0 ≤ seconds ∧ category.transient = true

def ProviderAdapterError.retryable (error : ProviderAdapterError) : Bool :=
  error.category.transient

/-- How the awaited adapter call ends. `timeout` is a `TimeoutError`, be it raised by
the adapter or by `asyncio.timeout`; `other` is a value of neither result type and
`failed` any other exception. -/
inductive AdapterAnswer (R V : Type) where
  | returned (result : ModelResult R V)
  | other
  | providerError (error : ProviderAdapterError)
  | timeout
  | cancelled
  | failed

/-!
## Records of model invocations

The contracts of `llm/invocations.py` and the recorder of `db/llm_invocations.py`.
A recorder whose database cannot be reached answers so; everything else it decides
from the rows.
-/

open KeyedTable

inductive AccountingPhase where
  | prepare | finalize | pricing | timing
  deriving DecidableEq, Repr

inductive LLMInvocationErrorCategory where
  | provider (category : ProviderFailureCategory)
  | cancelled
  deriving DecidableEq, Repr

/-- What an invocation raises: the errors of `llm/factory.py`, those of the recorder,
`ValueError` and `asyncio.CancelledError`. -/
inductive LLMFailure where
  | provider (category : LLMInvocationErrorCategory)
  | accounting (phase : AccountingPhase) (retryable : Bool)
  | configuration
  | authorization
  | invariant
  | value (message : String)
  | assertion (message : String)
  | cancelled
  deriving DecidableEq, Repr

structure TraceIdentifiers where
  traceId : Nat
  observationId : Nat
  deriving DecidableEq, Repr

/-! ## Metadata of a request -/

abbrev Metadata := List (String × String)

def graphNodeLetter (c : Char) : Bool := 'a' ≤ c && c ≤ 'z'

/-- `^[a-z][a-z0-9_]{0,99}$`. -/
def graphNodeValid (node : String) : Bool :=
  match node.toList with
  | [] => false
  | first :: rest => graphNodeLetter first && rest.length ≤ 99 &&
      rest.all fun c => graphNodeLetter c || c.isDigit || c = '_'

/-- `^sha256:[0-9a-f]{64}$`. -/
def sha256Valid (digest : String) : Bool :=
  digest.length = 71 && "sha256:".toList.isPrefixOf digest.toList &&
    (digest.toList.drop 7).all fun c => c.isDigit || ('a' ≤ c && c ≤ 'f')

/-- `invocation_metadata`. -/
def invocationMetadata (metadata : Metadata) (requirePromptVersion : Bool) :
    Except LLMFailure (String × Option String) :=
  match (metadata.lookup "graph_node").filter graphNodeValid with
  | none => .error (.value "LLM invocation metadata requires a valid graph_node")
  | some graphNode =>
    match requirePromptVersion, metadata.lookup "prompt_version" with
    | true, none => .error (.value "chat invocation metadata requires a valid prompt_version")
    | true, some version =>
      if sha256Valid version then .ok (graphNode, some version)
      else .error (.value "chat invocation metadata requires a valid prompt_version")
    | false, none => .ok (graphNode, none)
    | false, some _ => .error (.value "embedding invocation metadata forbids prompt_version")

/-! ## Attempts and outcomes -/

/-- `LLMInvocationAttempt`; `model` is fixed by the kind. -/
structure LLMInvocationAttempt where
  invocationId : UUID
  workspaceId : UUID
  actorUserId : UUID
  runId : Option UUID
  invocationKind : LLMInvocationKind
  provider : ModelProvider
  graphNode : String
  promptVersion : Option String
  requestHash : String
  deriving DecidableEq, Repr

def LLMInvocationAttempt.valid (attempt : LLMInvocationAttempt) : Bool :=
  graphNodeValid attempt.graphNode && attempt.promptVersion.all sha256Valid &&
    sha256Valid attempt.requestHash &&
    match attempt.invocationKind with
    | .chat => attempt.promptVersion.isSome
    | .embedding => attempt.promptVersion.isNone

inductive LLMOutcomeStatus where
  | succeeded | failed
  deriving DecidableEq, Repr

/-- `LLMInvocationOutcome`; the only currency is CNY. -/
structure LLMInvocationOutcome where
  status : LLMOutcomeStatus
  tokenUsage : Option ModelUsage
  providerResponseId : Option CodePoints
  latencyMs : Nat
  errorCategory : Option LLMInvocationErrorCategory
  pricingVersion : Option String
  currency : Option Unit
  estimatedCost : Option Nat
  traceIds : Option TraceIdentifiers
  deriving DecidableEq

/-- `^\S(?:.*\S)?$`, where `.` matches everything but a line feed. -/
def matchesIdPattern : CodePoints → Bool
  | [] => false
  | first :: rest => !whiteSpace first &&
      match rest.getLast? with
      | none => true
      | some last => !whiteSpace last && rest.dropLast.all (· ≠ 0x0A)

/-- The field `provider_response_id` of an outcome. -/
def outcomeIdValid (id : CodePoints) : Bool :=
  id.all (fun c => !surrogate c) && 1 ≤ id.length && id.length ≤ maxProviderResponseIdLength &&
    matchesIdPattern id

/-- `^[a-z0-9][a-z0-9._-]*$`, at most 100 characters long. -/
def pricingVersionValid (version : String) : Bool :=
  match version.toList with
  | [] => false
  | first :: rest => version.length ≤ 100 && (graphNodeLetter first || first.isDigit) &&
      rest.all fun c => graphNodeLetter c || c.isDigit || c = '.' || c = '_' || c = '-'

/-- The field constraints and `terminal_fields_must_match_status`. -/
def LLMInvocationOutcome.valid (outcome : LLMInvocationOutcome) : Bool :=
  outcome.providerResponseId.all outcomeIdValid &&
    outcome.pricingVersion.all pricingVersionValid &&
    outcome.estimatedCost.all (· < costLimit) &&
    outcome.pricingVersion.isSome == outcome.currency.isSome &&
    outcome.currency.isSome == outcome.estimatedCost.isSome &&
    (outcome.status == .failed || outcome.errorCategory.isNone) &&
    (outcome.estimatedCost.isNone || outcome.tokenUsage.isSome) &&
    (outcome.status == .succeeded || (outcome.errorCategory.isSome &&
      outcome.tokenUsage.isNone && outcome.estimatedCost.isNone))

/-! ## The recorder -/

/-- A row of `llm_invocations`; without an outcome its status is `started`. -/
structure LLMInvocation where
  attempt : LLMInvocationAttempt
  outcome : Option LLMInvocationOutcome
  deriving DecidableEq

/-- What the recorder and the adapter saw of an invocation, in order. -/
inductive LedgerEvent (R V : Type) where
  | prepared (attempt : LLMInvocationAttempt)
  | called (invocationId : UUID) (answer : AdapterAnswer R V)
  | finalized (invocationId : UUID) (outcome : LLMInvocationOutcome)

structure InvocationLedger (R V : Type) where
  rows : Table UUID LLMInvocation
  log : List (LedgerEvent R V)

inductive RecorderError where
  | authorization | invariant | unavailable | other
  deriving DecidableEq, Repr

namespace InvocationLedger
variable {R V : Type}

def put (ledger : InvocationLedger R V) (invocationId : UUID) (row : LLMInvocation)
    (event : LedgerEvent R V) : InvocationLedger R V :=
  ⟨ledger.rows.put invocationId row, ledger.log ++ [event]⟩

def call (ledger : InvocationLedger R V) (invocationId : UUID) (answer : AdapterAnswer R V) :
    InvocationLedger R V :=
  { ledger with log := ledger.log ++ [.called invocationId answer] }

/-- `prepare`. `authorized` is what it reads of the actor's membership and of the run;
an id that is taken is refused by the primary key. -/
def prepare (ledger : InvocationLedger R V) (reachable authorized : Bool)
    (attempt : LLMInvocationAttempt) : Except RecorderError (InvocationLedger R V) :=
  if !reachable then .error .unavailable
  else if !authorized then .error .authorization
  else match ledger.rows.get attempt.invocationId with
  | some _ => .error .other
  | none => .ok (ledger.put attempt.invocationId ⟨attempt, none⟩ (.prepared attempt))

/-- `finalize`. The database takes no text with a zero character. -/
def finalize (ledger : InvocationLedger R V) (reachable : Bool)
    (attempt : LLMInvocationAttempt) (outcome : LLMInvocationOutcome) :
    Except RecorderError (InvocationLedger R V) :=
  if !reachable then .error .unavailable
  else if outcome.providerResponseId.any (fun id => decide (0 ∈ id)) then .error .other
  else match ledger.rows.get attempt.invocationId with
  | none => .error .invariant
  | some row =>
    if row.attempt.workspaceId ≠ attempt.workspaceId ∨
        row.attempt.actorUserId ≠ attempt.actorUserId ∨ row.attempt.runId ≠ attempt.runId then
      .error .invariant
    else match row.outcome with
    | none => .ok (ledger.put attempt.invocationId { row with outcome := some outcome }
        (.finalized attempt.invocationId outcome))
    | some stored => if stored = outcome then .ok ledger else .error .invariant

end InvocationLedger
end Pathfinder
