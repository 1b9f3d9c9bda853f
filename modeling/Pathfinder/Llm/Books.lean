import Pathfinder.Library.Journal
import Pathfinder.Llm.Factory

/-!
# The books of an invocation

What the log of a ledger says in order: each call behind its record, each record
finalized once, each further record behind a retryable failure. Preparing, calling
and finalizing keep the books, with at most one record open.
-/
namespace Pathfinder
open KeyedTable Journals

variable {R V : Type}

namespace LedgerEvent

def invocationId : LedgerEvent R V → UUID
  | prepared attempt => attempt.invocationId
  | called id _ | finalized id _ => id

def isCall : LedgerEvent R V → Bool
  | called .. => true
  | prepared _ | finalized .. => false

def prepares (id : UUID) : LedgerEvent R V → Bool
  | prepared attempt => attempt.invocationId == id
  | called .. | finalized .. => false

def calls (id : UUID) : LedgerEvent R V → Bool
  | called other _ => other == id
  | prepared _ | finalized .. => false

def finalizes (id : UUID) : LedgerEvent R V → Bool
  | finalized other _ => other == id
  | prepared _ | called .. => false

end LedgerEvent

/-- The loop may go on behind such an answer. -/
def AdapterAnswer.retryable (provider : ModelProvider) : AdapterAnswer R V → Bool
  | providerError error => error.retryable
  | timeout => provider == .qwen
  | returned _ | other | cancelled | failed => false

/-- The last attempt of the log is finalized as failed behind a retryable answer. -/
def EndsRetryable (provider : ModelProvider) (log : List (LedgerEvent R V)) : Prop :=
  ∃ earlier id answer outcome, log = earlier ++ [.called id answer, .finalized id outcome] ∧
    outcome.status = .failed ∧ answer.retryable provider = true

def EndsSucceeded (log : List (LedgerEvent R V)) : Prop :=
  ∃ earlier id outcome, log = earlier ++ [.finalized id outcome] ∧ outcome.status = .succeeded

/-- The record of the attempt has one terminal outcome, which its row holds. -/
def Terminal (ledger : InvocationLedger R V) (attempt : LLMInvocationAttempt) : Prop :=
  ledger.log.countP (LedgerEvent.finalizes attempt.invocationId) = 1 ∧
    ∃ outcome, .finalized attempt.invocationId outcome ∈ ledger.log ∧
      ledger.rows.get attempt.invocationId = some ⟨attempt, some outcome⟩

/-! ## Books and the open record -/

/-- The books are in order but for the record under `pending`. -/
structure Books (provider : ModelProvider) (pending : Option UUID)
    (ledger : InvocationLedger R V) : Prop where
  prepared : EachAfter (fun before event => ∀ id answer, event = .called id answer →
    before.countP (LedgerEvent.prepares id) = 1) ledger.log
  calledOnce : ∀ id, ledger.log.countP (LedgerEvent.calls id) ≤ 1
  terminal : ∀ attempt, .prepared attempt ∈ ledger.log → some attempt.invocationId ≠ pending →
    Terminal ledger attempt
  retried : EachAfter (fun before event => ∀ attempt, event = .prepared attempt →
    before = [] ∨ EndsRetryable provider before) ledger.log
  known : ∀ event ∈ ledger.log, (ledger.rows.get event.invocationId).isSome = true

/-- The attempt has a started record and no outcome yet. -/
structure Open (ledger : InvocationLedger R V) (attempt : LLMInvocationAttempt) : Prop where
  row : ledger.rows.get attempt.invocationId = some ⟨attempt, none⟩
  prepared : ledger.log.countP (LedgerEvent.prepares attempt.invocationId) = 1
  listed : .prepared attempt ∈ ledger.log
  single : ∀ other, .prepared other ∈ ledger.log →
    other.invocationId = attempt.invocationId → other = attempt
  unfinished : ledger.log.countP (LedgerEvent.finalizes attempt.invocationId) = 0

section Books
variable {provider : ModelProvider} {ledger : InvocationLedger R V}
  {attempt : LLMInvocationAttempt}

/-- No event of the log speaks of an id without a row. -/
theorem Books.unnamed {pending : Option UUID} (books : Books provider pending ledger) {id : UUID}
    (absent : ledger.rows.get id = none) {p : LedgerEvent R V → Bool}
    (names : ∀ event, p event = true → event.invocationId = id) : ledger.log.countP p = 0 := by
  refine List.countP_eq_zero.mpr fun event member accepted => ?_
  have stored := books.known event member
  rw [names event accepted, absent] at stored
  cases stored

theorem prepares_names {id : UUID} (event : LedgerEvent R V)
    (prepares : event.prepares id = true) : event.invocationId = id := by
  cases event with
  | prepared attempt => exact beq_iff_eq.mp prepares
  | called | finalized => cases prepares

theorem calls_names {id : UUID} (event : LedgerEvent R V) (calls : event.calls id = true) :
    event.invocationId = id := by
  cases event with
  | called other => exact beq_iff_eq.mp calls
  | prepared | finalized => cases calls

theorem finalizes_names {id : UUID} (event : LedgerEvent R V)
    (finalizes : event.finalizes id = true) : event.invocationId = id := by
  cases event with
  | finalized other => exact beq_iff_eq.mp finalizes
  | prepared | called => cases finalizes

/-- A row written under the id of the new event keeps every event known. -/
theorem Books.known_put {pending : Option UUID} (books : Books provider pending ledger)
    (id : UUID) (row : LLMInvocation) (event : LedgerEvent R V) (named : event.invocationId = id) :
    ∀ other ∈ (ledger.put id row event).log,
      ((ledger.put id row event).rows.get other.invocationId).isSome = true := by
  intro other member
  dsimp only [InvocationLedger.put]
  rw [Table.put_get]
  split
  · rfl
  next different =>
    rcases List.mem_append.mp member with earlier | new
    · exact books.known other earlier
    · rw [List.mem_singleton.mp new] at different
      exact absurd named different

/-- What another attempt has settled stays settled. -/
theorem Terminal.put (terminal : Terminal ledger attempt) {id : UUID} {row : LLMInvocation}
    {event : LedgerEvent R V} (other : attempt.invocationId ≠ id)
    (named : event.invocationId = id) : Terminal (ledger.put id row event) attempt := by
  obtain ⟨once, outcome, member, stored⟩ := terminal
  have silent : event.finalizes attempt.invocationId = false := by
    refine Bool.eq_false_iff.mpr fun finalizes => other ?_
    rw [← finalizes_names event finalizes, named]
  refine ⟨?_, outcome, List.mem_append_left _ member, ?_⟩
  · simp [InvocationLedger.put, List.countP_append, once, silent]
  · rw [InvocationLedger.put, Table.put_get_of_ne _ _ other]
    exact stored

theorem Books.prepare (books : Books provider none ledger)
    (absent : ledger.rows.get attempt.invocationId = none)
    (allowed : ledger.log = [] ∨ EndsRetryable provider ledger.log) :
    let after := ledger.put attempt.invocationId ⟨attempt, none⟩ (.prepared attempt)
    Books provider (some attempt.invocationId) after ∧ Open after attempt := by
  have unprepared := books.unnamed absent fun event => prepares_names event
  have unfinished := books.unnamed absent fun event => finalizes_names event
  refine ⟨⟨?_, fun id => ?_, ?_, ?_, books.known_put _ _ _ rfl⟩, ?_⟩
  · exact eachAfter_concat.mpr ⟨books.prepared, nofun⟩
  · simpa [InvocationLedger.put, List.countP_append, LedgerEvent.calls] using books.calledOnce id
  · intro other member different
    rcases List.mem_append.mp member with earlier | new
    · have settled := books.terminal other earlier nofun
      exact settled.put (fun same => different (congrArg some same)) rfl
    · cases List.mem_singleton.mp new
      exact absurd rfl different
  · refine eachAfter_concat.mpr ⟨books.retried, ?_⟩
    rintro other -
    exact allowed
  · refine ⟨Table.put_get_self _ _ _, ?_, List.mem_append_right _ (List.mem_singleton.mpr rfl),
      ?_, ?_⟩
    · simp [InvocationLedger.put, List.countP_append, unprepared, LedgerEvent.prepares]
    · intro other member same
      rcases List.mem_append.mp member with earlier | new
      · have stored := books.known _ earlier
        rw [LedgerEvent.invocationId, same, absent] at stored
        cases stored
      · cases List.mem_singleton.mp new
        rfl
    · simp [InvocationLedger.put, List.countP_append, unfinished, LedgerEvent.finalizes]

theorem Books.call (books : Books provider (some attempt.invocationId) ledger)
    (opened : Open ledger attempt)
    (uncalled : ledger.log.countP (LedgerEvent.calls attempt.invocationId) = 0)
    (answer : AdapterAnswer R V) :
    let after := ledger.call attempt.invocationId answer
    Books provider (some attempt.invocationId) after ∧ Open after attempt := by
  refine ⟨⟨?_, fun id => ?_, ?_, ?_, ?_⟩, ?_⟩
  · refine eachAfter_concat.mpr ⟨books.prepared, ?_⟩
    rintro id _ same
    cases same
    exact opened.prepared
  · by_cases same : attempt.invocationId = id
    · subst same
      simp [InvocationLedger.call, List.countP_append, LedgerEvent.calls, uncalled]
    · simpa [InvocationLedger.call, List.countP_append, LedgerEvent.calls, same]
        using books.calledOnce id
  · intro other member different
    rcases List.mem_append.mp member with earlier | new
    · obtain ⟨once, outcome, listed, stored⟩ := books.terminal other earlier different
      refine ⟨?_, outcome, List.mem_append_left _ listed, stored⟩
      simp [InvocationLedger.call, List.countP_append, LedgerEvent.finalizes, once]
    · cases List.mem_singleton.mp new
  · exact eachAfter_concat.mpr ⟨books.retried, nofun⟩
  · intro event member
    rcases List.mem_append.mp member with earlier | new
    · exact books.known event earlier
    · rw [List.mem_singleton.mp new]
      exact Option.isSome_iff_exists.mpr ⟨_, opened.row⟩
  · refine ⟨opened.row, ?_, List.mem_append_left _ opened.listed, ?_, ?_⟩
    · simp [InvocationLedger.call, List.countP_append, LedgerEvent.prepares, opened.prepared]
    · intro other member same
      rcases List.mem_append.mp member with earlier | new
      · exact opened.single other earlier same
      · cases List.mem_singleton.mp new
    · simp [InvocationLedger.call, List.countP_append, LedgerEvent.finalizes, opened.unfinished]

theorem Books.finalize (books : Books provider (some attempt.invocationId) ledger)
    (opened : Open ledger attempt) (outcome : LLMInvocationOutcome) :
    Books provider none (ledger.put attempt.invocationId ⟨attempt, some outcome⟩
      (.finalized attempt.invocationId outcome)) := by
  refine ⟨?_, fun id => ?_, ?_, ?_, books.known_put _ _ _ rfl⟩
  · exact eachAfter_concat.mpr ⟨books.prepared, nofun⟩
  · simpa [InvocationLedger.put, List.countP_append, LedgerEvent.calls] using books.calledOnce id
  · rintro other member -
    rcases List.mem_append.mp member with earlier | new
    · by_cases same : other.invocationId = attempt.invocationId
      · cases opened.single other earlier same
        refine ⟨?_, outcome, List.mem_append_right _ (List.mem_singleton.mpr rfl),
          Table.put_get_self _ _ _⟩
        simp [InvocationLedger.put, List.countP_append, LedgerEvent.finalizes, opened.unfinished]
      · exact (books.terminal other earlier fun eq => same (Option.some.inj eq)).put same rfl
    · cases List.mem_singleton.mp new
  · exact eachAfter_concat.mpr ⟨books.retried, nofun⟩

end Books

end Pathfinder
