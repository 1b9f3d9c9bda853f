import Pathfinder.Library.Journal
import Pathfinder.Tools.Registry

/-!
# The books of the tool runtimes

What the row and the events of one invocation say in each phase of its execution. A
step of an execution touches its own invocation only, so the books of the others are
carried along.
-/
namespace Pathfinder
open KeyedTable Machines Journals

variable {J O : Type} {registry : ToolRegistry J O}

namespace ToolEvent

def invocationId : ToolEvent → UUID
  | reserved id _ | started id _ | handled id _ | observed id | finished id _ => id

def isStart : ToolEvent → Bool
  | started .. => true
  | reserved .. | handled .. | observed _ | finished .. => false

def isFinish : ToolEvent → Bool
  | finished .. => true
  | reserved .. | started .. | handled .. | observed _ => false

def reserves (toolName : String) : ToolEvent → Bool
  | reserved _ name => name == toolName
  | started .. | handled .. | observed _ | finished .. => false

def isReserve : ToolEvent → Bool
  | reserved .. => true
  | started .. | handled .. | observed _ | finished .. => false

end ToolEvent

/-- The events of one invocation. -/
def ToolLedger.history (ledger : ToolLedger) (invocationId : UUID) : List ToolEvent :=
  ledger.log.filter fun event => event.invocationId == invocationId

/-- The record says what `execute` returned or raised. -/
def TerminalRecord.agrees (registry : ToolRegistry J O) (record : TerminalRecord) :
    Except ToolFailure CodePoints → Prop
  | .ok text => record = .succeeded (outputSummary registry text)
  | .error failure => ∃ category, failure.category = some category ∧ record = .failed category

/-- The invocation has exactly one terminal record; its row holds it, and it agrees with
the result. -/
def RecordedAs (registry : ToolRegistry J O) (ledger : ToolLedger) (invocationId : UUID)
    (result : Except ToolFailure CodePoints) : Prop :=
  ∃ record, (ledger.history invocationId).filter ToolEvent.isFinish =
      [.finished invocationId record] ∧ record.agrees registry result ∧
    ∃ (row : ToolInvocationRow) (latencyMs : Nat),
      ledger.rows.get invocationId = some (row.finish latencyMs record)

/-- An invocation with `count` attempts started, none of them finished. -/
structure OpenInvocation (ledger : ToolLedger) (invocationId : UUID) (count : Nat) : Prop where
  stored : ∃ row, ledger.rows.get invocationId = some row ∧ row.attempt = count ∧
    row.status = if count = 0 then .prepared else .executing
  starts : (ledger.history invocationId).countP ToolEvent.isStart = count
  unfinished : (ledger.history invocationId).filter ToolEvent.isFinish = []
  unobserved : .observed invocationId ∉ ledger.log

/-- What the ledger says of an execution. -/
def PhaseBooks (ledger : ToolLedger) (execution : ToolExecution J O) : Prop :=
  let invocationId := execution.reservation.invocationId
  match execution.phase with
  | .looping attempt => 1 ≤ attempt ∧ attempt ≤ execution.spec.maxAttempts ∧
      OpenInvocation ledger invocationId (attempt - 1)
  | .handling attempt _ => 1 ≤ attempt ∧ attempt ≤ execution.spec.maxAttempts ∧
      OpenInvocation ledger invocationId attempt
  | .ended _ => (ledger.rows.get invocationId).isSome = true ∧
      (ledger.history invocationId).countP ToolEvent.isStart ≤ execution.spec.maxAttempts

/-! ## Touching one invocation -/

/-- The later ledger has new events and a new row for one invocation only. -/
structure Touches (invocationId : UUID) (ledger later : ToolLedger) : Prop where
  rows : ∀ other, other ≠ invocationId → later.rows.get other = ledger.rows.get other
  log : ∃ events, later.log = ledger.log ++ events ∧
    ∀ event ∈ events, event.invocationId = invocationId
  stored : (ledger.rows.get invocationId).isSome = true →
    (later.rows.get invocationId).isSome = true

section Touches
variable {ledger later : ToolLedger} {invocationId other : UUID} {row : ToolInvocationRow}
  {event : ToolEvent}

theorem Touches.refl (invocationId : UUID) (ledger : ToolLedger) :
    Touches invocationId ledger ledger :=
  ⟨fun _ _ => rfl, ⟨[], (List.append_nil _).symm, nofun⟩, id⟩

theorem Touches.trans {third : ToolLedger} (first : Touches invocationId ledger later)
    (second : Touches invocationId later third) : Touches invocationId ledger third := by
  obtain ⟨events, appended, named⟩ := first.log
  obtain ⟨more, added, alsoNamed⟩ := second.log
  refine ⟨fun id different => (second.rows id different).trans (first.rows id different),
    ⟨events ++ more, by rw [added, appended, List.append_assoc], ?_⟩,
    fun stored => second.stored (first.stored stored)⟩
  intro event member
  rcases List.mem_append.mp member with earlier | late
  · exact named event earlier
  · exact alsoNamed event late

theorem touches_isSome :
    ((ledger.put invocationId row event).rows.get invocationId).isSome = true := by
  rw [ToolLedger.put, Table.put_get_self]
  rfl

theorem touches_put (named : event.invocationId = invocationId) :
    Touches invocationId ledger (ledger.put invocationId row event) := by
  refine ⟨fun id different => Table.put_get_of_ne _ _ different, ⟨[event], rfl, ?_⟩,
    fun _ => touches_isSome⟩
  intro one member
  rw [List.mem_singleton.mp member, named]

theorem touches_note (named : event.invocationId = invocationId) :
    Touches invocationId ledger (ledger.note event) := by
  refine ⟨fun _ _ => rfl, ⟨[event], rfl, ?_⟩, id⟩
  intro one member
  rw [List.mem_singleton.mp member, named]

theorem touches_action (invocationId : UUID) (row : ToolInvocationRow) :
    Touches invocationId ledger ⟨ledger.rows.put invocationId row, ledger.log⟩ := by
  refine ⟨fun id different => Table.put_get_of_ne _ _ different,
    ⟨[], (List.append_nil _).symm, fun _ member => (List.not_mem_nil member).elim⟩, fun _ => ?_⟩
  dsimp only
  rw [Table.put_get_self]
  rfl

theorem Touches.history (touches : Touches invocationId ledger later)
    (different : other ≠ invocationId) : later.history other = ledger.history other := by
  obtain ⟨events, appended, named⟩ := touches.log
  have none : events.filter (fun event => event.invocationId == other) = [] := by
    refine List.filter_eq_nil_iff.mpr fun event member => ?_
    rw [named event member]
    exact fun same => different (beq_iff_eq.mp same).symm
  rw [ToolLedger.history, appended, List.filter_append, none, List.append_nil]
  rfl

theorem Touches.unobserved (touches : Touches invocationId ledger later)
    (different : other ≠ invocationId) (unobserved : .observed other ∉ ledger.log) :
    .observed other ∉ later.log := by
  obtain ⟨events, appended, named⟩ := touches.log
  rw [appended]
  intro member
  rcases List.mem_append.mp member with earlier | new
  · exact unobserved earlier
  · exact different (named _ new)

theorem Touches.underway (touches : Touches invocationId ledger later)
    (different : other ≠ invocationId) {count : Nat} (underway : OpenInvocation ledger other count) :
    OpenInvocation later other count := by
  refine ⟨?_, ?_, ?_, touches.unobserved different underway.unobserved⟩
  · rw [touches.rows other different]
    exact underway.stored
  · rw [touches.history different]
    exact underway.starts
  · rw [touches.history different]
    exact underway.unfinished

theorem Touches.phaseBooks (touches : Touches invocationId ledger later)
    {execution : ToolExecution J O}
    (different : execution.reservation.invocationId ≠ invocationId)
    (books : PhaseBooks ledger execution) : PhaseBooks later execution := by
  unfold PhaseBooks at books ⊢
  split at books
  · exact ⟨books.1, books.2.1, touches.underway different books.2.2⟩
  · exact ⟨books.1, books.2.1, touches.underway different books.2.2⟩
  · dsimp only
    rw [touches.rows _ different, touches.history different]
    exact books

theorem Touches.recordedAs (touches : Touches invocationId ledger later)
    (different : other ≠ invocationId) {result : Except ToolFailure CodePoints} :
    RecordedAs registry later other result ↔ RecordedAs registry ledger other result := by
  rw [RecordedAs, RecordedAs, touches.history different, touches.rows other different]

end Touches

end Pathfinder
