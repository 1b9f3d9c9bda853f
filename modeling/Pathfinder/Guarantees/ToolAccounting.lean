import Pathfinder.Tools.Turns

/-!
# Accounting of tool invocations

Any number of executions of one run keep the books in every interleaving, and each one
that ends has its single record, unless a handler ends in a way that no clause records.
-/
namespace Pathfinder
open KeyedTable Machines Journals

variable {J O : Type} {registry : ToolRegistry J O}

/-! ## A turn in the books -/

section ToolTurn
variable {execution : ToolExecution J O} {ledger later : ToolLedger} {count : Nat}
  {phase : ExecutionPhase} {invocationId : UUID} {row : ToolInvocationRow} {event : ToolEvent}

theorem history_concat (named : event.invocationId = invocationId)
    (appended : later.log = ledger.log ++ [event]) :
    later.history invocationId = ledger.history invocationId ++ [event] := by
  rw [ToolLedger.history, appended, List.filter_append, ← ToolLedger.history]
  simp [named]

theorem history_put (named : event.invocationId = invocationId) :
    (ledger.put invocationId row event).history invocationId =
      ledger.history invocationId ++ [event] :=
  history_concat named rfl

theorem history_note (named : event.invocationId = invocationId) :
    (ledger.note event).history invocationId = ledger.history invocationId ++ [event] :=
  history_concat named rfl

/-- What is noted before a record is no start and no record. -/
theorem history_noted {seen : ToolLedger} {p : ToolEvent → Bool}
    (noted : seen = ledger ∨ seen = ledger.note (.observed invocationId))
    (silent : p (.observed invocationId) = false) :
    (seen.history invocationId).filter p = (ledger.history invocationId).filter p := by
  rcases noted with rfl | rfl
  · rfl
  · have named : (ToolEvent.observed invocationId).invocationId = invocationId := rfl
    rw [history_note named, List.filter_append, List.filter_cons_of_neg (by simp [silent]),
      List.filter_nil, List.append_nil]

/-- A turn adds events of its invocation, and reserves nothing. -/
theorem ToolTurn.appended (turn : ToolTurn registry execution ledger count later phase) :
    ∃ events, later.log = ledger.log ++ events ∧ ∀ event ∈ events,
      event.invocationId = execution.reservation.invocationId ∧ event.isReserve = false := by
  cases turn with
  | started below stored =>
    refine ⟨[_, _], List.append_assoc _ [_] [_], fun event member => ?_⟩
    rcases List.mem_pair.mp member with rfl | rfl
    · exact ⟨rfl, rfl⟩
    · exact ⟨rfl, rfl⟩
  | retried below => exact ⟨[], (List.append_nil _).symm, fun _ member => nomatch member⟩
  | recorded noted agrees =>
    rcases noted with rfl | rfl
    · refine ⟨[_], rfl, fun event member => ?_⟩
      rw [List.mem_singleton.mp member]
      exact ⟨rfl, rfl⟩
    · refine ⟨[_, _], List.append_assoc _ [_] [_], fun event member => ?_⟩
      rcases List.mem_pair.mp member with rfl | rfl
      · exact ⟨rfl, rfl⟩
      · exact ⟨rfl, rfl⟩

theorem ToolTurn.touches (turn : ToolTurn registry execution ledger count later phase) :
    Touches execution.reservation.invocationId ledger later := by
  cases turn with
  | started below stored => exact Touches.trans (touches_put (by rfl)) (touches_note (by rfl))
  | retried below => exact Touches.refl _ _
  | recorded noted agrees =>
    rcases noted with rfl | rfl
    · exact touches_put rfl
    · exact Touches.trans (touches_note (by rfl)) (touches_put (by rfl))

theorem ToolTurn.keys (turn : ToolTurn registry execution ledger count later phase) :
    ledger.rows.keys.length ≤ later.rows.keys.length := by
  cases turn with
  | started below stored => exact Table.keys_length_le_put _ _ _
  | retried below => exact Nat.le_refl _
  | recorded noted agrees =>
    rcases noted with rfl | rfl
    · exact Table.keys_length_le_put _ _ _
    · exact Table.keys_length_le_put _ _ _

/-- Reservations are not counted again. -/
theorem ToolTurn.reservations (turn : ToolTurn registry execution ledger count later phase)
    {p : ToolEvent → Bool} (reserves : ∀ event, p event = true → event.isReserve = true) :
    later.log.countP p = ledger.log.countP p := by
  obtain ⟨events, appended, silent⟩ := turn.appended
  have none : events.countP p = 0 := by
    refine List.countP_eq_zero.mpr fun event member counted => ?_
    have reserved := reserves event counted
    rw [(silent event member).2] at reserved
    cases reserved
  rw [appended, List.countP_append, none, Nat.add_zero]

theorem ToolTurn.phaseBooks (turn : ToolTurn registry execution ledger count later phase)
    (underway : OpenInvocation ledger execution.reservation.invocationId count)
    (bounded : count ≤ execution.spec.maxAttempts) :
    PhaseBooks later { execution with phase := phase } := by
  cases turn with
  | @started row limits below stored =>
    refine ⟨Nat.le_add_left 1 count, below, ?_, ?_, ?_, ?_⟩
    · exact ⟨_, Table.put_get_self _ _ _, rfl, rfl⟩
    · rw [history_note, history_put, List.countP_append, List.countP_append, underway.starts]
      all_goals rfl
    · rw [history_note, history_put, List.filter_append, List.filter_append,
        underway.unfinished]
      all_goals rfl
    · simp [ToolLedger.note, ToolLedger.put, underway.unobserved]
  | retried below => exact ⟨Nat.le_add_left 1 count, below, underway⟩
  | recorded noted agrees =>
    refine ⟨?_, ?_⟩
    · dsimp only [ToolLedger.put]
      rw [Table.put_get_self]
      rfl
    · dsimp only
      rw [history_put, List.countP_append, List.countP_eq_length_filter,
        history_noted noted, ← List.countP_eq_length_filter, underway.starts]
      · exact bounded
      all_goals rfl

/-- A turn that ends the execution leaves exactly one record, that of the result. -/
theorem ToolTurn.recordedAs {result : Except ToolFailure CodePoints}
    (turn : ToolTurn registry execution ledger count later (.ended result))
    (underway : OpenInvocation ledger execution.reservation.invocationId count) :
    RecordedAs registry later execution.reservation.invocationId result := by
  cases turn with
  | @recorded seen row latencyMs record _ noted agrees =>
    refine ⟨record, ?_, agrees, row, latencyMs, Table.put_get_self _ _ _⟩
    rw [history_put, List.filter_append, history_noted noted, underway.unfinished]
    all_goals rfl

end ToolTurn

/-! ## Books of all executions -/

/-- A handler runs behind the start of its attempt. -/
def HandledAfter (before : List ToolEvent) (event : ToolEvent) : Prop :=
  ∀ invocationId attempt, event = .handled invocationId attempt →
    .started invocationId attempt ∈ before

/-- No attempt starts once an end of the permission has been seen. -/
def StartedBefore (before : List ToolEvent) (event : ToolEvent) : Prop :=
  ∀ invocationId attempt, event = .started invocationId attempt →
    .observed invocationId ∉ before

structure ToolBooks (registry : ToolRegistry J O) (world : ToolWorld J O) : Prop where
  phases : ∀ executionId execution, world.executions.get executionId = some execution →
    PhaseBooks world.ledger execution
  apart : ∀ executionId execution otherId other,
    world.executions.get executionId = some execution →
      world.executions.get otherId = some other →
      execution.reservation.invocationId = other.reservation.invocationId → executionId = otherId
  owned : ∀ invocationId toolName, .reserved invocationId toolName ∈ world.ledger.log →
    ∃ executionId execution, world.executions.get executionId = some execution ∧
      execution.reservation.invocationId = invocationId
  known : ∀ event ∈ world.ledger.log, (world.ledger.rows.get event.invocationId).isSome = true
  handled : EachAfter HandledAfter world.ledger.log
  unobserved : EachAfter StartedBefore world.ledger.log
  counted : world.ledger.log.countP ToolEvent.isReserve ≤ world.ledger.rows.keys.length
  limited : ∀ spec, registry.specs spec.name = some spec →
    world.ledger.log.countP (ToolEvent.reserves spec.name) ≤ spec.perRunCallLimit

theorem reserves_isReserve {toolName : String} (event : ToolEvent)
    (reserves : event.reserves toolName = true) : event.isReserve = true := by
  cases event with
  | reserved => rfl
  | started | handled | observed | finished => cases reserves

theorem countP_reserves_le (log : List ToolEvent) (toolName : String) :
    log.countP (ToolEvent.reserves toolName) ≤ log.countP ToolEvent.isReserve :=
  List.countP_mono_left fun event _ => reserves_isReserve event

section Books
variable {world : ToolWorld J O} {executionId : UUID} {execution : ToolExecution J O}
  {later : ToolLedger} {phase : ExecutionPhase} {count : Nat}

/-- An execution that has been counted in the books has a row. -/
theorem PhaseBooks.stored {ledger : ToolLedger} (books : PhaseBooks ledger execution) :
    (ledger.rows.get execution.reservation.invocationId).isSome = true := by
  unfold PhaseBooks at books
  split at books
  · obtain ⟨row, stored, -⟩ := books.2.2.stored
    rw [stored]
    rfl
  · obtain ⟨row, stored, -⟩ := books.2.2.stored
    rw [stored]
    rfl
  · exact books.1

theorem ToolTurn.eachAfter {ledger : ToolLedger}
    (turn : ToolTurn registry execution ledger count later phase)
    (underway : OpenInvocation ledger execution.reservation.invocationId count)
    (handled : EachAfter HandledAfter ledger.log)
    (unobserved : EachAfter StartedBefore ledger.log) :
    EachAfter HandledAfter later.log ∧ EachAfter StartedBefore later.log := by
  cases turn with
  | started below stored =>
    refine ⟨eachAfter_concat.mpr ⟨eachAfter_concat.mpr ⟨handled, by rintro _ _ ⟨⟩⟩, ?_⟩,
      eachAfter_concat.mpr ⟨eachAfter_concat.mpr ⟨unobserved, ?_⟩, by rintro _ _ ⟨⟩⟩⟩
    · rintro _ _ ⟨⟩
      exact List.mem_append_right _ (List.mem_singleton.mpr rfl)
    · rintro _ _ ⟨⟩
      exact underway.unobserved
  | retried below => exact ⟨handled, unobserved⟩
  | recorded noted agrees =>
    rcases noted with rfl | rfl
    · exact ⟨eachAfter_concat.mpr ⟨handled, by rintro _ _ ⟨⟩⟩,
        eachAfter_concat.mpr ⟨unobserved, by rintro _ _ ⟨⟩⟩⟩
    · exact ⟨eachAfter_concat.mpr ⟨eachAfter_concat.mpr ⟨handled, by rintro _ _ ⟨⟩⟩,
          by rintro _ _ ⟨⟩⟩,
        eachAfter_concat.mpr ⟨eachAfter_concat.mpr ⟨unobserved, by rintro _ _ ⟨⟩⟩,
          by rintro _ _ ⟨⟩⟩⟩

/-- An execution that enters another phase keeps its reservation, and the ids stay apart. -/
theorem ToolBooks.enter_apart (books : ToolBooks registry world)
    (running : world.executions.get executionId = some execution) :
    ∀ firstId first otherId other,
      (world.enter executionId execution later phase).executions.get firstId = some first →
        (world.enter executionId execution later phase).executions.get otherId = some other →
        first.reservation.invocationId = other.reservation.invocationId → firstId = otherId := by
  have earlier : ∀ id held,
      (world.enter executionId execution later phase).executions.get id = some held →
        ∃ before, world.executions.get id = some before ∧
          before.reservation.invocationId = held.reservation.invocationId := by
    intro id held found
    dsimp only [ToolWorld.enter] at found
    rw [Table.put_get] at found
    split at found
    next same =>
      cases found
      exact ⟨execution, same ▸ running, rfl⟩
    · exact ⟨held, found, rfl⟩
  intro firstId first otherId other found foundOther same
  obtain ⟨before, stored, named⟩ := earlier firstId first found
  obtain ⟨beforeOther, storedOther, namedOther⟩ := earlier otherId other foundOther
  exact books.apart _ _ _ _ stored storedOther (by rw [named, namedOther, same])

theorem ToolBooks.enter_owned (books : ToolBooks registry world)
    (running : world.executions.get executionId = some execution) {invocationId : UUID}
    {toolName : String} (reserved : .reserved invocationId toolName ∈ world.ledger.log) :
    ∃ id held, (world.enter executionId execution later phase).executions.get id = some held ∧
      held.reservation.invocationId = invocationId := by
  obtain ⟨id, held, stored, named⟩ := books.owned invocationId toolName reserved
  by_cases same : id = executionId
  · subst same
    cases running.symm.trans stored
    exact ⟨id, _, Table.put_get_self _ _ _, named⟩
  · exact ⟨id, held, (Table.put_get_of_ne _ _ same).trans stored, named⟩

/-- What the books say of another execution. -/
theorem ToolBooks.others (books : ToolBooks registry world)
    (running : world.executions.get executionId = some execution)
    (touches : Touches execution.reservation.invocationId world.ledger later) {id : UUID}
    {held : ToolExecution J O} (different : id ≠ executionId)
    (stored : world.executions.get id = some held) : PhaseBooks later held := by
  refine touches.phaseBooks (fun same => different ?_) (books.phases id held stored)
  exact books.apart id held executionId execution stored running same

theorem ToolBooks.turned (books : ToolBooks registry world)
    (running : world.executions.get executionId = some execution)
    (underway : OpenInvocation world.ledger execution.reservation.invocationId count)
    (bounded : count ≤ execution.spec.maxAttempts)
    (turn : ToolTurn registry execution world.ledger count later phase) :
    ToolBooks registry (world.enter executionId execution later phase) := by
  obtain ⟨events, appended, named⟩ := turn.appended
  have stored := (books.phases executionId execution running).stored
  have each := turn.eachAfter underway books.handled books.unobserved
  refine ⟨fun id held found => ?_, books.enter_apart running, fun id name member => ?_,
    fun event member => ?_, each.1, each.2, ?_, fun spec declared => ?_⟩
  · dsimp only [ToolWorld.enter] at found ⊢
    rw [Table.put_get] at found
    split at found
    · cases found
      exact turn.phaseBooks underway bounded
    next different => exact books.others running turn.touches different found
  · have there : .reserved id name ∈ world.ledger.log ++ events := appended ▸ member
    rcases List.mem_append.mp there with earlier | new
    · exact books.enter_owned running earlier
    · cases (named _ new).2
  · have there : event ∈ world.ledger.log ++ events := appended ▸ member
    dsimp only [ToolWorld.enter]
    by_cases same : event.invocationId = execution.reservation.invocationId
    · rw [same]
      exact turn.touches.stored stored
    · rw [turn.touches.rows _ same]
      rcases List.mem_append.mp there with earlier | new
      · exact books.known event earlier
      · exact absurd (named event new).1 same
  · dsimp only [ToolWorld.enter]
    rw [turn.reservations fun _ => id]
    exact books.counted.trans turn.keys
  · dsimp only [ToolWorld.enter]
    rw [turn.reservations reserves_isReserve]
    exact books.limited spec declared

theorem ToolBooks.stuck (books : ToolBooks registry world)
    (running : world.executions.get executionId = some execution)
    (underway : OpenInvocation world.ledger execution.reservation.invocationId count)
    (bounded : count ≤ execution.spec.maxAttempts) {failure : ToolFailure} :
    ToolBooks registry
      (world.enter executionId execution world.ledger (.ended (.error failure))) := by
  refine ⟨fun id held found => ?_, books.enter_apart running,
    fun id name member => books.enter_owned running member, books.known, books.handled,
    books.unobserved, books.counted, books.limited⟩
  dsimp only [ToolWorld.enter] at found ⊢
  rw [Table.put_get] at found
  split at found
  · cases found
    refine ⟨(books.phases executionId execution running).stored, ?_⟩
    dsimp only
    rw [underway.starts]
    exact bounded
  · exact books.phases id held found

/-! ## Steps of the runtimes -/

theorem ToolBooks.action (books : ToolBooks registry world) {invocationId : UUID}
    {row : ToolInvocationRow} (absent : world.ledger.rows.get invocationId = none) :
    ToolBooks registry
      ⟨⟨world.ledger.rows.put invocationId row, world.ledger.log⟩, world.executions⟩ := by
  have touches : Touches invocationId world.ledger
      ⟨world.ledger.rows.put invocationId row, world.ledger.log⟩ :=
    touches_action invocationId row
  refine ⟨fun id held found => ?_, books.apart, books.owned, fun event member => ?_,
    books.handled, books.unobserved, ?_, books.limited⟩
  · have here := books.phases id held found
    refine touches.phaseBooks (fun same => ?_) here
    have stored := here.stored
    rw [same, absent] at stored
    cases stored
  · have stored := books.known event member
    rw [touches.rows _ fun same => by rw [same, absent] at stored; cases stored]
    exact stored
  · exact books.counted.trans (Table.keys_length_le_put _ _ _)

theorem Reserves.touches {spec : ToolSpec J O} {ledger later : ToolLedger} {invocationId : UUID}
    (reserves : Reserves spec ledger later invocationId) : Touches invocationId ledger later := by
  obtain ⟨row, -, -, rfl⟩ := reserves.written
  exact touches_put (by rfl)

/-- The ids of the executions are not the id that is reserved. -/
theorem ToolBooks.unreserved (books : ToolBooks registry world) {spec : ToolSpec J O}
    {invocationId : UUID} (reserves : Reserves spec world.ledger later invocationId) {id : UUID}
    {held : ToolExecution J O} (found : world.executions.get id = some held) :
    held.reservation.invocationId ≠ invocationId := by
  intro same
  have stored := (books.phases id held found).stored
  rw [same, reserves.absent] at stored
  cases stored

/-- No event of the log speaks of an id without a row. -/
theorem ToolBooks.unnamed (books : ToolBooks registry world) {invocationId : UUID}
    (absent : world.ledger.rows.get invocationId = none) :
    world.ledger.history invocationId = [] := by
  refine List.filter_eq_nil_iff.mpr fun event member named => ?_
  have stored := books.known event member
  rw [beq_iff_eq.mp named, absent] at stored
  cases stored

theorem ToolBooks.reserved_phase (books : ToolBooks registry world) {spec : ToolSpec J O}
    {context : ToolRunContext} {reservation : ToolInvocationReservation} {startedAt : ℚ}
    (reserves : Reserves spec world.ledger later reservation.invocationId) :
    PhaseBooks later ⟨context, spec, reservation, startedAt, .looping 1⟩ := by
  have unnamed := books.unnamed reserves.absent
  have unobserved : .observed reservation.invocationId ∉ world.ledger.log := by
    intro member
    have stored := books.known _ member
    rw [ToolEvent.invocationId, reserves.absent] at stored
    cases stored
  obtain ⟨row, prepared, unused, rfl⟩ := reserves.written
  refine ⟨Nat.le_refl 1, spec.positive.2.1, ?_, ?_, ?_, ?_⟩
  · exact ⟨row, Table.put_get_self _ _ _, unused, prepared⟩
  · rw [history_put, unnamed]
    all_goals rfl
  · rw [history_put, unnamed]
    all_goals rfl
  · simp [ToolLedger.put, unobserved]

theorem ToolBooks.reserved (books : ToolBooks registry world) {spec : ToolSpec J O}
    {context : ToolRunContext} {reservation : ToolInvocationReservation} {startedAt : ℚ}
    (fresh : world.executions.get executionId = none)
    (declared : registry.specs spec.name = some spec)
    (reserves : Reserves spec world.ledger later reservation.invocationId) :
    ToolBooks registry ⟨later, world.executions.put executionId
      ⟨context, spec, reservation, startedAt, .looping 1⟩⟩ := by
  have touches := reserves.touches
  have here : PhaseBooks later ⟨context, spec, reservation, startedAt, .looping 1⟩ :=
    books.reserved_phase reserves
  have other_of : ∀ {id held}, world.executions.get id = some held → id ≠ executionId := by
    rintro id held found rfl
    cases fresh.symm.trans found
  obtain ⟨row, prepared, unused, rfl⟩ := reserves.written
  refine ⟨?_, fun firstId first otherId other found foundOther same => ?_,
    fun id name member => ?_, fun event member => ?_, ?_, ?_, ?_, fun other known => ?_⟩
  · refine Table.forall_put (fun id held found => ?_) here
    exact touches.phaseBooks (books.unreserved reserves found) (books.phases id held found)
  · dsimp only at found foundOther
    rw [Table.put_get] at found foundOther
    split at found
    next isFirst =>
      split at foundOther
      next isOther => rw [isFirst, isOther]
      · cases found
        exact absurd same.symm (books.unreserved reserves foundOther)
    · split at foundOther
      · cases foundOther
        exact absurd same (books.unreserved reserves found)
      · exact books.apart _ _ _ _ found foundOther same
  · rcases List.mem_append.mp member with earlier | new
    · obtain ⟨heldId, held, stored, named⟩ := books.owned id name earlier
      exact ⟨heldId, held, (Table.put_get_of_ne _ _ (other_of stored)).trans stored, named⟩
    · cases List.mem_singleton.mp new
      exact ⟨executionId, _, Table.put_get_self _ _ _, rfl⟩
  · rcases List.mem_append.mp member with earlier | new
    · have stored := books.known event earlier
      dsimp only [ToolLedger.put]
      rw [Table.put_get]
      split
      · rfl
      · exact stored
    · rw [List.mem_singleton.mp new]
      exact touches_isSome
  · exact eachAfter_concat.mpr ⟨books.handled, by rintro _ _ ⟨⟩⟩
  · exact eachAfter_concat.mpr ⟨books.unobserved, by rintro _ _ ⟨⟩⟩
  · dsimp only [ToolLedger.put]
    rw [List.countP_append, Table.put_keys_of_absent _ _ reserves.absent, List.length_append]
    exact Nat.add_le_add_right books.counted 1
  · have before := books.limited other known
    dsimp only [ToolLedger.put]
    rw [List.countP_append]
    by_cases same : spec.name = other.name
    · -- every reservation of the tool has a row, and these are below its limit
      have equal : spec = other := Option.some.inj (by rw [← declared, ← known, same])
      subst equal
      have counted := (countP_reserves_le world.ledger.log spec.name).trans books.counted
      have one : [ToolEvent.reserved reservation.invocationId spec.name].countP
          (ToolEvent.reserves spec.name) ≤ 1 := List.countP_le_length
      have below := reserves.below
      omega
    · have none : [ToolEvent.reserved reservation.invocationId spec.name].countP
          (ToolEvent.reserves other.name) = 0 := by simp [ToolEvent.reserves, same]
      rw [none]
      exact before

theorem stepTools_books (op : ToolOp J O) (undisturbed : UndisturbedStep world op)
    (books : ToolBooks registry world) : ToolBooks registry (stepTools registry world op).1 := by
  have stepped : ToolStep registry world op (stepTools registry world op).1 :=
    stepTools_cases books.phases undisturbed
  generalize (stepTools registry world op).1 = next at stepped ⊢
  cases stepped with
  | idle => exact books
  | action absent => exact books.action absent
  | reserved fresh declared reserves => exact books.reserved fresh declared reserves
  | turned running underway bounded turn => exact books.turned running underway bounded turn
  | stuck running underway bounded => exact books.stuck running underway bounded

end Books

/-! ## Accounts -/

/-- Every execution that has ended has its record. -/
def Recorded (registry : ToolRegistry J O) (world : ToolWorld J O) : Prop :=
  ∀ executionId execution result, world.executions.get executionId = some execution →
    execution.phase = .ended result →
      RecordedAs registry world.ledger execution.reservation.invocationId result

/-- What the runtimes of a run owe at any time. -/
structure ToolAccounted (registry : ToolRegistry J O) (world : ToolWorld J O) : Prop where
  terminal : Recorded registry world
  owned : ∀ invocationId toolName, .reserved invocationId toolName ∈ world.ledger.log →
    ∃ executionId execution, world.executions.get executionId = some execution ∧
      execution.reservation.invocationId = invocationId
  handled : EachAfter HandledAfter world.ledger.log
  attempts : ∀ executionId execution, world.executions.get executionId = some execution →
    (world.ledger.history execution.reservation.invocationId).countP ToolEvent.isStart ≤
      execution.spec.maxAttempts
  unobserved : EachAfter StartedBefore world.ledger.log
  limited : ∀ spec, registry.specs spec.name = some spec →
    world.ledger.log.countP (ToolEvent.reserves spec.name) ≤ spec.perRunCallLimit

section Accounts
variable {world : ToolWorld J O}

theorem PhaseBooks.attempts {ledger : ToolLedger} {execution : ToolExecution J O}
    (books : PhaseBooks ledger execution) :
    (ledger.history execution.reservation.invocationId).countP ToolEvent.isStart ≤
      execution.spec.maxAttempts := by
  unfold PhaseBooks at books
  split at books
  · obtain ⟨-, last, underway⟩ := books
    rw [underway.starts]
    exact (Nat.sub_le _ 1).trans last
  · obtain ⟨-, last, underway⟩ := books
    rw [underway.starts]
    exact last
  · exact books.2

theorem ToolBooks.accounted_iff (books : ToolBooks registry world) :
    ToolAccounted registry world ↔ Recorded registry world :=
  ⟨fun accounted => accounted.terminal, fun terminal => ⟨terminal, books.owned, books.handled,
    fun id held found => (books.phases id held found).attempts, books.unobserved, books.limited⟩⟩

/-- A step keeps the records if and only if the handler's answer can be recorded. -/
theorem stepTools_recorded (op : ToolOp J O) (undisturbed : UndisturbedStep world op)
    (books : ToolBooks registry world) (recorded : Recorded registry world) :
    Recorded registry (stepTools registry world op).1 ↔ HandlerFinalizable world op := by
  have stepped : ToolStep registry world op (stepTools registry world op).1 :=
    stepTools_cases books.phases undisturbed
  generalize (stepTools registry world op).1 = next at stepped ⊢
  cases stepped with
  | idle finalizable => exact iff_of_true recorded finalizable
  | action absent =>
    refine iff_of_true (fun id held result found ended => ?_) trivial
    refine ((touches_action _ _).recordedAs fun same => ?_).mpr
      (recorded id held result found ended)
    have stored := (books.phases id held found).stored
    rw [same, absent] at stored
    cases stored
  | @reserved executionId _ _ _ _ _ reservation _ fresh declared reserves =>
    refine iff_of_true ?_ trivial
    suffices all : ∀ id held, (world.executions.put executionId _).get id = some held →
        ∀ result, held.phase = .ended result → _ from
      fun id held result found ended => all id held found result ended
    refine Table.forall_put (fun id held found result ended => ?_) nofun
    exact (reserves.touches.recordedAs (books.unreserved reserves found)).mpr
      (recorded id held result found ended)
  | @turned _ executionId execution _ _ _ running underway bounded turn finalizable =>
    refine iff_of_true ?_ finalizable
    intro id held result found ended
    dsimp only [ToolWorld.enter] at found ⊢
    rw [Table.put_get] at found
    split at found
    · cases found
      subst ended
      exact turn.recordedAs underway
    next different =>
      refine (turn.touches.recordedAs fun same => different ?_).mpr
        (recorded id held result found ended)
      exact books.apart _ _ _ _ found running same
  | @stuck _ executionId execution _ failure running underway bounded refused =>
    refine iff_of_false (fun all => ?_) refused
    obtain ⟨record, finishes, -⟩ := all executionId _ _ (Table.put_get_self _ _ _) rfl
    exact List.cons_ne_nil _ _ (finishes.symm.trans underway.unfinished)

end Accounts

theorem toolBooks_start (registry : ToolRegistry J O) :
    ToolBooks registry ⟨⟨Table.empty, []⟩, Table.empty⟩ where
  phases _ _ found := nomatch found
  apart _ _ _ _ found := nomatch found
  owned _ _ member := (List.not_mem_nil member).elim
  known _ member := (List.not_mem_nil member).elim
  handled := eachAfter_nil
  unobserved := eachAfter_nil
  counted := Nat.zero_le _
  limited _ _ := Nat.zero_le _

theorem recorded_start (registry : ToolRegistry J O) :
    Recorded registry ⟨⟨Table.empty, []⟩, Table.empty⟩ :=
  fun _ _ _ found => nomatch found

/-- Where the recorder is reachable and the clock does not run backwards, the runtimes of
a run keep their accounts throughout if and only if no handler ends with a storage error
or an exception outside `Exception`, and no output fails to serialize in a way that is
not caught. -/
theorem tool_invocations_accounted_iff (registry : ToolRegistry J O) (ops : List (ToolOp J O))
    (undisturbed : (toolRuntimes registry).Guarded UndisturbedStep (toolRuntimes registry).start
      ops) :
    (toolRuntimes registry).Throughout (ToolAccounted registry) (toolRuntimes registry).start ops ↔
      (toolRuntimes registry).Guarded HandlerFinalizable (toolRuntimes registry).start ops := by
  have start := toolBooks_start registry
  have accounted_start := start.accounted_iff.mpr (recorded_start registry)
  refine (toolRuntimes registry).throughout_iff_guarded_of
    (fun world op usual books => stepTools_books op usual books)
    (fun world op usual books accounted => ?_) start accounted_start ops undisturbed
  have next := stepTools_books op usual books
  exact next.accounted_iff.trans (stepTools_recorded op usual books accounted.terminal)

/-! ## A retried timeout, then an answer -/

namespace Sample

def searchSpec : ToolSpec Unit Unit where
  name := "search"
  effect := .readOnly
  timeoutSeconds := 2
  maxAttempts := 2
  perRunCallLimit := 1
  maxOutputBytes := 8
  validInput _ := true
  serialize _ := .ok [123, 125]
  positive := by decide +kernel
  retries _ := rfl

def toolRegistry : ToolRegistry Unit Unit where
  specs name := if name = "search" then some searchSpec else none
  named name spec declared := by
    split at declared
    next same =>
      cases declared
      exact same.symm
    · cases declared
  argsDigest _ := some "sha256:arguments"
  outputDigest _ := "sha256:output"

def toolContext : ToolRunContext := ⟨1, 9, ⟨["search"], [.readOnly]⟩⟩

def searchCall : ToolOp Unit Unit :=
  .execute 1 toolContext ⟨"search", []⟩ ⟨some false, some 0, some 7, true, true, some 0⟩

def finishInputs : FinishInputs := ⟨some 1, true⟩

def startOp : ToolOp Unit Unit :=
  .startAttempt 1 ⟨some false, some 0, true, true, finishInputs⟩

def answerOp (answer : HandlerAnswer Unit) : ToolOp Unit Unit := .answer 1 answer finishInputs

/-- The answers of the handler, one in each attempt. -/
def handlerRun (answers : List (HandlerAnswer Unit)) : List (ToolOp Unit Unit) :=
  searchCall :: answers.flatMap fun answer => [startOp, answerOp answer]

theorem finishInputs_undisturbed {world : ToolWorld Unit Unit}
    (started : (world.executions.get 1).all (fun held => held.startedAt == 0) = true)
    (execution : ToolExecution Unit Unit) (found : world.executions.get 1 = some execution) :
    finishInputs.Undisturbed execution.startedAt := by
  rw [found] at started
  have zero : execution.startedAt = 0 := beq_iff_eq.mp started
  exact ⟨rfl, 1, rfl, zero ▸ zero_le_one⟩

end Sample

/-- The first attempt times out in the handler, the second one succeeds. -/
theorem tool_invocation_accounted_retried :
    (toolRuntimes Sample.toolRegistry).Throughout (ToolAccounted Sample.toolRegistry)
      (toolRuntimes Sample.toolRegistry).start
      (Sample.handlerRun [.raised .handlerTimeout, .returned ()]) := by
  refine (tool_invocations_accounted_iff Sample.toolRegistry _ ?_).mpr ?_
  · refine ⟨⟨rfl, rfl⟩, fun execution found => ⟨rfl, ?_⟩, fun execution found => ?_,
      fun execution found => ⟨rfl, ?_⟩, fun execution found => ?_, trivial⟩
    all_goals refine Sample.finishInputs_undisturbed ?_ execution found
    all_goals decide +kernel
  · refine ⟨trivial, trivial, fun _ _ _ _ _ => ⟨nofun, nofun⟩, trivial,
      fun execution attempt limits found _ => ?_, trivial⟩
    have serialized : ((((toolRuntimes Sample.toolRegistry).reached
        [Sample.searchCall, Sample.startOp, Sample.answerOp (.raised .handlerTimeout),
          Sample.startOp]).executions.get 1).all fun held =>
            (held.spec.serialize ()).toOption == some [123, 125]) = true := by decide +kernel
    have here : Option.all (fun held : ToolExecution Unit Unit =>
        (held.spec.serialize ()).toOption == some [123, 125]) (some execution) = true :=
      found ▸ serialized
    simp only [Finalizable]
    split
    next text same =>
      rw [Option.all_some, same] at here
      cases beq_iff_eq.mp here
      decide
    · trivial
    next same =>
      rw [Option.all_some, same] at here
      cases here

/-! ## A storage error of the handler -/

/-- `execute` reports that the storage is unavailable; the row stays executing. -/
theorem tool_invocation_unaccounted : ¬ ∀ ops : List (ToolOp Unit Unit),
    (toolRuntimes Sample.toolRegistry).Guarded UndisturbedStep
        (toolRuntimes Sample.toolRegistry).start ops →
      (toolRuntimes Sample.toolRegistry).Throughout (ToolAccounted Sample.toolRegistry)
        (toolRuntimes Sample.toolRegistry).start ops := by
  intro all
  have undisturbed : (toolRuntimes Sample.toolRegistry).Guarded UndisturbedStep
      (toolRuntimes Sample.toolRegistry).start (Sample.handlerRun [.raised .unavailable]) := by
    refine ⟨⟨rfl, rfl⟩, fun execution found => ⟨rfl, ?_⟩, fun execution found => ?_, trivial⟩
    all_goals refine Sample.finishInputs_undisturbed ?_ execution found
    all_goals decide +kernel
  have accounted := (toolRuntimes Sample.toolRegistry).throughout_last (all _ undisturbed)
  have ended : ((((toolRuntimes Sample.toolRegistry).reached
      (Sample.handlerRun [.raised .unavailable])).executions.get 1).any fun held =>
        held.reservation.invocationId == 7 && match held.phase with
          | .ended _ => true
          | .looping _ | .handling .. => false) = true := by decide +kernel
  have unfinished : (((toolRuntimes Sample.toolRegistry).reached
      (Sample.handlerRun [.raised .unavailable])).ledger.history 7).filter ToolEvent.isFinish =
        [] := by decide +kernel
  obtain ⟨execution, found, checked⟩ := Option.any_eq_true _ _ |>.mp ended
  obtain ⟨named, closed⟩ := Bool.and_eq_true_iff.mp checked
  split at closed
  next result phase =>
    obtain ⟨record, finishes, -⟩ := accounted.terminal 1 execution result found phase
    rw [beq_iff_eq.mp named] at finishes
    exact List.cons_ne_nil _ _ (finishes.symm.trans unfinished)
  · cases closed
  · cases closed

end Pathfinder
