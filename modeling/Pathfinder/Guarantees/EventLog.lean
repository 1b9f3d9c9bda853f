import Pathfinder.Lifecycle.Invariants

/-!
# The event log of a run

The numbers of the events of a run are `1, 2, ...` up to the counter, and the log
holds a terminal event exactly when the run has ended.
-/
namespace Pathfinder
open Machines Journals

section Log
variable {cfg : Config} {memberships : List WorkspaceMembership} {op : Op}
  {rows after : RunRows}

/-- A run that has ended keeps its status. -/
theorem control_terminal (control : Control cfg memberships op rows after)
    (ended : rows.run.status.terminal = true) : after.run.status = rows.run.status := by
  have live {status : RunStatus} (is : rows.run.status = status) (open_ : status.terminal = false) :
      after.run.status = rows.run.status := by
    rw [is, open_] at ended
    cases ended
  cases control with
  | keep _ run | extend _ _ _ run | claim _ _ _ _ _ _ _ _ run | requeue _ _ _ run
  | handBack _ _ _ _ _ _ _ run | wake _ _ _ _ _ _ run | relink _ _ _ _ _ run => exact run.1
  | finish _ _ run | bury _ _ run =>
    rcases run.2 with ⟨-, same⟩ | ⟨live, -⟩
    · exact same
    · rw [live] at ended
      cases ended
  | start leased before =>
    rcases before with queued | waiting
    · exact live queued rfl
    · exact live waiting rfl
  | park _ _ _ _ pauses => exact live pauses.running rfl
  | closeQueued _ queued => exact live queued rfl
  | closeWaiting _ waiting => exact live waiting rfl
  | flag running => exact live running rfl

theorem terminalEvent_none {status : RunStatus} (live : status.terminal = false) :
    status.terminalEvent = none := by
  cases status <;> simp_all [RunStatus.terminal, RunStatus.terminalEvent]

theorem terminalEvent_some {status : RunStatus} (ended : status.terminal = true) :
    ∃ event, status.terminalEvent = some event := by
  cases status <;> simp_all [RunStatus.terminal, RunStatus.terminalEvent]

/-- The log of a run: numbered from one up to the counter, its terminal events
those of the status. -/
structure LogIntact (rows : RunRows) : Prop where
  counter : rows.run.nextEventSeq = 1 + rows.events.length
  numbered : NumberedFrom RunEvent.seq 1 rows.events
  announces : (rows.events.map RunEvent.type).filter RunEventType.terminal =
    rows.run.status.terminalEvent.toList

theorem logIntact_created (create : CreateRunRequest) (facts : CreationFacts) :
    LogIntact (createdRows create facts) := ⟨rfl, rfl, rfl⟩

theorem logIntact_effect (before : LogIntact rows)
    (effect : Effect cfg memberships op rows after) : LogIntact after := by
  obtain ⟨types, ⟨added, log_eq, numbered, types_eq⟩, announces⟩ := effect.logged
  obtain ⟨events_eq, counter_eq⟩ := Prod.mk.inj log_eq
  dsimp only [RunRows.log] at numbered counter_eq events_eq
  refine ⟨?_, ?_, ?_⟩
  · rw [counter_eq, events_eq, before.counter, List.length_append, Nat.add_assoc]
  · rw [events_eq]
    exact numberedFrom_append before.numbered (before.counter ▸ numbered)
  · rw [events_eq, List.map_append, List.filter_append, before.announces, types_eq, announces]
    unfold announced
    split
    next same => rw [same, List.append_nil]
    next changed =>
      have live : rows.run.status.terminal = false := by
        by_contra ended
        exact changed (control_terminal effect.control (by simpa using ended))
      rw [terminalEvent_none live]
      rfl

theorem reached_logIntact (ops : List Op) :
    AllRuns (fun _ rows => LogIntact rows) ((stores cfg).reached ops) :=
  reached_rows (fun _ _ _ _ _ _ effect before => logIntact_effect before effect)
    (fun create facts _ => logIntact_created create facts) ops

end Log

/-- In every reachable state the events of a run carry exactly the numbers below
its counter, in order and each once; a terminal event is there exactly when the
run has ended, and then it is one event, of the type of the status. -/
theorem event_log_integrity (cfg : Config) (ops : List Op) (runId : UUID) (rows : RunRows)
    (stored : ((stores cfg).reached ops).db.runs.get runId = some rows) :
    rows.events.map RunEvent.seq = List.range' 1 (rows.run.nextEventSeq - 1) ∧
    ((∃ event ∈ rows.events, event.type.terminal = true) ↔ rows.run.status.terminal = true) ∧
    (rows.run.status.terminal = true →
      ∃ event, (rows.events.filter fun event => event.type.terminal) = [event] ∧
        rows.run.status.terminalEvent = some event.type) := by
  have intact := reached_logIntact ops runId rows stored
  have filtered : ((rows.events.filter fun event => event.type.terminal).map RunEvent.type) =
      rows.run.status.terminalEvent.toList := by
    rw [← intact.announces, List.filter_map]
    rfl
  have ended_one : rows.run.status.terminal = true →
      ∃ event, (rows.events.filter fun event => event.type.terminal) = [event] ∧
        rows.run.status.terminalEvent = some event.type := by
    intro ended
    obtain ⟨type, announced⟩ := terminalEvent_some ended
    rw [announced, Option.toList_some, List.map_eq_singleton_iff] at filtered
    obtain ⟨event, only, same⟩ := filtered
    exact ⟨event, only, by rw [announced, same]⟩
  refine ⟨?_, ⟨?_, ?_⟩, ended_one⟩
  · rw [intact.numbered, intact.counter, Nat.add_sub_cancel_left]
  · rintro ⟨event, member, terminal⟩
    by_contra live
    rw [terminalEvent_none (by simpa using live), Option.toList_none, List.map_eq_nil_iff] at filtered
    exact (List.filter_eq_nil_iff.mp filtered) event member terminal
  · intro ended
    obtain ⟨event, only, -⟩ := ended_one ended
    have member : event ∈ rows.events.filter fun event => event.type.terminal :=
      only ▸ List.mem_singleton.mpr rfl
    exact ⟨event, (List.mem_filter.mp member).1, (List.mem_filter.mp member).2⟩

/-- A completed run, with its numbered events and its one terminal event. -/
theorem event_log_integrity_completed :
    ∃ rows, ((stores Sample.config).reached (Sample.running ++
        [.complete (Sample.claimed 1 1 100 none) ⟨.researchV2, "{}"⟩ (.error .unavailable) 2])
      ).db.runs.get 3 = some rows ∧
      rows.run.status = .completed ∧
      rows.events.map RunEvent.seq = List.range' 1 (rows.run.nextEventSeq - 1) ∧
      ∃ event, (rows.events.filter fun event => event.type.terminal) = [event] ∧
        RunStatus.completed.terminalEvent = some event.type := by
  have ended : (((stores Sample.config).reached (Sample.running ++
      [.complete (Sample.claimed 1 1 100 none) ⟨.researchV2, "{}"⟩ (.error .unavailable) 2])
    ).db.runs.get 3).map (fun rows => rows.run.status) = some .completed := by
    decide +kernel
  obtain ⟨rows, stored, completed⟩ := Option.map_eq_some_iff.mp ended
  obtain ⟨numbered, -, announced⟩ := event_log_integrity _ _ _ _ stored
  rw [completed] at announced
  exact ⟨rows, stored, completed, numbered, announced rfl⟩

end Pathfinder
