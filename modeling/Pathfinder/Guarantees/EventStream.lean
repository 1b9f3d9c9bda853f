import Pathfinder.Db.RunEvents
import Pathfinder.Guarantees.EventLog
import Pathfinder.Lifecycle.Invariants

/-!
# The event stream delivers the log

A stream that reads a growing log page by page sends the events above its cursor
in order and once each, whatever the sizes of the pages and the times of the
reads; and connections that each resume with the last `id` received together
deliver what one connection would.
-/
namespace Pathfinder
open Machines Journals

/-- The events of a run, as far as a workspace sees them. -/
def Db.eventLog (db : Db) (tenant : TenantContext) (runId : UUID) : List RunEvent :=
  (db.findRun tenant.workspaceId runId).elim [] RunRows.events

/-- The events above a cursor, up to the terminal one. -/
def eventsDue (cursor : Nat) (log : List RunEvent) : List RunEvent :=
  upTo RunEvent.terminal (entriesAfter RunEvent.seq cursor log)

/-- An append-only history, as successive reads see it: each log carries the
numbers from one without a gap, and begins with every log read before. -/
structure AppendOnly (tenant : TenantContext) (runId : UUID) (snapshots : List Db) : Prop where
  numbered : ∀ db ∈ snapshots, NumberedFrom RunEvent.seq 1 (db.eventLog tenant runId)
  grows : snapshots.Pairwise fun earlier later =>
    earlier.eventLog tenant runId <+: later.eventLog tenant runId

/-! ## One page -/

section Page
variable {db : Db} {tenant : TenantContext} {runId : UUID} {cursor : Nat} {limit : Int}
  {batch : RunEventBatch}

/-- What a successful read returns. -/
structure Page (db : Db) (tenant : TenantContext) (runId : UUID) (cursor : Nat) (limit : Int)
    (batch : RunEventBatch) : Prop where
  size : 1 ≤ limit ∧ limit ≤ 500
  within : cursor ≤ (db.eventLog tenant runId).length
  events : batch.events = ((db.eventLog tenant runId).drop cursor).take limit.toNat
  highWatermark : batch.highWatermark = (db.eventLog tenant runId).length
  status : ∃ rows, db.readableRun tenant runId = some rows ∧
    batch.runIsTerminal = rows.run.status.terminal

theorem eventLog_readable {rows : RunRows} (readable : db.readableRun tenant runId = some rows) :
    db.eventLog tenant runId = rows.events := by
  unfold Db.readableRun at readable
  rw [Db.eventLog, (Option.filter_eq_some_iff.mp readable).1, Option.elim_some]

/-- Rows that are already in order are returned as they are. -/
theorem sorted_insertionSort {events : List RunEvent}
    (sorted : events.Pairwise fun first second => first.seq < second.seq) :
    events.insertionSort seqBefore = events :=
  List.Pairwise.insertionSort_eq (sorted.imp Nat.le_of_lt)

theorem strictlyIncreasing_of_sorted {events : List RunEvent}
    (sorted : events.Pairwise fun first second => first.seq < second.seq) :
    strictlyIncreasing events = true := by
  induction events with
  | nil => rfl
  | cons previous rest ih =>
    obtain ⟨least, sorted⟩ := List.pairwise_cons.mp sorted
    cases rest with
    | nil => rfl
    | cons current rest =>
      simp [strictlyIncreasing, least current List.mem_cons_self, ih sorted]

/-- On a numbered log `read_after` returns the page, unless the run is not
readable; it never finds the cursor ahead of a log that reaches it. -/
theorem readAfter_eq (numbered : NumberedFrom RunEvent.seq 1 (db.eventLog tenant runId))
    (size : 1 ≤ limit ∧ limit ≤ 500) :
    readAfter db tenant runId cursor limit =
      match db.readableRun tenant runId with
      | none => .error .notFound
      | some rows =>
        if rows.events.length < cursor then
          .error (.invalidEventCursor "event cursor is ahead of the committed event history")
        else .ok { events := (rows.events.drop cursor).take limit.toNat,
                   highWatermark := rows.events.length,
                   runIsTerminal := rows.run.status.terminal } := by
  unfold readAfter
  rw [if_neg (by omega), if_neg (by simpa using size)]
  cases readable : db.readableRun tenant runId with
  | none => rfl
  | some rows =>
    rw [eventLog_readable readable] at numbered
    have sorted := numberedFrom_sorted numbered
    have above : (rows.events.filter fun event => (cursor : Int) < event.seq) =
        rows.events.drop cursor := by
      rw [← entriesAfter_eq_drop numbered, entriesAfter]
      simp only [Int.ofNat_lt]
    have page := sorted.sublist
      ((List.take_sublist limit.toNat _).trans (List.drop_sublist cursor rows.events))
    dsimp only
    rw [lastNumber_eq_length numbered, above,
      sorted_insertionSort (sorted.sublist (List.drop_sublist cursor rows.events)),
      strictlyIncreasing_of_sorted page]
    simp only [Int.ofNat_lt]
    rfl

theorem readAfter_page (numbered : NumberedFrom RunEvent.seq 1 (db.eventLog tenant runId))
    (read : readAfter db tenant runId cursor limit = .ok batch) :
    Page db tenant runId cursor limit batch := by
  have size : 1 ≤ limit ∧ limit ≤ 500 := by
    by_contra outside
    unfold readAfter at read
    rw [if_neg (by omega), if_pos outside] at read
    cases read
  rw [readAfter_eq numbered size] at read
  split at read
  · cases read
  next rows readable =>
    split at read
    · cases read
    next within =>
      cases read
      have log := eventLog_readable readable
      exact ⟨size, by rw [log]; omega, by rw [log], by rw [log], rows, readable, rfl⟩

/-- A cursor within the log is refused only where the run cannot be read. -/
theorem readAfter_error {reason : EventReadError}
    (numbered : NumberedFrom RunEvent.seq 1 (db.eventLog tenant runId))
    (size : 1 ≤ limit ∧ limit ≤ 500) (within : cursor ≤ (db.eventLog tenant runId).length)
    (failed : readAfter db tenant runId cursor limit = .error reason) :
    reason = .notFound ∧ db.readableRun tenant runId = none := by
  rw [readAfter_eq numbered size] at failed
  split at failed
  next unreadable =>
    cases failed
    exact ⟨rfl, unreadable⟩
  next rows readable =>
    rw [eventLog_readable readable] at within
    rw [if_neg (by omega)] at failed
    cases failed

end Page

/-! ## One stream -/

section Stream
variable {tenant : TenantContext} {runId : UUID} {batchSize : Int}

/-- What the `for` loop has sent of a page when it is left. -/
inductive Sends (events : List RunEvent) : List RunEvent → Option StreamEnd → Prop
  | all (quiet : ∀ event ∈ events, event.terminal = false) : Sends events events none
  | cut {sent rest : List RunEvent} (page : events = sent ++ rest)
      (quiet : ∀ event ∈ sent, event.terminal = false) :
      Sends events sent (some .disconnected)
  | closed {sent rest : List RunEvent} {last : RunEvent} (page : events = sent ++ last :: rest)
      (quiet : ∀ event ∈ sent, event.terminal = false) (ends : last.terminal = true) :
      Sends events (sent ++ [last]) (some .terminalEvent)

theorem Sends.cons {first : RunEvent} {events sent : List RunEvent} {ending : Option StreamEnd}
    (quiet : first.terminal = false) (sends : Sends events sent ending) :
    Sends (first :: events) (first :: sent) ending := by
  have all {events : List RunEvent} (rest : ∀ event ∈ events, event.terminal = false) :
      ∀ event ∈ first :: events, event.terminal = false := by
    simpa [quiet] using rest
  cases sends with
  | all rest => exact .all (all rest)
  | cut page rest => exact .cut (congrArg (first :: ·) page) (all rest)
  | closed page rest ends =>
    rw [← List.cons_append]
    exact .closed (congrArg (first :: ·) page) (all rest) ends

/-- The cursor moves with what is sent: it stays one ahead of the log so far. -/
theorem sendEvents_sends (disconnected : Nat → Bool) (asked cursor : Nat) {events : List RunEvent}
    (numbered : NumberedFrom RunEvent.seq (cursor + 1) events) :
    ∃ sent ending, sendEvents disconnected asked cursor events =
        (sent.map SseFrame.event, cursor + sent.length, ending) ∧ Sends events sent ending ∧
      (ending = some .disconnected → ∃ n, disconnected n = true) := by
  induction events generalizing asked cursor with
  | nil => exact ⟨[], none, rfl, .all (fun _ member => by cases member), nofun⟩
  | cons event rest ih =>
    obtain ⟨carries, numbered⟩ := numberedFrom_cons.mp numbered
    unfold sendEvents
    split
    next gone =>
      exact ⟨[], _, rfl,
        .cut (List.nil_append (event :: rest)).symm (fun _ member => by cases member),
        fun _ => ⟨asked, gone⟩⟩
    · split
      next ends =>
        refine ⟨[event], some .terminalEvent, by rw [carries]; rfl, ?_, nofun⟩
        exact .closed (List.nil_append (event :: rest)).symm (fun _ member => by cases member) ends
      next quiet =>
        rw [← carries] at numbered
        obtain ⟨sent, ending, same, sends, gone⟩ := ih (asked + 1) event.seq numbered
        refine ⟨event :: sent, ending, ?_, sends.cons (Bool.eq_false_of_not_eq_true quiet), gone⟩
        dsimp only
        rw [same, carries, List.length_cons, List.map_cons, Nat.add_assoc, Nat.add_comm 1]

@[simp] theorem events_after (sent : List RunEvent) (rest : Streamed) :
    (rest.after (sent.map SseFrame.event)).events = sent ++ rest.events := by
  simp [Streamed.events, Streamed.after, List.filterMap_append]

@[simp] theorem events_after_heartbeat (sent : List RunEvent) (rest : Streamed) :
    (rest.after (sent.map SseFrame.event ++ [.heartbeat])).events = sent ++ rest.events := by
  simp [Streamed.events, Streamed.after, List.filterMap_append]

@[simp] theorem events_sent (sent : List RunEvent) (cursor : Nat) (ending : StreamEnd) :
    Streamed.events ⟨sent.map SseFrame.event, cursor, ending⟩ = sent := by
  simp [Streamed.events]

/-- How the turns of a stream go on from a page, without the heartbeats. -/
inductive Turns (tenant : TenantContext) (runId : UUID) (batchSize : Int) :
    Nat → RunEventBatch → List Poll → List RunEvent → Nat → StreamEnd → Prop
  | waiting {cursor batch} : Turns tenant runId batchSize cursor batch [] [] cursor .waiting
  | left {cursor batch poll polls sent ending}
      (sends : Sends batch.events sent (some ending))
      (gone : ending = .disconnected → ∃ n, poll.disconnected n = true) :
      Turns tenant runId batchSize cursor batch (poll :: polls) sent (cursor + sent.length) ending
  | done {cursor batch poll polls} (quiet : ∀ event ∈ batch.events, event.terminal = false)
      (ended : batch.runIsTerminal = true)
      (reached : batch.highWatermark ≤ cursor + batch.events.length) :
      Turns tenant runId batchSize cursor batch (poll :: polls) batch.events
        (cursor + batch.events.length) .highWatermark
  | gone {cursor batch poll polls} (quiet : ∀ event ∈ batch.events, event.terminal = false)
      (gone : ∃ n, poll.disconnected n = true) :
      Turns tenant runId batchSize cursor batch (poll :: polls) batch.events
        (cursor + batch.events.length) .disconnected
  | refused {cursor batch poll polls reason}
      (quiet : ∀ event ∈ batch.events, event.terminal = false)
      (read : readAfter poll.db tenant runId (cursor + batch.events.length : Nat) batchSize =
        .error reason) :
      Turns tenant runId batchSize cursor batch (poll :: polls) batch.events
        (cursor + batch.events.length) (.failed reason)
  | next {cursor batch poll polls following events last ending}
      (quiet : ∀ event ∈ batch.events, event.terminal = false)
      (open_ : ¬ (batch.runIsTerminal = true ∧
        batch.highWatermark ≤ cursor + batch.events.length))
      (read : readAfter poll.db tenant runId (cursor + batch.events.length : Nat) batchSize =
        .ok following)
      (rest : Turns tenant runId batchSize (cursor + batch.events.length) following polls
        events last ending) :
      Turns tenant runId batchSize cursor batch (poll :: polls) (batch.events ++ events)
        last ending

theorem Page.numbered {db : Db} {cursor : Nat} {batch : RunEventBatch}
    (page : Page db tenant runId cursor batchSize batch)
    (numbered : NumberedFrom RunEvent.seq 1 (db.eventLog tenant runId)) :
    NumberedFrom RunEvent.seq (cursor + 1) batch.events := by
  rw [page.events, Nat.add_comm]
  exact numberedFrom_begins (numberedFrom_drop numbered cursor) (List.take_prefix _ _)

theorem streamRunEvents_turns {polls : List Poll} {db : Db} {cursor : Nat} {batch : RunEventBatch}
    (numbered : ∀ seen ∈ db :: polls.map Poll.db,
      NumberedFrom RunEvent.seq 1 (seen.eventLog tenant runId))
    (page : Page db tenant runId cursor batchSize batch) :
    let streamed := streamRunEvents tenant runId batchSize cursor batch polls
    Turns tenant runId batchSize cursor batch polls streamed.events streamed.cursor
      streamed.ending := by
  induction polls generalizing db cursor batch with
  | nil => exact .waiting
  | cons poll polls ih =>
    obtain ⟨sent, ending, same, sends, gone⟩ := sendEvents_sends poll.disconnected 0 cursor
      (page.numbered (numbered db List.mem_cons_self))
    have numbered : ∀ seen ∈ poll.db :: polls.map Poll.db,
        NumberedFrom RunEvent.seq 1 (seen.eventLog tenant runId) :=
      fun seen member => numbered seen (List.mem_cons_of_mem _ member)
    unfold streamRunEvents
    rw [same]
    cases ending with
    | some ending =>
      dsimp only
      rw [events_sent]
      exact .left sends (fun left => gone (congrArg some left))
    | none =>
      cases sends with
      | all quiet =>
      dsimp only
      split
      next ended =>
        rw [events_sent]
        exact .done quiet ended.1 ended.2
      next open_ =>
        split
        next left =>
          rw [events_sent]
          exact .gone quiet ⟨_, left⟩
        · split
          next reason read =>
            rw [events_sent]
            exact .refused quiet read
          next following read =>
            have turns := ih numbered (readAfter_page (numbered _ List.mem_cons_self) read)
            split
            · split
              next left =>
                rw [events_sent]
                exact .gone quiet ⟨_, left⟩
              · rw [events_after_heartbeat]
                exact .next quiet open_ read turns
            · rw [events_after]
              exact .next quiet open_ read turns

/-- A page is the next part of every later log. -/
theorem Page.next {db : Db} {cursor : Nat} {batch : RunEventBatch} {whole : List RunEvent}
    (page : Page db tenant runId cursor batchSize batch)
    (grown : db.eventLog tenant runId <+: whole) :
    whole.drop cursor = batch.events ++ whole.drop (cursor + batch.events.length) := by
  have part : batch.events <+: whole.drop cursor := by
    obtain ⟨added, rfl⟩ := grown
    rw [page.events, List.drop_append_of_le_length page.within]
    exact (List.take_prefix _ _).trans (List.prefix_append _ _)
  rw [← List.drop_drop]
  exact (List.prefix_iff_eq_append.mp part).symm

/-- What a stream owes to the logs it reads, when it has sent `events` and its
cursor stands at `last`. -/
structure Replays (tenant : TenantContext) (runId : UUID) (cursor : Nat) (snapshots : List Db)
    (events : List RunEvent) (last : Nat) (ending : StreamEnd) : Prop where
  counts : last = cursor + events.length
  ordered : ∀ db, snapshots.getLast? = some db →
    events <+: eventsDue cursor (db.eventLog tenant runId)
  terminalEvent : ending = .terminalEvent → ∃ event ∈ events, event.terminal = true
  highWatermark : ending = .highWatermark → ∃ db ∈ snapshots,
    (∃ rows, db.readableRun tenant runId = some rows ∧ rows.run.status.terminal = true) ∧
    events = entriesAfter RunEvent.seq cursor (db.eventLog tenant runId)
  failed : ∀ reason, ending = .failed reason →
    reason = .notFound ∧ ∃ db ∈ snapshots, db.readableRun tenant runId = none

theorem AppendOnly.tail {db : Db} {snapshots : List Db}
    (history : AppendOnly tenant runId (db :: snapshots)) : AppendOnly tenant runId snapshots :=
  ⟨fun seen member => history.numbered seen (List.mem_cons_of_mem _ member),
    (List.pairwise_cons.mp history.grows).2⟩

/-- The first log of a history is the beginning of all others. -/
theorem AppendOnly.first {db seen : Db} {snapshots : List Db}
    (history : AppendOnly tenant runId (db :: snapshots)) (member : seen ∈ db :: snapshots) :
    db.eventLog tenant runId <+: seen.eventLog tenant runId := by
  rcases List.mem_cons.mp member with rfl | later
  · exact List.prefix_refl _
  · exact (List.pairwise_cons.mp history.grows).1 seen later

/-- What is due begins with the page that was read. -/
theorem Page.due {db seen : Db} {snapshots : List Db} {cursor : Nat} {batch : RunEventBatch}
    (history : AppendOnly tenant runId (db :: snapshots)) (member : seen ∈ db :: snapshots)
    (page : Page db tenant runId cursor batchSize batch) :
    entriesAfter RunEvent.seq cursor (seen.eventLog tenant runId) = batch.events ++
      entriesAfter RunEvent.seq (cursor + batch.events.length) (seen.eventLog tenant runId) := by
  rw [entriesAfter_eq_drop (history.numbered seen member),
    entriesAfter_eq_drop (history.numbered seen member), page.next (history.first member)]

/-- The cursor after a page is within the log it was read from. -/
theorem Page.reaches {db : Db} {cursor : Nat} {batch : RunEventBatch}
    (page : Page db tenant runId cursor batchSize batch) :
    cursor + batch.events.length ≤ (db.eventLog tenant runId).length := by
  have within := page.within
  rw [page.events, List.length_take, List.length_drop]
  omega

theorem Sends.ordered {events sent more : List RunEvent} {ending : Option StreamEnd}
    (sends : Sends events sent ending) : sent <+: upTo RunEvent.terminal (events ++ more) := by
  cases sends with
  | all quiet =>
    rw [upTo_append quiet]
    exact List.prefix_append _ _
  | cut page quiet =>
    rw [page, List.append_assoc, upTo_append quiet]
    exact List.prefix_append _ _
  | @closed sent rest last page quiet ends =>
    have closes : upTo RunEvent.terminal (events ++ more) = sent ++ [last] := by
      rw [page, List.append_assoc, upTo_append quiet, List.cons_append, upTo, if_pos ends]
    exact closes ▸ List.prefix_refl _

theorem turns_replay {polls : List Poll} {db : Db} {cursor last : Nat} {batch : RunEventBatch}
    {events : List RunEvent} {ending : StreamEnd}
    (history : AppendOnly tenant runId (db :: polls.map Poll.db))
    (page : Page db tenant runId cursor batchSize batch)
    (turns : Turns tenant runId batchSize cursor batch polls events last ending) :
    Replays tenant runId cursor (db :: polls.map Poll.db) events last ending := by
  -- the whole page has been sent, and nothing of it ends the stream
  have sent {polls : List Poll} {db : Db} {cursor : Nat} {batch : RunEventBatch}
      (history : AppendOnly tenant runId (db :: polls.map Poll.db))
      (page : Page db tenant runId cursor batchSize batch)
      (quiet : ∀ event ∈ batch.events, event.terminal = false) (seen : Db)
      (last : (db :: polls.map Poll.db).getLast? = some seen) :
      eventsDue cursor (seen.eventLog tenant runId) = batch.events ++
        eventsDue (cursor + batch.events.length) (seen.eventLog tenant runId) := by
    rw [eventsDue, page.due history (List.mem_of_getLast? last), upTo_append quiet, eventsDue]
  induction turns generalizing db with
  | waiting =>
    exact ⟨rfl, fun _ _ => List.nil_prefix, nofun, nofun, nofun⟩
  | @left cursor batch poll polls sent ending sends gone =>
    refine ⟨rfl, fun seen last => ?_, ?_, ?_, ?_⟩
    · rw [eventsDue, page.due history (List.mem_of_getLast? last)]
      exact sends.ordered
    · rintro rfl
      cases sends with
      | @closed sent rest event page quiet ends => exact ⟨event, by simp, ends⟩
    · rintro rfl
      cases sends
    · rintro reason rfl
      cases sends
  | @done cursor batch poll polls quiet ended reached =>
    refine ⟨rfl, fun seen last => ?_, nofun, fun _ => ?_, nofun⟩
    · rw [sent history page quiet seen last]
      exact List.prefix_append _ _
    · obtain ⟨rows, readable, status⟩ := page.status
      refine ⟨db, List.mem_cons_self, ⟨rows, readable, status ▸ ended⟩, ?_⟩
      rw [page.highWatermark] at reached
      rw [page.due history List.mem_cons_self,
        entriesAfter_eq_drop (history.numbered db List.mem_cons_self),
        List.drop_of_length_le reached, List.append_nil]
  | @gone cursor batch poll polls quiet gone =>
    refine ⟨rfl, fun seen last => ?_, nofun, nofun, nofun⟩
    rw [sent history page quiet seen last]
    exact List.prefix_append _ _
  | @refused cursor batch poll polls reason quiet read =>
    refine ⟨rfl, fun seen last => ?_, nofun, nofun, fun reason failed => ?_⟩
    · rw [sent history page quiet seen last]
      exact List.prefix_append _ _
    · cases failed
      have grown := (history.first (List.mem_cons_of_mem _ List.mem_cons_self)).length_le
      obtain ⟨missing, unreadable⟩ := readAfter_error
        (history.tail.numbered poll.db List.mem_cons_self) page.size
        (Nat.le_trans page.reaches grown) read
      exact ⟨missing, poll.db, List.mem_cons_of_mem _ List.mem_cons_self, unreadable⟩
  | @next cursor batch poll polls following events last ending quiet open_ read rest ih =>
    have later := ih history.tail
      (readAfter_page (history.tail.numbered poll.db List.mem_cons_self) read)
    refine ⟨?_, fun seen final => ?_, fun ends => ?_, fun ends => ?_, fun reason failed => ?_⟩
    · rw [later.counts, List.length_append, Nat.add_assoc]
    · rw [sent history page quiet seen final]
      exact (List.prefix_append_right_inj _).mpr (later.ordered seen final)
    · obtain ⟨event, member, terminal⟩ := later.terminalEvent ends
      exact ⟨event, List.mem_append_right _ member, terminal⟩
    · obtain ⟨seen, member, ended, reached⟩ := later.highWatermark ends
      have member := List.mem_cons_of_mem db member
      exact ⟨seen, member, ended, by rw [page.due history member, reached]⟩
    · obtain ⟨missing, seen, member, unreadable⟩ := later.failed reason failed
      exact ⟨missing, seen, List.mem_cons_of_mem db member, unreadable⟩

/-! ## Progress -/

/-- The client stays, and every read finds the run. -/
def Undisturbed (tenant : TenantContext) (runId : UUID) (polls : List Poll) : Prop :=
  ∀ poll ∈ polls, (∀ n, poll.disconnected n = false) ∧
    (poll.db.readableRun tenant runId).isSome = true

/-- The read finds a run that has ended. -/
def Db.runEnded (db : Db) (tenant : TenantContext) (runId : UUID) : Bool :=
  (db.readableRun tenant runId).any fun rows => rows.run.status.terminal

theorem Page.runEnded {db : Db} {cursor : Nat} {batch : RunEventBatch}
    (page : Page db tenant runId cursor batchSize batch) :
    db.runEnded tenant runId = batch.runIsTerminal := by
  obtain ⟨rows, readable, status⟩ := page.status
  rw [Db.runEnded, readable, status, Option.any_some]

/-- A page is empty only at the end of the log. -/
theorem Page.advances {db : Db} {cursor : Nat} {batch : RunEventBatch}
    (page : Page db tenant runId cursor batchSize batch) :
    (db.eventLog tenant runId).length ≤ cursor + batch.events.length ∨
      1 ≤ batch.events.length := by
  have size := page.size
  rw [page.events, List.length_take, List.length_drop]
  omega

/-- How far a stream has come that neither ended nor was disturbed: each read was
followed by enough of its log, and each read of an ended run by an event. -/
structure Advanced (tenant : TenantContext) (runId : UUID) (cursor : Nat) (snapshots : List Db)
    (last : Nat) : Prop where
  delivered : ∀ db later, db :: later <:+ snapshots →
    min (db.eventLog tenant runId).length (cursor + later.length) ≤ last
  bounded : ∀ db, snapshots.getLast? = some db →
    cursor + snapshots.countP (Db.runEnded · tenant runId) ≤
      (db.eventLog tenant runId).length + 1

/-- A stream that is left alone ends by itself or moves on. -/
theorem turns_progress {polls : List Poll} {db : Db} {cursor last : Nat} {batch : RunEventBatch}
    {events : List RunEvent} {ending : StreamEnd}
    (history : AppendOnly tenant runId (db :: polls.map Poll.db))
    (page : Page db tenant runId cursor batchSize batch)
    (turns : Turns tenant runId batchSize cursor batch polls events last ending)
    (undisturbed : Undisturbed tenant runId polls) :
    ending = .terminalEvent ∨ ending = .highWatermark ∨
      (ending = .waiting ∧ cursor ≤ last ∧
        Advanced tenant runId cursor (db :: polls.map Poll.db) last) := by
  induction turns generalizing db with
  | @waiting cursor batch =>
    refine .inr (.inr ⟨rfl, Nat.le_refl _, fun seen later suffix => ?_, fun seen final => ?_⟩)
    · have only : later = [] := by
        have shorter := suffix.length_le
        simp only [List.map_nil, List.length_cons, List.length_nil] at shorter
        exact List.length_eq_zero_iff.mp (by omega)
      rw [only, List.length_nil]
      omega
    · obtain rfl : db = seen := by simpa using final
      have within := page.within
      have once := List.countP_le_length (p := (Db.runEnded · tenant runId)) (l := [db])
      simp only [List.length_singleton] at once
      simp only [List.map_nil]
      omega
  | @left cursor batch poll polls sent ending sends gone =>
    cases sends with
    | cut page quiet =>
      obtain ⟨n, left⟩ := gone rfl
      rw [(undisturbed poll List.mem_cons_self).1 n] at left
      cases left
    | closed page quiet ends => exact .inl rfl
  | done => exact .inr (.inl rfl)
  | @gone cursor batch poll polls quiet gone =>
    obtain ⟨n, left⟩ := gone
    rw [(undisturbed poll List.mem_cons_self).1 n] at left
    cases left
  | @refused cursor batch poll polls reason quiet read =>
    have grown := (history.first (List.mem_cons_of_mem _ List.mem_cons_self)).length_le
    have unreadable := (readAfter_error (history.tail.numbered poll.db List.mem_cons_self)
      page.size (Nat.le_trans page.reaches grown) read).2
    have readable := (undisturbed poll List.mem_cons_self).2
    rw [unreadable] at readable
    cases readable
  | @next cursor batch poll polls following events last ending quiet open_ read rest ih =>
    have following := readAfter_page (history.tail.numbered poll.db List.mem_cons_self) read
    rcases ih history.tail following
      (fun poll member => undisturbed poll (List.mem_cons_of_mem _ member)) with
      closed | reached | ⟨waits, further, advanced⟩
    · exact .inl closed
    · exact .inr (.inl reached)
    refine .inr (.inr ⟨waits, Nat.le_trans (Nat.le_add_right _ _) further,
      fun seen later suffix => ?_, fun seen final => ?_⟩)
    · rcases List.suffix_cons_iff.mp suffix with same | earlier
      · cases same
        have grown := (history.first (List.mem_cons_of_mem _ List.mem_cons_self)).length_le
        have onward := advanced.delivered poll.db (polls.map Poll.db) (List.suffix_refl _)
        have advances := page.advances
        simp only [List.map_cons, List.length_cons] at onward ⊢
        omega
      · have onward := advanced.delivered seen later earlier
        omega
    · have bounded := advanced.bounded seen final
      have advances := page.advances
      rw [page.highWatermark, ← page.runEnded] at open_
      rw [List.countP_cons]
      simp only [List.map_cons] at bounded ⊢
      split
      next ended =>
        have behind : ¬ (db.eventLog tenant runId).length ≤ cursor + batch.events.length :=
          fun reached => open_ ⟨ended, reached⟩
        omega
      · omega

/-! ## Connections -/

/-- A request that gives the `id` received last resumes behind that event. -/
theorem getRunEvents_resumed (connection : Connection) {cursor : Nat}
    (supported : cursor ≤ maxCursor) :
    getRunEvents tenant runId (some cursor.repr) connection.opened connection.polls =
      connection.streamed tenant runId 100 cursor := by
  rw [getRunEvents, parseLastEventId_repr supported]
  rfl

theorem connection_replay {cursor : Nat} {connection : Connection} {streamed : Streamed}
    (history : AppendOnly tenant runId connection.snapshots)
    (opened : connection.streamed tenant runId batchSize cursor = .ok streamed) :
    Replays tenant runId cursor connection.snapshots streamed.events streamed.cursor
      streamed.ending := by
  obtain ⟨batch, read, rfl⟩ := map_ok opened
  have page := readAfter_page (history.numbered connection.opened List.mem_cons_self) read
  exact turns_replay history page (streamRunEvents_turns history.numbered page)

theorem connection_progress {cursor : Nat} {connection : Connection} {streamed : Streamed}
    (history : AppendOnly tenant runId connection.snapshots)
    (opened : connection.streamed tenant runId batchSize cursor = .ok streamed)
    (undisturbed : Undisturbed tenant runId connection.polls) :
    streamed.ending = .terminalEvent ∨ streamed.ending = .highWatermark ∨
      (streamed.ending = .waiting ∧
        Advanced tenant runId cursor connection.snapshots streamed.cursor) := by
  obtain ⟨batch, read, rfl⟩ := map_ok opened
  have page := readAfter_page (history.numbered connection.opened List.mem_cons_self) read
  rcases turns_progress history page (streamRunEvents_turns history.numbered page)
    undisturbed with closed | reached | ⟨waits, -, advanced⟩
  · exact .inl closed
  · exact .inr (.inl reached)
  · exact .inr (.inr ⟨waits, advanced⟩)

theorem AppendOnly.last {db seen : Db} {snapshots : List Db}
    (history : AppendOnly tenant runId snapshots) (final : snapshots.getLast? = some db)
    (member : seen ∈ snapshots) :
    seen.eventLog tenant runId <+: db.eventLog tenant runId := by
  induction snapshots with
  | nil => cases member
  | cons first rest ih =>
    rcases List.mem_cons.mp member with rfl | later
    · exact history.first (List.mem_of_getLast? final)
    · obtain ⟨next, rest, rfl⟩ := List.exists_cons_of_ne_nil (List.ne_nil_of_mem later)
      rw [List.getLast?_cons_cons] at final
      exact ih history.tail final later

/-- A cursor within the first log is within all of them. -/
theorem AppendOnly.within {snapshots : List Db} {cursor : Nat}
    (history : AppendOnly tenant runId snapshots)
    (first : ∀ db, snapshots.head? = some db → cursor ≤ (db.eventLog tenant runId).length) :
    ∀ db ∈ snapshots, cursor ≤ (db.eventLog tenant runId).length := by
  cases snapshots with
  | nil => exact fun db member => nomatch member
  | cons opened rest =>
    intro db member
    exact Nat.le_trans (first opened rfl) (history.first member).length_le

theorem AppendOnly.parts {before after : List Db}
    (history : AppendOnly tenant runId (before ++ after)) :
    AppendOnly tenant runId before ∧ AppendOnly tenant runId after := by
  obtain ⟨first, second, -⟩ := List.pairwise_append.mp history.grows
  exact ⟨⟨fun db member => history.numbered db (List.mem_append_left _ member), first⟩,
    ⟨fun db member => history.numbered db (List.mem_append_right _ member), second⟩⟩

theorem appendOnly_each {connections : List Connection}
    (history : AppendOnly tenant runId (connections.flatMap Connection.snapshots)) :
    ∀ connection ∈ connections, AppendOnly tenant runId connection.snapshots := by
  intro connection member
  obtain ⟨before, after, rfl⟩ := List.append_of_mem member
  rw [List.flatMap_append, List.flatMap_cons] at history
  exact history.parts.2.parts.1

/-- The rest of the log begins where the events received end. -/
theorem entriesAfter_received {cursor : Nat} {received whole : List RunEvent}
    (numbered : NumberedFrom RunEvent.seq 1 whole)
    (part : received <+: entriesAfter RunEvent.seq cursor whole) :
    entriesAfter RunEvent.seq cursor whole =
      received ++ entriesAfter RunEvent.seq (cursor + received.length) whole := by
  rw [entriesAfter_eq_drop numbered] at part ⊢
  rw [entriesAfter_eq_drop numbered, ← List.drop_drop]
  exact (List.prefix_iff_eq_append.mp part).symm

/-- The `id` received last is the number of events before the next one. -/
theorem lastEventId_received {cursor : Nat} {received whole : List RunEvent}
    (numbered : NumberedFrom RunEvent.seq 1 whole)
    (part : received <+: entriesAfter RunEvent.seq cursor whole) :
    lastEventId cursor received = cursor + received.length := by
  rw [entriesAfter_eq_drop numbered] at part
  have carried := numberedFrom_begins (numberedFrom_drop numbered cursor) part
  cases received using List.reverseRecOn with
  | nil => rfl
  | append_singleton rest event =>
    have last := numberedFrom_drop carried rest.length
    rw [List.drop_left, numberedFrom_cons] at last
    rw [lastEventId, List.getLast?_concat, Option.map_some, Option.getD_some, last.1,
      List.length_append, List.length_singleton]
    omega

/-- What reaches the client is the beginning of what is due to it. -/
theorem output_due {cursor : Nat} {connection : Connection} {whole : List RunEvent}
    (history : AppendOnly tenant runId connection.snapshots)
    (grown : ∀ db ∈ connection.snapshots, db.eventLog tenant runId <+: whole) :
    connection.output tenant runId batchSize cursor <+: eventsDue cursor whole := by
  unfold Connection.output
  cases opened : connection.streamed tenant runId batchSize cursor with
  | error reason => exact List.nil_prefix
  | ok streamed =>
    have replays := connection_replay history opened
    obtain ⟨final, last⟩ := Option.isSome_iff_exists.mp (List.getLast?_isSome.mpr
      (List.cons_ne_nil connection.opened (connection.polls.map Poll.db)))
    have due : eventsDue cursor (final.eventLog tenant runId) <+: eventsDue cursor whole :=
      upTo_mono ((grown final (List.mem_of_getLast? last)).filter
        fun event => cursor < RunEvent.seq event)
    exact (List.take_prefix _ _).trans ((replays.ordered final last).trans due)

/-- Received events that do not end the stream come before what is due next. -/
theorem eventsDue_received {cursor : Nat} {received whole : List RunEvent}
    (numbered : NumberedFrom RunEvent.seq 1 whole) (part : received <+: eventsDue cursor whole)
    (quiet : received.any RunEvent.terminal = false) :
    eventsDue cursor whole = received ++ eventsDue (lastEventId cursor received) whole := by
  have part := part.trans (upTo_begins _)
  rw [eventsDue, entriesAfter_received numbered part, lastEventId_received numbered part,
    upTo_append (by simpa using quiet), eventsDue]

variable (batchSize) in
theorem followRun_due (cursor : Nat) {connections : List Connection} {whole : List RunEvent}
    (numbered : NumberedFrom RunEvent.seq 1 whole)
    (history : ∀ connection ∈ connections, AppendOnly tenant runId connection.snapshots)
    (grown : ∀ connection ∈ connections, ∀ db ∈ connection.snapshots,
      db.eventLog tenant runId <+: whole) :
    followRun tenant runId batchSize cursor connections <+: eventsDue cursor whole := by
  induction connections generalizing cursor with
  | nil => exact List.nil_prefix
  | cons connection rest ih =>
    have part : connection.output tenant runId batchSize cursor <+: eventsDue cursor whole :=
      output_due (history connection List.mem_cons_self) (grown connection List.mem_cons_self)
    rw [followRun]
    split
    · exact part
    next quiet =>
      rw [eventsDue_received numbered part (Bool.eq_false_of_not_eq_true quiet)]
      exact (List.prefix_append_right_inj _).mpr
        (ih _ (fun next member => history next (List.mem_cons_of_mem _ member))
          (fun next member => grown next (List.mem_cons_of_mem _ member)))

theorem lastEventId_append (cursor : Nat) (first second : List RunEvent) :
    lastEventId (lastEventId cursor first) second = lastEventId cursor (first ++ second) := by
  cases second using List.reverseRecOn with
  | nil => rw [List.append_nil]; rfl
  | append_singleton rest event =>
    rw [← List.append_assoc]
    simp only [lastEventId, List.getLast?_concat, Option.map_some, Option.getD_some]

/-- One more connection adds its output, unless the stream had ended. -/
theorem followRun_snoc (cursor : Nat) (before : List Connection) (connection : Connection) :
    followRun tenant runId batchSize cursor (before ++ [connection]) =
      let received := followRun tenant runId batchSize cursor before
      if received.any RunEvent.terminal then received
      else received ++
        connection.output tenant runId batchSize (lastEventId cursor received) := by
  induction before generalizing cursor with
  | nil =>
    simp only [List.nil_append, followRun, List.append_nil, ite_self, List.any_nil,
      Bool.false_eq_true, if_false]
    rfl
  | cons first rest ih =>
    simp only [List.cons_append, followRun]
    split
    · rfl
    next quiet =>
      rw [ih, List.any_append, Bool.eq_false_of_not_eq_true quiet, Bool.false_or,
        ← lastEventId_append]
      dsimp only
      split
      · rfl
      · rw [List.append_assoc]

variable (batchSize) in
/-- A client that has received less than what is due resumes within every later log. -/
theorem resumes_within {cursor : Nat} {before : List Connection} {db : Db}
    (history : AppendOnly tenant runId (before.flatMap Connection.snapshots ++ [db]))
    (within : cursor ≤ (db.eventLog tenant runId).length) :
    lastEventId cursor (followRun tenant runId batchSize cursor before) ≤
      (db.eventLog tenant runId).length := by
  have numbered := history.numbered db (by simp)
  have part := (followRun_due batchSize cursor numbered
    (appendOnly_each history.parts.1)
    (fun connection member seen there => history.last (by simp)
      (List.mem_append_left _ (List.mem_flatMap.mpr ⟨connection, member, there⟩)))).trans
    (upTo_begins _)
  have short := part.length_le
  rw [lastEventId_received numbered part]
  rw [entriesAfter_eq_drop numbered, List.length_drop] at short
  omega

variable (batchSize) in
/-- Whatever the client has received is the beginning of what is due to it. -/
theorem follow_due (cursor : Nat) {connections : List Connection} {db : Db}
    (history : AppendOnly tenant runId (connections.flatMap Connection.snapshots))
    (final : (connections.flatMap Connection.snapshots).getLast? = some db) :
    followRun tenant runId batchSize cursor connections <+:
      eventsDue cursor (db.eventLog tenant runId) :=
  followRun_due batchSize cursor (history.numbered db (List.mem_of_getLast? final))
    (appendOnly_each history) fun connection member _ seen =>
      history.last final (List.mem_flatMap.mpr ⟨connection, member, seen⟩)

/-- Received whole to its own end, a stream completes what is due of a log it read. -/
theorem followRun_complete {cursor : Nat} {before : List Connection} {connection : Connection}
    {streamed : Streamed}
    (history : AppendOnly tenant runId ((before ++ [connection]).flatMap Connection.snapshots))
    (opened : connection.streamed tenant runId batchSize
      (lastEventId cursor (followRun tenant runId batchSize cursor before)) = .ok streamed)
    (ended : streamed.ending = .terminalEvent ∨ streamed.ending = .highWatermark)
    (whole : streamed.events.length ≤ connection.received) :
    ∃ db ∈ connection.snapshots,
      followRun tenant runId batchSize cursor (before ++ [connection]) =
        eventsDue cursor (db.eventLog tenant runId) ∧
      ((followRun tenant runId batchSize cursor (before ++ [connection])).any RunEvent.terminal ∨
        db.runEnded tenant runId) := by
  have parts : AppendOnly tenant runId
      (before.flatMap Connection.snapshots ++ connection.snapshots) := by
    simpa using history
  have replays := connection_replay parts.parts.2 opened
  obtain ⟨final, last⟩ := Option.isSome_iff_exists.mp (List.getLast?_isSome.mpr
    (List.cons_ne_nil connection.opened (connection.polls.map Poll.db)))
  have due := follow_due batchSize cursor history (by
    rw [List.flatMap_append, List.flatMap_singleton, List.getLast?_append, Connection.snapshots,
      last, Option.some_or])
  cases terminal : (followRun tenant runId batchSize cursor (before ++ [connection])).any
      RunEvent.terminal with
  | true =>
    exact ⟨final, List.mem_of_getLast? last, upTo_reached due (List.any_eq_true.mp terminal),
      .inl rfl⟩
  | false =>
    have output : connection.output tenant runId batchSize
        (lastEventId cursor (followRun tenant runId batchSize cursor before)) =
        streamed.events := by
      rw [Connection.output, opened]
      exact List.take_of_length_le whole
    rw [followRun_snoc] at terminal due ⊢
    dsimp only at terminal due ⊢
    split at terminal
    next closed =>
      rw [closed] at terminal
      cases terminal
    next open_ =>
    rw [if_neg open_, output] at due ⊢
    rw [output, List.any_append, Bool.or_eq_false_iff] at terminal
    rcases ended with closed | reached
    · obtain ⟨event, member, ends⟩ := replays.terminalEvent closed
      have found := List.any_eq_true.mpr ⟨event, member, ends⟩
      rw [terminal.2] at found
      cases found
    · obtain ⟨db, member, ⟨rows, readable, status⟩, events⟩ := replays.highWatermark reached
      -- what came before is the beginning of the log at which the stream ended
      have numbered := parts.parts.2.numbered db member
      have part : followRun tenant runId batchSize cursor before <+:
          entriesAfter RunEvent.seq cursor (db.eventLog tenant runId) := by
        refine (followRun_due batchSize cursor numbered ?_ ?_).trans (upTo_begins _)
        · exact appendOnly_each parts.parts.1
        · intro earlier listed seen there
          exact (List.pairwise_append.mp parts.grows).2.2 seen
            (List.mem_flatMap.mpr ⟨earlier, listed, there⟩) db member
      have joined : followRun tenant runId batchSize cursor before ++ streamed.events =
          entriesAfter RunEvent.seq cursor (db.eventLog tenant runId) := by
        rw [entriesAfter_received numbered part, events, lastEventId_received numbered part]
      refine ⟨db, member, ?_, .inr ?_⟩
      · rw [eventsDue, ← joined, upTo_of_prefix due]
      · rw [Db.runEnded, readable, Option.any_some]
        exact status

/-- A client that resumes is refused only where the run cannot be read. -/
theorem opened_error {cursor : Nat} {connections before after : List Connection}
    {connection : Connection} {reason : EventReadError} (size : 1 ≤ batchSize ∧ batchSize ≤ 500)
    (history : AppendOnly tenant runId (connections.flatMap Connection.snapshots))
    (within : ∀ db ∈ connections.flatMap Connection.snapshots,
      cursor ≤ (db.eventLog tenant runId).length)
    (split : connections = before ++ connection :: after)
    (failed : connection.streamed tenant runId batchSize
      (lastEventId cursor (followRun tenant runId batchSize cursor before)) = .error reason) :
    reason = .notFound ∧ connection.opened.readableRun tenant runId = none := by
  subst split
  simp only [List.flatMap_append, List.flatMap_cons] at history within
  have opened : connection.opened ∈ connection.snapshots := List.mem_cons_self
  have whole : before.flatMap Connection.snapshots ++ [connection.opened] ++
      (connection.polls.map Poll.db ++ after.flatMap Connection.snapshots) =
      before.flatMap Connection.snapshots ++
        (connection.snapshots ++ after.flatMap Connection.snapshots) := by
    simp [Connection.snapshots]
  rw [← whole] at history
  have reaches := resumes_within batchSize history.parts.1
    (within _ (by simp [opened]))
  unfold Connection.streamed at failed
  cases read : readAfter connection.opened tenant runId
      (lastEventId cursor (followRun tenant runId batchSize cursor before)) batchSize with
  | error other =>
    rw [read] at failed
    cases failed
    exact readAfter_error (history.numbered _ (by simp)) size reaches read
  | ok batch =>
    rw [read] at failed
    cases failed

end Stream

/-! ## The logs of the stores -/

section Stores
variable {cfg : Config}

/-- An effect appends to the log of a run, and leaves it in its workspace. -/
theorem affects_log {rows after : RunRows}
    (path : Relation.ReflTransGen (Affects cfg) rows after) :
    rows.events <+: after.events ∧ after.run.workspaceId = rows.run.workspaceId := by
  induction path with
  | refl => exact ⟨List.prefix_refl _, rfl⟩
  | tail _ affected ih =>
    obtain ⟨memberships, op, effect⟩ := affected
    obtain ⟨types, ⟨added, log_eq, -⟩, -⟩ := effect.logged
    have frame := effect.run_frame
    simp only [Run.identity, Prod.mk.injEq] at frame
    have grown := congrArg Prod.fst log_eq
    dsimp only [RunRows.log] at grown
    refine ⟨ih.1.trans ?_, frame.2.1.trans ih.2⟩
    rw [grown]
    exact List.prefix_append _ _

variable (cfg) in
theorem reached_numbered (tenant : TenantContext) (runId : UUID) (ops : List Op) :
    NumberedFrom RunEvent.seq 1 (((stores cfg).reached ops).db.eventLog tenant runId) := by
  unfold Db.eventLog
  cases found : ((stores cfg).reached ops).db.findRun tenant.workspaceId runId with
  | none => exact numberedFrom_nil
  | some rows => exact (reached_logIntact ops runId rows (findRun_some found).1).numbered

variable (cfg) in
theorem reached_grows (tenant : TenantContext) (runId : UUID) (before after : List Op) :
    ((stores cfg).reached before).db.eventLog tenant runId <+:
      ((stores cfg).reached (before ++ after)).db.eventLog tenant runId := by
  unfold Db.eventLog
  cases found : ((stores cfg).reached before).db.findRun tenant.workspaceId runId with
  | none => exact List.nil_prefix
  | some rows =>
    obtain ⟨stored, here⟩ := findRun_some found
    obtain ⟨later, there, path⟩ := after_path (reached_sound before) stored after
    obtain ⟨grown, workspace⟩ := affects_log path
    rw [← Machine.reached_append] at there
    rw [Db.findRun, there, Option.filter_some, if_pos (by simp [workspace, here])]
    exact grown

variable (cfg) in
/-- What successive reads of the stores see of a run is an append-only history. -/
theorem reached_appendOnly (tenant : TenantContext) (runId : UUID) (ops : List Op)
    {cuts : List Nat} (ordered : cuts.Pairwise (· ≤ ·)) :
    AppendOnly tenant runId (cuts.map fun n => ((stores cfg).reached (ops.take n)).db) := by
  refine ⟨fun db member => ?_, List.pairwise_map.mpr (ordered.imp fun {m n} earlier => ?_)⟩
  · obtain ⟨n, -, rfl⟩ := List.mem_map.mp member
    exact reached_numbered cfg tenant runId _
  · obtain ⟨more, rfl⟩ := Nat.exists_eq_add_of_le earlier
    rw [List.take_add]
    exact reached_grows cfg tenant runId _ _

end Stores

/-- The connections of a client, each resumed with the `id` received last, while the
run's log grows between the reads; the route opens them with pages of 100 events.
None is refused but for a run that is not readable.
Each sends the events above its cursor in order, up to the terminal one; left
alone it moves on with every read, until it has ended with the terminal event or at
the high watermark of a run that has ended. Together they deliver the beginning of
what is due from the first cursor on, and all of it once a stream that ended has
been received whole. -/
theorem event_stream_replay (tenant : TenantContext) (runId : UUID) (batchSize : Int)
    (cursor : Nat) (connections : List Connection) (size : 1 ≤ batchSize ∧ batchSize ≤ 500)
    (history : AppendOnly tenant runId (connections.flatMap Connection.snapshots))
    (within : ∀ db, (connections.flatMap Connection.snapshots).head? = some db →
      cursor ≤ (db.eventLog tenant runId).length) :
    (∀ before connection after, connections = before ++ connection :: after →
      let resumed := lastEventId cursor (followRun tenant runId batchSize cursor before)
      (batchSize = 100 → resumed ≤ maxCursor →
        getRunEvents tenant runId (some resumed.repr) connection.opened connection.polls =
          connection.streamed tenant runId batchSize resumed) ∧
      (∀ reason, connection.streamed tenant runId batchSize resumed = .error reason →
        reason = .notFound ∧ connection.opened.readableRun tenant runId = none) ∧
      ∀ streamed, connection.streamed tenant runId batchSize resumed = .ok streamed →
        Replays tenant runId resumed connection.snapshots streamed.events streamed.cursor
          streamed.ending ∧
        (streamed.ending = .terminalEvent → ∀ db, connection.snapshots.getLast? = some db →
          streamed.events = eventsDue resumed (db.eventLog tenant runId)) ∧
        (Undisturbed tenant runId connection.polls →
          streamed.ending = .terminalEvent ∨ streamed.ending = .highWatermark ∨
          (streamed.ending = .waiting ∧
            Advanced tenant runId resumed connection.snapshots streamed.cursor)) ∧
        (streamed.ending = .terminalEvent ∨ streamed.ending = .highWatermark →
          streamed.events.length ≤ connection.received →
          ∃ db ∈ connection.snapshots,
            followRun tenant runId batchSize cursor (before ++ [connection]) =
              eventsDue cursor (db.eventLog tenant runId) ∧
            ((followRun tenant runId batchSize cursor
                (before ++ [connection])).any RunEvent.terminal ∨
              db.runEnded tenant runId))) ∧
    ∀ db, (connections.flatMap Connection.snapshots).getLast? = some db →
      followRun tenant runId batchSize cursor connections <+:
        eventsDue cursor (db.eventLog tenant runId) ∧
      ((followRun tenant runId batchSize cursor connections).any RunEvent.terminal = true →
        followRun tenant runId batchSize cursor connections =
          eventsDue cursor (db.eventLog tenant runId)) := by
  refine ⟨fun before connection after split => ?_, fun db final => ?_⟩
  · intro resumed
    refine ⟨fun page supported => ?_, fun reason failed => ?_, fun streamed opened => ?_⟩
    · rw [page]
      exact getRunEvents_resumed connection supported
    · exact opened_error size history (history.within within) split failed
    have upto : AppendOnly tenant runId
        ((before ++ [connection]).flatMap Connection.snapshots) := by
      rw [split, List.append_cons, List.flatMap_append] at history
      exact history.parts.1
    have here := appendOnly_each upto connection (by simp)
    have replays := connection_replay here opened
    refine ⟨replays, fun closed db final => ?_, connection_progress here opened,
      followRun_complete upto opened⟩
    exact upTo_reached (replays.ordered db final) (replays.terminalEvent closed)
  · have due := follow_due batchSize cursor history final
    exact ⟨due, fun ended => upTo_reached due (List.any_eq_true.mp ended)⟩

namespace Sample

/-- Run 3 from its creation to its end. -/
def completed : List Op :=
  running ++ [.complete (claimed 1 1 100 none) ⟨.researchV2, "\x7b\x7d"⟩ (.error .unavailable) 2]

/-- What a read sees after so many of the requests. -/
def readAt (requests : Nat) : Db := ((stores config).reached (completed.take requests)).db

/-- The first connection is cut after one event, the second reads on to the end. -/
def connections : List Connection :=
  [{ opened := readAt 3, received := 1,
     polls := [⟨fun _ => false, readAt 3, true⟩, ⟨fun n => n == 1, readAt 5, true⟩] },
   { opened := readAt 5, received := 9,
     polls := [⟨fun _ => false, readAt 6, false⟩, ⟨fun _ => false, readAt 6, false⟩,
       ⟨fun _ => false, readAt 6, false⟩] }]

end Sample

/-- The two connections deliver the whole log of the run. -/
theorem event_stream_replay_resumed :
    followRun Sample.member 3 1 0 Sample.connections =
      eventsDue 0 ((Sample.readAt 6).eventLog Sample.member 3) := by
  have history : AppendOnly Sample.member 3
      (Sample.connections.flatMap Connection.snapshots) :=
    reached_appendOnly Sample.config Sample.member 3 Sample.completed
      (by decide : [3, 3, 5, 5, 6, 6, 6].Pairwise (· ≤ ·))
  exact ((event_stream_replay Sample.member 3 1 0 Sample.connections ⟨by decide, by decide⟩
    history (fun _ _ => Nat.zero_le _)).2 (Sample.readAt 6) rfl).2 (by decide +kernel)

end Pathfinder
