import Mathlib.Algebra.GroupWithZero.Nat
import Mathlib.Data.List.Sort
import Pathfinder.Db.Models
import Pathfinder.Library.Journal

/-!
# Reading run events

`read_after` of `db/events.py`: one page of the events of a run, read in one
statement together with the status of the run and the highest number of its
events. The row checks (`version`, `payload`, the known types and statuses)
cannot fail on the typed rows.
-/
namespace Pathfinder
open Journals

/-- The exceptions of the event reader. -/
inductive EventReadError where
  | notFound
  | invariant (message : String)
  | invalidEventCursor (message : String)
  | value (message : String)
  deriving DecidableEq, Repr

/-- `RunEventBatch`. -/
structure RunEventBatch where
  events : List RunEvent
  highWatermark : Nat
  runIsTerminal : Bool
  deriving DecidableEq, Repr

/-- The rows the statement of `read_after` joins for this tenant. -/
def Db.readableRun (db : Db) (tenant : TenantContext) (runId : UUID) : Option RunRows :=
  (db.findRun tenant.workspaceId runId).filter fun _ =>
    (findMembership db.memberships tenant.workspaceId tenant.actorUserId).any fun row =>
      row.role == tenant.role && row.revokedAt.isNone

/-- `current.seq <= previous.seq` holds of no two neighbours. -/
def strictlyIncreasing : List RunEvent → Bool
  | previous :: current :: rest =>
    previous.seq < current.seq && strictlyIncreasing (current :: rest)
  | _ => true

/-- `ORDER BY run_events.seq`. -/
def seqBefore (first second : RunEvent) : Prop := first.seq ≤ second.seq

instance : DecidableRel seqBefore := fun first second => by unfold seqBefore; infer_instance

/-- `read_after`. -/
def readAfter (db : Db) (tenant : TenantContext) (runId : UUID) (afterSeq limit : Int) :
    Except EventReadError RunEventBatch :=
  if afterSeq < 0 then
    .error (.invalidEventCursor "event cursor must be a non-negative integer")
  else if ¬ (1 ≤ limit ∧ limit ≤ 500) then
    .error (.invariant "event replay batch limit is invalid")
  else match db.readableRun tenant runId with
  | none => .error .notFound
  | some rows =>
    let highWatermark := lastNumber RunEvent.seq rows.events
    if (highWatermark : Int) < afterSeq then
      .error (.invalidEventCursor "event cursor is ahead of the committed event history")
    else
      let events := ((rows.events.filter fun event => afterSeq < event.seq).insertionSort
        seqBefore).take limit.toNat
      if !strictlyIncreasing events then
        .error (.invariant "persisted run event sequence is not strictly increasing")
      else
        .ok { events := events, highWatermark := highWatermark,
              runIsTerminal := rows.run.status.terminal }

/-!
## The event stream

`parse_last_event_id`, `stream_run_events` and `get_run_events` of
`api/routes/events.py`. What a connection meets from outside (the database each
read sees, the answers of `is_disconnected`, whether the heartbeat interval has
passed) is one `Poll` for each turn of its loop. The text of a frame carries the
event and its number as `id`, so the event stands for it.
-/

/-- `_MAX_CURSOR`. -/
def maxCursor : Nat := 2 ^ 63 - 1

/-- `sys.int_info.default_max_str_digits`: `int` refuses longer texts. -/
def maxIntDigits : Nat := 4300

/-- `parse_last_event_id`. -/
def parseLastEventId (value : Option String) : Except EventReadError Nat :=
  match value with
  | none => .ok 0
  | some text =>
    if text.toList = [] ∨ !text.toList.all Char.isDigit then
      .error (.invalidEventCursor "Last-Event-ID must be a non-negative integer")
    else if maxIntDigits < text.length then
      .error (.value "Exceeds the limit for integer string conversion")
    else
      let cursor := Nat.ofDigitChars 10 text.toList 0
      if maxCursor < cursor then
        .error (.invalidEventCursor "Last-Event-ID exceeds the supported event sequence")
      else .ok cursor

/-- The `id` of a frame is read back as the number it was written from. -/
theorem parseLastEventId_repr {cursor : Nat} (supported : cursor ≤ maxCursor) :
    parseLastEventId (some cursor.repr) = .ok cursor := by
  have digits : ∀ c ∈ Nat.toDigits 10 cursor, c.isDigit = true :=
    fun c member => Nat.isDigit_of_mem_toDigits (by decide) (by decide) member
  have short : cursor.repr.length ≤ maxIntDigits := by
    rw [← String.length_toList, Nat.toList_repr]
    refine Nat.le_trans ((Nat.length_toDigits_le_iff (by decide) (by decide : 0 < 19)).mpr ?_)
      (by decide : 19 ≤ maxIntDigits)
    exact Nat.lt_of_le_of_lt supported (by decide)
  unfold parseLastEventId
  dsimp only
  rw [Nat.toList_repr, if_neg (by simpa [Nat.toDigits_ne_nil] using digits),
    if_neg (Nat.not_lt.mpr short), Nat.ofDigitChars_ten_toDigits]
  exact if_neg (Nat.not_lt.mpr supported)

/-- What the stream sends: an event, or the `: keepalive` comment. -/
inductive SseFrame where
  | event (record : RunEvent)
  | heartbeat
  deriving DecidableEq, Repr

/-- One turn of the loop, as the outside decides it: the answer of each
`is_disconnected` call, the database `read_after` sees, and whether
`_HEARTBEAT_INTERVAL_SECONDS` have passed since the last frame. -/
structure Poll where
  disconnected : Nat → Bool
  db : Db
  heartbeatDue : Bool

/-- How a stream ends; `waiting` has not ended yet. -/
inductive StreamEnd where
  | terminalEvent
  | highWatermark
  | disconnected
  | failed (reason : EventReadError)
  | waiting
  deriving DecidableEq, Repr

/-- The frames a stream has sent, its cursor, and how it ended. -/
structure Streamed where
  frames : List SseFrame
  cursor : Nat
  ending : StreamEnd

/-- The frames go before those that follow. -/
def Streamed.after (frames : List SseFrame) (rest : Streamed) : Streamed :=
  { rest with frames := frames ++ rest.frames }

/-- `event.type in TERMINAL_RUN_EVENT_TYPES`: an event after which nothing is sent. -/
def RunEvent.terminal (event : RunEvent) : Bool := event.type.terminal

/-- The `for event in batch.events` loop; the ending is `none` when it runs to its end. -/
def sendEvents (disconnected : Nat → Bool) :
    Nat → Nat → List RunEvent → List SseFrame × Nat × Option StreamEnd
  | _, cursor, [] => ([], cursor, none)
  | asked, cursor, event :: rest =>
    if disconnected asked then ([], cursor, some .disconnected)
    else if event.terminal then ([.event event], event.seq, some .terminalEvent)
    else
      let sent := sendEvents disconnected (asked + 1) event.seq rest
      (.event event :: sent.1, sent.2)

/-- `stream_run_events`, turn by turn. -/
def streamRunEvents (tenant : TenantContext) (runId : UUID) (batchSize : Int) :
    Nat → RunEventBatch → List Poll → Streamed
  | cursor, _, [] => ⟨[], cursor, .waiting⟩
  | cursor, batch, poll :: polls =>
    match sendEvents poll.disconnected 0 cursor batch.events with
    | (frames, cursor, some ending) => ⟨frames, cursor, ending⟩
    | (frames, cursor, none) =>
      if batch.runIsTerminal ∧ batch.highWatermark ≤ cursor then
        ⟨frames, cursor, .highWatermark⟩
      else if poll.disconnected batch.events.length then ⟨frames, cursor, .disconnected⟩
      else match readAfter poll.db tenant runId cursor batchSize with
      | .error reason => ⟨frames, cursor, .failed reason⟩
      | .ok next =>
        if next.events = [] ∧ poll.heartbeatDue then
          if poll.disconnected (batch.events.length + 1) then ⟨frames, cursor, .disconnected⟩
          else (streamRunEvents tenant runId batchSize cursor next polls).after
            (frames ++ [.heartbeat])
        else (streamRunEvents tenant runId batchSize cursor next polls).after frames

/-- The events among the frames. -/
def Streamed.events (streamed : Streamed) : List RunEvent :=
  streamed.frames.filterMap fun frame =>
    match frame with
    | .event record => some record
    | .heartbeat => none

/-- `get_run_events`: what a request for the stream is answered with. `_EVENT_BATCH_SIZE`
is the size of every page. -/
def getRunEvents (tenant : TenantContext) (runId : UUID) (lastEventId : Option String)
    (db : Db) (polls : List Poll) : Except EventReadError Streamed :=
  match parseLastEventId lastEventId with
  | .error reason => .error reason
  | .ok cursor =>
    (readAfter db tenant runId cursor 100).map fun batch =>
      streamRunEvents tenant runId 100 cursor batch polls

/-! ## A client that resumes -/

/-- One connection of a client: the database the first read sees, the turns of
the stream, and how many of its frames reach the client before it is cut. -/
structure Connection where
  opened : Db
  polls : List Poll
  received : Nat

/-- What each read of a connection sees, in order. -/
def Connection.snapshots (connection : Connection) : List Db :=
  connection.opened :: connection.polls.map Poll.db

/-- The stream of a connection that is opened with a cursor. -/
def Connection.streamed (tenant : TenantContext) (runId : UUID) (batchSize : Int) (cursor : Nat)
    (connection : Connection) : Except EventReadError Streamed :=
  (readAfter connection.opened tenant runId cursor batchSize).map fun batch =>
    streamRunEvents tenant runId batchSize cursor batch connection.polls

/-- The events of a connection that reach the client. -/
def Connection.output (tenant : TenantContext) (runId : UUID) (batchSize : Int) (cursor : Nat)
    (connection : Connection) : List RunEvent :=
  match connection.streamed tenant runId batchSize cursor with
  | .error _ => []
  | .ok streamed => streamed.events.take connection.received

/-- The `id` the client received last. -/
def lastEventId (cursor : Nat) (received : List RunEvent) : Nat :=
  (received.getLast?.map RunEvent.seq).getD cursor

/-- The events a client receives that resumes each connection with the `id` it
received last, until it has received a terminal event. -/
def followRun (tenant : TenantContext) (runId : UUID) (batchSize : Int) :
    Nat → List Connection → List RunEvent
  | _, [] => []
  | cursor, connection :: rest =>
    let received := connection.output tenant runId batchSize cursor
    if received.any RunEvent.terminal then received
    else received ++ followRun tenant runId batchSize (lastEventId cursor received) rest

end Pathfinder
