import Pathfinder.Lifecycle.Invariants
import Pathfinder.Lifecycle.Timestamps
import Pathfinder.Tools.Invocations

/-!
# The order of timestamps

The end of a run is clamped to the run's own times except that a cancellation leaves the
cancel request out, and nothing clamps it to the creation; the end of an invocation is
never clamped. So terminal writes are in order exactly where the reading, or a time they
do clamp to, is not before the others.
-/
namespace Pathfinder
open KeyedTable Machines

/-! ## Terminal writes -/

/-- The rows that a request which can end a run or its invocation leaves for the run, in front of
the commit. -/
inductive TerminalWrite (cfg : Config) (memberships : List WorkspaceMembership) :
    Op → Timestamp → RunRows → RunRows → Prop
  | cancelRun {tenant runId allowOtherCreator now rows after result}
      (written : cancelRunRows tenant allowOtherCreator now rows = .ok (after, result)) :
      TerminalWrite cfg memberships (.cancelRun tenant runId allowOtherCreator now) now rows after
  | prepare {job resolvedTenant now rows after result}
      (written : prepareClaimedRows cfg memberships job now rows = .ok (after, result)) :
      TerminalWrite cfg memberships (.prepare job resolvedTenant now) now rows after
  | complete {job result published now rows after held}
      (written : completeRows cfg memberships job result published now rows = .ok (after, held)) :
      TerminalWrite cfg memberships (.complete job result published now) now rows after
  | requeue {retryDelay job errorCategory now rows after held}
      (written : requeueRows retryDelay job errorCategory now rows = .ok (after, held)) :
      TerminalWrite cfg memberships (.requeue retryDelay job errorCategory now) now rows after
  | fail {retryDelay job errorCategory now rows after held}
      (written : failRows cfg memberships retryDelay job errorCategory now rows =
        .ok (after, held)) :
      TerminalWrite cfg memberships (.fail retryDelay job errorCategory now) now rows after
  | cancel {retryDelay job reason now rows after held}
      (written : cancelRows memberships retryDelay job reason now rows = .ok (after, held)) :
      TerminalWrite cfg memberships (.cancel retryDelay job reason now) now rows after
  | reclaim {retryDelay locked now limit rows after outcome}
      (written : reclaimRows cfg memberships retryDelay now rows = .ok (after, outcome)) :
      TerminalWrite cfg memberships (.reclaim retryDelay locked now limit) now rows after
  | prepareExecution {identity invocationId now rows after outcome}
      (written : prepareExecutionRows cfg identity invocationId now memberships rows =
        .ok (after, outcome)) :
      TerminalWrite cfg memberships (.prepareExecution identity invocationId now) now rows after
  | beginSend {identity now rows after result}
      (written : beginSendRows cfg identity now memberships rows = .ok (after, result)) :
      TerminalWrite cfg memberships (.beginSend identity now) now rows after
  | beginReconciliation {identity now rows after result}
      (written : beginReconciliationRows cfg identity cfg.actionRecoveryMaxAttempts now rows =
        .ok (after, result)) :
      TerminalWrite cfg memberships (.beginReconciliation identity now) now rows after
  | authorizeResend {identity expectedRecoveryAttempt now rows after result}
      (written : authorizeResendRows cfg identity expectedRecoveryAttempt now memberships rows =
        .ok (after, result)) :
      TerminalWrite cfg memberships (.authorizeResend identity expectedRecoveryAttempt now) now
        rows after
  | confirmSuccess {identity confirmed latencyMs now rows after result}
      (written : confirmSuccessRows cfg identity confirmed latencyMs now rows =
        .ok (after, result)) :
      TerminalWrite cfg memberships (.confirmSuccess identity confirmed latencyMs now) now rows
        after
  | confirmFailure {identity errorCategory evidence latencyMs now rows after result}
      (written : confirmFailureRows cfg identity errorCategory evidence latencyMs now rows =
        .ok (after, result)) :
      TerminalWrite cfg memberships (.confirmFailure identity errorCategory evidence latencyMs now)
        now rows after
  | confirmOutcomeUnknown {identity evidence latencyMs now rows after result}
      (written : confirmOutcomeUnknownRows cfg identity evidence latencyMs now rows =
        .ok (after, result)) :
      TerminalWrite cfg memberships (.confirmOutcomeUnknown identity evidence latencyMs now) now
        rows after

/-- The run's end is not before its creation, start and cancel request. The run and its job take
the creation time of one transaction. -/
def RunInOrder (rows : RunRows) : Prop :=
  notBefore rows.run.finishedAt (some rows.job.createdAt) = true ∧
    notBefore rows.run.finishedAt rows.run.startedAt = true ∧
      notBefore rows.run.finishedAt rows.run.cancelRequestedAt = true

/-- The invocation's end is not before its start. -/
def InvocationInOrder (startedAt finishedAt : Option Timestamp) : Prop :=
  notBefore finishedAt startedAt = true

/-- One of the times is not before `bound`. -/
def Reaches (bound : Timestamp) (times : List (Option Timestamp)) : Prop :=
  ∃ time, some time ∈ times ∧ bound ≤ time

/-- The times a request clamps the end of the run to. -/
def Op.clamps (op : Op) (now : Timestamp) (run : Run) : List (Option Timestamp) :=
  if op.cancelsRun then [some now, run.startedAt]
  else [some now, run.startedAt, run.cancelRequestedAt]

/-- Ending the run at this reading comes after its creation and its cancel request. -/
def RunPunctual (op : Op) (now : Timestamp) (rows : RunRows) : Prop :=
  Reaches rows.job.createdAt (op.clamps now rows.run) ∧
    ∀ requested, rows.run.cancelRequestedAt = some requested →
      Reaches requested (op.clamps now rows.run)

/-- Ending the invocation at this reading comes after its start. -/
def InvocationPunctual (now : Timestamp) (startedAt : Option Timestamp) : Prop :=
  ∀ started, startedAt = some started → started ≤ now

/-! ## The recorder of read-only tools -/

/-- A row of the recorder with its times. -/
structure TimedInvocationRow extends ToolInvocationRow where
  startedAt : Option Timestamp
  finishedAt : Option Timestamp

/-- The update of `_finish`, with its reading of the clock. -/
def TimedInvocationRow.finishAt (row : TimedInvocationRow) (latencyMs : Nat)
    (record : TerminalRecord) (now : Timestamp) : Option TimedInvocationRow :=
  if row.status = .prepared ∨ row.status = .executing then
    some
      { row.toToolInvocationRow.finish latencyMs record with
        startedAt := row.startedAt
        finishedAt := some now }
  else none

/-! ## Exactly when a terminal write is in order -/

theorem reaches_two {bound now : Timestamp} {startedAt : Option Timestamp} :
    Reaches bound [some now, startedAt] ↔ bound ≤ max now (startedAt.getD now) := by
  cases startedAt with
  | none => simp [Reaches]
  | some started => simp [Reaches, or_and_right, exists_or]

theorem reaches_three {bound now : Timestamp} {startedAt cancelRequestedAt : Option Timestamp} :
    Reaches bound [some now, startedAt, cancelRequestedAt] ↔
      bound ≤ max (max now (startedAt.getD now)) (cancelRequestedAt.getD now) := by
  cases startedAt with
  | none =>
    cases cancelRequestedAt with
    | none => simp [Reaches]
    | some requested => simp [Reaches, or_and_right, exists_or]
  | some started =>
    cases cancelRequestedAt with
    | none => simp [Reaches, or_and_right, exists_or]
    | some requested => simp [Reaches, or_and_right, exists_or]

/-- An end in reach of `times` is in order exactly where they reach the creation and the cancel
request. -/
theorem runInOrder_iff {ending now : Timestamp} {rows after : RunRows}
    {times : List (Option Timestamp)} (reach : ∀ bound, Reaches bound times ↔ bound ≤ ending)
    (started : ∀ start, rows.run.startedAt = some start → start ≤ ending) (current : now ≤ ending)
    (created : after.job.createdAt = rows.job.createdAt)
    (finished : after.run.finishedAt = some ending)
    (cancel : after.run.cancelRequestedAt = rows.run.cancelRequestedAt)
    (begun : after.run.startedAt = rows.run.startedAt ∨
      after.run.startedAt = some (rows.run.startedAt.getD now)) :
    RunInOrder after ↔ Reaches rows.job.createdAt times ∧
      ∀ requested, rows.run.cancelRequestedAt = some requested → Reaches requested times := by
  have startInOrder : notBefore after.run.finishedAt after.run.startedAt = true := by
    rw [finished]
    rcases begun with same | same
    · rw [same]
      cases start : rows.run.startedAt with
      | none => rfl
      | some time => simpa [notBefore] using started time start
    · rw [same]
      cases start : rows.run.startedAt with
      | none => simpa [notBefore] using current
      | some time => simpa [notBefore] using started time start
  have cancelInOrder : notBefore after.run.finishedAt after.run.cancelRequestedAt = true ↔
      ∀ requested, rows.run.cancelRequestedAt = some requested → requested ≤ ending := by
    rw [finished, cancel]
    cases rows.run.cancelRequestedAt with
    | none => simp [notBefore]
    | some time => simp [notBefore]
  have createdInOrder : notBefore after.run.finishedAt (some after.job.createdAt) = true ↔
      rows.job.createdAt ≤ ending := by
    rw [finished, created]
    simp [notBefore]
  simp only [RunInOrder, startInOrder, cancelInOrder, createdInOrder, true_and, reach]

/-- The end a request gives a run. -/
def Op.ending (op : Op) (run : Run) (now : Timestamp) : Timestamp :=
  if op.cancelsRun then cancelTime run now else terminalTime run now

theorem terminalWrite_timed {cfg : Config} {memberships : List WorkspaceMembership} {op : Op}
    {now : Timestamp} {rows after : RunRows}
    (fresh : rows.run.status = .queued → rows.run.startedAt = none)
    (writes : TerminalWrite cfg memberships op now rows after) :
    Timed (op.ending rows.run now) now rows after := by
  cases writes with
  | cancelRun written => exact cancelRunRows_timed fresh written
  | prepare written => exact prepareClaimedRows_timed written
  | complete written => exact completeRows_timed written
  | requeue written => exact requeueRows_timed written
  | fail written => exact failRows_timed written
  | cancel written => exact cancelRows_timed written
  | reclaim written => exact reclaimRows_timed written
  | prepareExecution written => exact (prepareExecutionRows_timed written).timed
  | beginSend written => exact (beginSendRows_timed written).timed
  | beginReconciliation written => exact (beginReconciliationRows_timed written).timed
  | authorizeResend written => exact (authorizeResendRows_timed written).timed
  | confirmSuccess written => exact (confirmSuccessRows_timed written).timed
  | confirmFailure written => exact (confirmFailureRows_timed written).timed
  | confirmOutcomeUnknown written => exact (confirmOutcomeUnknownRows_timed written).timed

theorem timed_runInOrder_iff {op : Op} {now : Timestamp} {rows after : RunRows}
    (timed : Timed (op.ending rows.run now) now rows after)
    (ended : after.run.status.terminal ≠ rows.run.status.terminal) :
    RunInOrder after ↔ RunPunctual op now rows := by
  obtain ⟨finished, cancel, begun⟩ := timed.run.resolve_left ended
  unfold RunPunctual Op.clamps
  unfold Op.ending at finished
  split
  next cancels =>
    rw [if_pos cancels] at finished
    refine runInOrder_iff (fun bound => reaches_two) (fun start stored => ?_)
      (Int.le_max_left _ _) timed.created finished cancel begun
    rw [stored]
    exact Int.le_max_right _ _
  next other =>
    rw [if_neg other] at finished
    refine runInOrder_iff (fun bound => reaches_three) (fun start stored => ?_)
      ((Int.le_max_left _ _).trans (Int.le_max_left _ _)) timed.created finished cancel begun
    rw [stored]
    exact (Int.le_max_right now start).trans (Int.le_max_left _ _)

theorem invocationInOrder_iff {now : Timestamp} {startedAt finishedAt : Option Timestamp}
    (finished : finishedAt = some now) :
    InvocationInOrder startedAt finishedAt ↔ InvocationPunctual now startedAt := by
  subst finished
  cases startedAt with
  | none => simp [InvocationInOrder, InvocationPunctual, notBefore]
  | some started => simp [InvocationInOrder, InvocationPunctual, notBefore]

theorem queued_unstarted {db : Db} (checks : db.checks = true) {k : UUID} {rows : RunRows}
    (stored : db.runs.get k = some rows) (queued : rows.run.status = .queued) :
    rows.run.startedAt = none := by
  have passed := (Table.all_iff _ _).mp checks k rows stored
  have fresh : rows.run.startedAt.isNone = true := by
    simp only [RunRows.checks, Run.checks, queued, Bool.and_eq_true] at passed
    obtain ⟨⟨⟨⟨⟨⟨⟨⟨⟨⟨_, queuedFields⟩, _⟩, _⟩, _⟩, _⟩, _⟩, _⟩, _⟩, _⟩, _⟩ := passed
    simp only [bne_self_eq_false, Bool.false_or, Bool.and_eq_true] at queuedFields
    exact queuedFields.1.1.1.1
  exact Option.isNone_iff_eq_none.mp fresh

/-- After any run, with any readings of any clocks: a terminal write is in order exactly where its
reading is punctual. -/
theorem terminal_write_in_order_iff (cfg : Config) :
    (∀ (ops : List Op) (op : Op) (now : Timestamp) (k : UUID) (rows after : RunRows),
      ((stores cfg).reached ops).db.runs.get k = some rows →
      TerminalWrite cfg ((stores cfg).reached ops).db.memberships op now rows after →
      (rows.run.status.terminal = false → after.run.status.terminal = true →
        (RunInOrder after ↔ RunPunctual op now rows)) ∧
      ∀ j, (rows.invocation j).any ToolInvocation.finished = false →
        (after.invocation j).any ToolInvocation.finished = true →
        ∃ invocation ended, rows.invocation j = some invocation ∧
          after.invocation j = some ended ∧
          (InvocationInOrder ended.startedAt ended.finishedAt ↔
            InvocationPunctual now invocation.startedAt)) ∧
    ∀ (row ended : TimedInvocationRow) (latencyMs : Nat) (record : TerminalRecord)
      (now : Timestamp), row.finishAt latencyMs record now = some ended →
      (InvocationInOrder ended.startedAt ended.finishedAt ↔
        InvocationPunctual now row.startedAt) := by
  refine ⟨fun ops op now k rows after stored writes => ?_, fun row ended latencyMs record now
    finished => ?_⟩
  · have timed := terminalWrite_timed
      (fun queued => queued_unstarted (reached_checks ops) stored queued) writes
    refine ⟨fun open_ closed => timed_runInOrder_iff timed (by rw [open_, closed]; decide),
      fun j open_ closed => ?_⟩
    have changed : (after.invocation j).any ToolInvocation.finished ≠
        (rows.invocation j).any ToolInvocation.finished := by
      rw [open_, closed]
      decide
    obtain ⟨invocation, ended, before, there, finished, same⟩ :=
      (timed.invocations j).resolve_left changed
    exact ⟨invocation, ended, before, there, same ▸ invocationInOrder_iff finished⟩
  · unfold TimedInvocationRow.finishAt at finished
    split at finished
    · cases finished
      exact invocationInOrder_iff rfl
    · cases finished

/-- The confirmation of the send that began at 4, on a clock that reads 3. -/
def Sample.confirmBehind : Op := .confirmSuccess Sample.identity ⟨"ref", none⟩ 0 3

/-- A confirmation on a clock behind the one of the send is out of order, and is refused. -/
theorem confirmation_behind_refused :
    (¬ ∀ (cfg : Config) (ops : List Op) (op : Op) (now : Timestamp) (k : UUID)
      (rows after : RunRows), ((stores cfg).reached ops).db.runs.get k = some rows →
      TerminalWrite cfg ((stores cfg).reached ops).db.memberships op now rows after →
      ∀ j ended, after.invocation j = some ended →
        InvocationInOrder ended.startedAt ended.finishedAt) ∧
    (serve Sample.config ((stores Sample.config).reached Sample.executing)
      Sample.confirmBehind).2 = .error (.integrity "check constraint") := by
  have rejected : (match (serve Sample.config ((stores Sample.config).reached Sample.executing)
      Sample.confirmBehind).2 with
    | .error (.integrity text) => text == "check constraint"
    | _ => false) = true := by
    decide +kernel
  have reached : (((stores Sample.config).reached Sample.executing).db.runs.get 3).any
      (fun rows => match confirmSuccessRows Sample.config Sample.identity ⟨"ref", none⟩ 0 3 rows with
        | .ok (after, _) => (after.invocation 6).any fun ended =>
          !notBefore ended.finishedAt ended.startedAt
        | .error _ => false) = true := by
    decide +kernel
  refine ⟨fun ordered => ?_, ?_⟩
  · obtain ⟨rows, stored, found⟩ := (Option.any_eq_true _ _).mp reached
    split at found
    next after result written =>
      obtain ⟨ended, there, early⟩ := (Option.any_eq_true _ _).mp found
      have inOrder := ordered Sample.config Sample.executing Sample.confirmBehind 3 3 rows after
        stored (.confirmSuccess written) 6 ended there
      rw [InvocationInOrder] at inOrder
      rw [inOrder] at early
      cases early
    · cases found
  · split at rejected
    next text answered =>
      rw [answered, beq_iff_eq.mp rejected]
    · cases rejected

/-- A worker whose clock is at 5 confirms the send that began at 4. -/
theorem confirmation_ahead_in_order :
    ∃ rows after, ((stores Sample.config).reached Sample.executing).db.runs.get 3 = some rows ∧
      confirmSuccessRows Sample.config Sample.identity ⟨"ref", none⟩ 0 5 rows = .ok (after, ()) ∧
      ∃ ended, after.invocation 6 = some ended ∧
        InvocationInOrder ended.startedAt ended.finishedAt := by
  have reached : (((stores Sample.config).reached Sample.executing).db.runs.get 3).any
      (fun rows => ((rows.invocation 6).all (fun begun => begun.startedAt == some 4) &&
        !(rows.invocation 6).any ToolInvocation.finished) &&
        match confirmSuccessRows Sample.config Sample.identity ⟨"ref", none⟩ 0 5 rows with
        | .ok (after, _) => (after.invocation 6).any ToolInvocation.finished
        | .error _ => false) = true := by
    decide +kernel
  obtain ⟨rows, stored, found⟩ := (Option.any_eq_true _ _).mp reached
  obtain ⟨before, closed⟩ := (Bool.and_eq_true _ _).mp found
  obtain ⟨begun, open_⟩ := (Bool.and_eq_true _ _).mp before
  split at closed
  next after result written =>
    obtain ⟨invocation, ended, here, there, exactly⟩ :=
      ((terminal_write_in_order_iff Sample.config).1 Sample.executing
        (.confirmSuccess Sample.identity ⟨"ref", none⟩ 0 5) 5 3 rows after stored
        (.confirmSuccess written)).2 6 (by simpa using open_) closed
    rw [here, Option.all_some, beq_iff_eq] at begun
    refine ⟨rows, after, stored, written, ended, there, exactly.mpr ?_⟩
    rw [begun]
    rintro started ⟨⟩
    decide
  · cases closed

end Pathfinder
