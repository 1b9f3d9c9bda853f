import Pathfinder.Guarantees.NothingActionable

/-!
# No queued job is stuck

Whoever puts a job back in the queue first sees attempts left or an action to
recover. A failure recorded without a look at the job can take that away again
while the job is in the queue, and `requeue` leaves the look to its caller.
-/
namespace Pathfinder
open KeyedTable Machines

/-- `requeue` with the lease and a valid category puts the job back in the queue. -/
def HandsBack (cfg : Config) (op : Op) (rows : RunRows) : Prop :=
  ∃ retryDelay job errorCategory now, op = .requeue retryDelay job errorCategory now ∧
    validErrorCategory cfg errorCategory = true ∧ activeLeasePredicates rows.job job now = true ∧
    ¬ (rows.run.cancelRequestedAt ≠ none ∧ rows.run.status = .running ∧
      (rows.actions.any fun action => action.intent.status == .executing) = false)

/-- The condition on a request that may come to the run of `rows`. -/
def KeepsClaimable (cfg : Config) (memberships : List WorkspaceMembership) (op : Op)
    (rows : RunRows) : Prop :=
  (RecordsFailure cfg memberships op rows → rows.job.status = .queued →
    rows.run.status.terminal = false → rows.job.attempt < rows.job.maxAttempts) ∧
  (HandsBack cfg op rows → Requeueable cfg rows)

/-- The job of a run that has not ended may wait in the queue only with attempts
left or an action to recover, and its version is supported. -/
structure Unstuck (cfg : Config) (rows : RunRows) : Prop where
  executable : cfg.executable rows.run.graphVersion = true
  left : rows.job.status = .queued → rows.run.status.terminal = false → Requeueable cfg rows

/-- The action gives the job a reason to be claimed once its attempts are spent. -/
def Recovering (cfg : Config) (action : ActionRows) : Prop :=
  (action.intent.status = .executing ∧
    action.intent.recoveryAttempts ≤ cfg.actionRecoveryMaxAttempts) ∨
  action.intent.status = .succeeded

section Queueing
variable {cfg : Config} {memberships : List WorkspaceMembership} {op : Op}
  {rows after : RunRows} {k : UUID}

theorem requeueable_iff : Requeueable cfg rows ↔ rows.job.attempt < rows.job.maxAttempts ∨
    ∃ k action, rows.actions.get k = some action ∧ Recovering cfg action := by
  unfold Requeueable Recovering
  rw [recoverable_iff, actionSucceeded_iff]
  constructor
  · rintro (left | ⟨k, action, found, executing⟩ | ⟨k, action, found, succeeded⟩)
    · exact .inl left
    · exact .inr ⟨k, action, found, .inl executing⟩
    · exact .inr ⟨k, action, found, .inr succeeded⟩
  · rintro (left | ⟨k, action, found, executing | succeeded⟩)
    · exact .inl left
    · exact .inr (.inl ⟨k, action, found, executing⟩)
    · exact .inr (.inr ⟨k, action, found, succeeded⟩)

/-- Only a recorded failure takes the reason away. -/
theorem recovering_move {action later : ActionRows} (queued : rows.job.status = .queued)
    (unfailing : ¬ RecordsFailure cfg memberships op rows)
    (moved : ActionMove cfg memberships op rows action later) (before : Recovering cfg action) :
    Recovering cfg later := by
  have impossible {status : ActionIntentStatus} (here : action.intent.status = status)
      (other : status ≠ .executing ∧ status ≠ .succeeded) : Recovering cfg later := by
    rcases before with ⟨executing, -⟩ | succeeded
    · exact absurd (here.symm.trans executing) other.1
    · exact absurd (here.symm.trans succeeded) other.2
  cases moved with
  | decide | expire | resend => exact before
  | withdraw requested closes facts recovery unbegun =>
    rcases before with ⟨executing, -⟩ | succeeded
    · rw [executing] at unbegun
      cases unbegun
    · rw [succeeded] at unbegun
      cases unbegun
  | consume now invocationId requested approved inTime proposed =>
    exact impossible proposed ⟨nofun, nofun⟩
  | send identity now asked named requested consumed invoked authorized =>
    exact impossible authorized ⟨nofun, nofun⟩
  | reconcile identity now asked named invoked executing left => exact .inl ⟨executing, left⟩
  | succeed => exact .inr rfl
  | settle _ _ _ _ _ _ _ _ _ _ cause => exact absurd (cause queued) unfailing

/-- A queued job that keeps its counters keeps its reason to be claimed. -/
theorem requeueable_keep (allowed : KeepsClaimable cfg memberships op rows)
    (effect : Effect cfg memberships op rows after) (queued : rows.job.status = .queued)
    (live : rows.run.status.terminal = false) (attempt : after.job.attempt = rows.job.attempt)
    (before : Requeueable cfg rows) : Requeueable cfg after := by
  have maxAttempts : after.job.maxAttempts = rows.job.maxAttempts := by
    have frame := effect.job_frame
    simp only [RunJob.identity, Prod.mk.injEq] at frame
    exact frame.2.2.2.2.1
  by_cases left : rows.job.attempt < rows.job.maxAttempts
  · exact .inl (by rw [attempt, maxAttempts]; exact left)
  · have unfailing : ¬ RecordsFailure cfg memberships op rows :=
      fun records => left (allowed.1 records queued live)
    rw [requeueable_iff] at before ⊢
    obtain ⟨j, action, found, recovering⟩ := before.resolve_left left
    obtain ⟨later, stored, recovering⟩ := deeds_follow effect.deeds
      (fun _ _ moved held => recovering_move queued unfailing moved held) found recovering
    exact .inr ⟨j, later, stored, recovering⟩

theorem requeueable_of_same (actions : after.actions = rows.actions)
    (job : Settled rows.job after.job .queued) (before : Requeueable cfg rows) :
    Requeueable cfg after := by
  obtain ⟨availableAt, summary, job⟩ := job
  rw [requeueable_iff] at before ⊢
  rw [actions, job]
  exact before

theorem unstuck_effect (sound : Sound cfg k rows)
    (allowed : KeepsClaimable cfg memberships op rows)
    (effect : Effect cfg memberships op rows after) (before : Unstuck cfg rows) :
    Unstuck cfg after := by
  have version : after.run.graphVersion = rows.run.graphVersion := by
    have frame := effect.run_frame
    simp only [Run.identity, Prod.mk.injEq] at frame
    exact frame.2.2.2.2.2.2.2.2.2
  refine ⟨by rw [version]; exact before.executable, fun queued live => ?_⟩
  have unqueued (status : JobStatus) (other : status ≠ .queued)
      (here : after.job.status = status) : Requeueable cfg after :=
    absurd (here.symm.trans queued) other
  have kept (status : after.job.status = rows.job.status)
      (attempt : after.job.attempt = rows.job.attempt)
      (alive : rows.run.status.terminal = false) : Requeueable cfg after := by
    rw [status] at queued
    exact requeueable_keep allowed effect queued alive attempt (before.left queued alive)
  cases effect.control with
  | keep job run => exact kept (by rw [job]) (by rw [job]) (run.1 ▸ live)
  | extend leased expiresAt job => exact unqueued .leased (by decide) (by rw [job]; exact leased)
  | claim locked workerId now leaseDuration ownerToken asked due job =>
    exact unqueued .leased (by decide) (by rw [job]; rfl)
  | start leased status running uncancelled cancel job =>
    exact unqueued .leased (by decide) (by rw [job]; exact leased)
  | park claimed approvalRequestId now asked pauses waiting cancel job =>
    exact unqueued .done (by decide) (settled_status job).1
  | requeue leased left job run actions => exact requeueable_of_same actions job left
  | handBack retryDelay claimed errorCategory now asked held job run actions remains valid =>
    exact requeueable_of_same actions job
      (allowed.2 ⟨retryDelay, claimed, errorCategory, now, asked, valid, held, remains⟩)
  | finish leased job => exact unqueued .done (by decide) (settled_status job).1
  | bury leased job => exact unqueued .dead (by decide) (settled_status job).1
  | closeQueued _ _ _ _ job => exact unqueued .done (by decide) (settled_status job).1
  | closeWaiting _ _ _ _ job => exact unqueued .done (by decide) (settled_status job).1
  | wake dormant waiting requestId holds availableAt job =>
    left
    rw [job]
    exact sound.attempts.2.2
  | relink active waiting requestId holds job run =>
    exact kept (by rw [job]) (by rw [job]) (run.1 ▸ live)
  | flag running status cancel job =>
    exact kept (by rw [job]) (by rw [job]) (by rw [running]; rfl)

theorem unstuck_created {create : CreateRunRequest} (facts : CreationFacts)
    (executable : cfg.executable create.graphVersion = true) :
    Unstuck cfg (createdRows create facts) where
  executable := executable
  left := fun _ _ => .inl (by simp [createdRows, newRun, RunRows.pushEvent, defaultMaxAttempts])

/-- What keeps a job in the queue is what `claim_due_job` looks for. -/
theorem claimable_of_requeueable {now : Timestamp} (sound : Sound cfg k rows)
    (queued : rows.job.status = .queued) (due : rows.job.availableAt ≤ now)
    (executable : cfg.executable rows.run.graphVersion = true) (left : Requeueable cfg rows) :
    claimable cfg rows now = true := by
  have positive := cfg.recovery_positive
  obtain ⟨nonneg, below, -⟩ := sound.attempts
  have spare : rows.job.attempt < rows.job.maxAttempts + cfg.actionRecoveryMaxAttempts := by
    omega
  rcases left with left | recovers | succeeded <;> simp [claimable, *]

end Queueing

/-- In every run of the stores in which no failure is recorded while the job of
the run waits in the queue without attempts left, and no job is handed back with
neither attempts left nor an action to recover, every state reached has each
queued job of a run that has not ended claimable from its due time on. -/
theorem no_stuck_job (cfg : Config) (ops : List Op)
    (guarded : (stores cfg).Guarded (Allows cfg (KeepsClaimable cfg)) (stores cfg).start ops)
    (runId : UUID) (rows : RunRows)
    (stored : ((stores cfg).reached ops).db.runs.get runId = some rows)
    (queued : rows.job.status = .queued) (live : rows.run.status.terminal = false)
    (now : Timestamp) (due : rows.job.availableAt ≤ now) : claimable cfg rows now = true := by
  have all : AllRuns (fun _ rows => Unstuck cfg rows) ((stores cfg).reached ops) :=
    reached_guarded
      (fun _ _ _ _ _ => ⟨fun records => records.elim, fun ⟨_, _, _, _, asked, _⟩ => nomatch asked⟩)
      (fun _ _ _ _ _ sound allowed effect before => unstuck_effect sound allowed effect before)
      (fun _ facts executable => unstuck_created facts executable) ops guarded
  have unstuck := all runId rows stored
  exact claimable_of_requeueable (reached_sound ops runId rows stored) queued due
    unstuck.executable (unstuck.left queued live)

namespace Sample

/-- Two more workers crash after the send, and the attempts are spent. -/
def exhausted : List Op :=
  executing ++ [.reclaim (fun _ => 0) (fun _ => false) 20 1, claim 20 102,
    .reclaim (fun _ => 0) (fun _ => false) 40 1, claim 40 103,
    .reclaim (fun _ => 0) (fun _ => false) 60 1]

end Sample

/-- After three crashes the action is still executing, so the job can be claimed. -/
theorem no_stuck_job_exhausted :
    ∃ rows, ((stores Sample.config).reached Sample.exhausted).db.runs.get 3 = some rows ∧
      rows.job.attempt = rows.job.maxAttempts ∧ claimable Sample.config rows 60 = true := by
  have reached : (((stores Sample.config).reached Sample.exhausted).db.runs.get 3).any (fun rows =>
      rows.job.status == .queued && rows.run.status == .running &&
        decide (rows.job.availableAt ≤ 60) && rows.job.attempt == rows.job.maxAttempts) = true := by
    decide +kernel
  obtain ⟨rows, stored, spent⟩ := (Option.any_eq_true _ _).mp reached
  simp only [Bool.and_eq_true, beq_iff_eq, decide_eq_true_eq] at spent
  obtain ⟨⟨⟨queued, running⟩, due⟩, spent⟩ := spent
  have harmless {world : World} {op : Op}
      (never : ∀ rows, ¬ RecordsFailure Sample.config world.db.memberships op rows)
      (other : ∀ retryDelay job errorCategory now,
        op ≠ .requeue retryDelay job errorCategory now) :
      Allows Sample.config (KeepsClaimable Sample.config) world op :=
    fun _ rows _ _ => ⟨fun records => absurd records (never rows),
      fun ⟨_, _, _, _, asked, _⟩ => absurd asked (other _ _ _ _)⟩
  have guarded : (stores Sample.config).Guarded (Allows Sample.config (KeepsClaimable Sample.config))
      (stores Sample.config).start Sample.exhausted := by
    refine ⟨?_, ?_, ?_, ?_, ?_, ?_, ?_, ?_, ?_, ?_, ?_, ?_, ?_, ?_, ?_, ?_, ?_, trivial⟩ <;>
      exact harmless (fun _ => id) nofun
  exact ⟨rows, stored, spent, no_stuck_job Sample.config _ guarded 3 rows stored queued
    (by rw [running]; rfl) 60 due⟩

/-- The attempts are spent and the job waits in the queue for the recovery of its
action when a worker that lost its lease records the failure of that action: no
claim will ever take the job again. -/
theorem job_stuck :
    ¬ ∀ (cfg : Config) (ops : List Op) (runId : UUID) (rows : RunRows),
      ((stores cfg).reached ops).db.runs.get runId = some rows →
      rows.job.status = .queued → rows.run.status.terminal = false →
      ∀ now, rows.job.availableAt ≤ now → claimable cfg rows now = true := by
  intro unstuck
  have reached : (((stores Sample.config).reached (Sample.exhausted ++
      [.confirmFailure Sample.identity "external_rejected_no_effect" [] 0 61])).db.runs.get 3).any
      (fun rows => rows.job.status == .queued && rows.run.status == .running &&
        decide (rows.job.availableAt ≤ 61) && !claimable Sample.config rows 61) = true := by
    decide +kernel
  obtain ⟨rows, stored, stuck⟩ := (Option.any_eq_true _ _).mp reached
  simp only [Bool.and_eq_true, beq_iff_eq, decide_eq_true_eq, Bool.not_eq_true'] at stuck
  obtain ⟨⟨⟨queued, running⟩, due⟩, stuck⟩ := stuck
  have claims := unstuck Sample.config _ 3 rows stored queued (by rw [running]; rfl) 61 due
  rw [stuck] at claims
  cases claims

end Pathfinder
