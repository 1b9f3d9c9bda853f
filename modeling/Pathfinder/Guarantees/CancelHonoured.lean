import Pathfinder.Guarantees.JobRunCoupling

/-!
# A requested cancellation

A worker that ends its lease looks for `cancel_requested_at` everywhere but in
`wait_for_approval`, so a cancellation is honoured in exactly the runs where no
pause finds one.
-/
namespace Pathfinder
open KeyedTable Machines

/-- A run asked to cancel has ended, or its job is still to be worked on. -/
def CancelHonoured (rows : RunRows) : Prop :=
  rows.run.cancelRequestedAt ≠ none → rows.run.status.terminal = false →
    rows.job.status = .queued ∨ rows.job.status = .leased

/-- The condition on a request that may pause the run of `rows`. -/
def PausesUncancelled (_ : List WorkspaceMembership) (op : Op) (rows : RunRows) : Prop :=
  ∀ job approvalRequestId now, op = .waitForApproval job approvalRequestId now →
    Pauses job approvalRequestId now rows → rows.run.cancelRequestedAt = none

section Honouring
variable {cfg : Config} {memberships : List WorkspaceMembership} {op : Op}
  {rows after : RunRows} {k : UUID}

/-- The job of a run that has not ended and does not wait is active. -/
theorem active_of_live (coupled : Coupled rows) (live : rows.run.status.terminal = false)
    (unwaiting : rows.run.status ≠ .waitingApproval) :
    rows.job.status = .queued ∨ rows.job.status = .leased := by
  cases status : rows.job.status with
  | queued => exact .inl rfl
  | leased => exact .inr rfl
  | done =>
    rcases coupled.done status with ended | waiting
    · rw [live] at ended
      cases ended
    · exact absurd waiting unwaiting
  | dead =>
    rw [coupled.dead status] at live
    cases live

theorem honoured_effect (coupled : Coupled rows)
    (allowed : PausesUncancelled memberships op rows)
    (effect : Effect cfg memberships op rows after) (before : CancelHonoured rows) :
    CancelHonoured after := by
  intro asked live
  have ended (is : after.run.status.terminal = true) :
      after.job.status = .queued ∨ after.job.status = .leased := by
    rw [live] at is
    cases is
  cases effect.control with
  | keep job run =>
    rw [job]
    exact before (run.2 ▸ asked) (run.1 ▸ live)
  | extend leased expiresAt job run =>
    rw [job]
    exact .inr leased
  | claim locked workerId now leaseDuration ownerToken issued due job run =>
    rw [job]
    exact .inr rfl
  | start leased status running uncancelled cancel job => exact absurd cancel asked
  | park job approvalRequestId now issued pauses waiting cancel =>
    rw [cancel, allowed job approvalRequestId now issued pauses] at asked
    exact absurd rfl asked
  | requeue leased left job run => exact .inl (settled_status job).1
  | handBack retryDelay claimed errorCategory now issued held job run =>
    exact .inl (settled_status job).1
  | finish leased job run =>
    rcases run.2 with ⟨endedBefore, same⟩ | ⟨-, -, endedNow⟩
    · exact ended (by rw [same, endedBefore])
    · exact ended endedNow
  | bury leased job run =>
    rcases run.2 with ⟨endedBefore, same⟩ | ⟨-, -, endedNow⟩
    · exact ended (by rw [same, endedBefore])
    · exact ended endedNow
  | closeQueued _ queued cancelled => exact ended (by rw [cancelled]; rfl)
  | closeWaiting _ waiting cancelled => exact ended (by rw [cancelled]; rfl)
  | wake dormant waiting requestId holds availableAt job run => exact .inl (by rw [job])
  | relink active waiting requestId holds job run =>
    rw [job]
    exact active
  | flag running status cancel job =>
    rw [job]
    refine active_of_live coupled (by rw [running]; rfl) ?_
    rw [running]
    exact nofun

/-! ## A pause always commits -/

theorem waitForApprovalRows_pauses {job : ClaimedJob} {approvalRequestId : UUID}
    {now : Timestamp} (pauses : Pauses job approvalRequestId now rows) :
    ∃ later, waitForApprovalRows job approvalRequestId now rows = .ok (later, true) ∧
      later.run = { rows.run with
        status := .waitingApproval, nextEventSeq := rows.run.nextEventSeq + 1
        nextEventSeq_pos := Nat.succ_pos _ } ∧
      later.job = { clearLease rows.job .done with errorSummary := none } ∧
      later.actions = rows.actions ∧
      ∃ event, later.events = rows.events ++ [event] ∧ 0 < event.seq := by
  obtain ⟨held, legacy, running, ⟨found, request, located, requested, fits⟩⟩ := pauses
  have bound : (rows.findRequest approvalRequestId).bind (fun found => found.2.request) =
      some request := by
    rw [located]
    exact requested
  unfold waitForApprovalRows
  simp only [held, legacy, bound, Bool.not_true, Bool.false_eq_true, if_false]
  split at fits
  next fresh =>
    simp only [fresh, fits.1, fits.2, running, ne_eq, not_true_eq_false, if_false]
    exact ⟨_, rfl, rfl, rfl, rfl, _, rfl, rows.run.nextEventSeq_pos⟩
  next resumed =>
    simp only [fits.1, fits.2.1, fits.2.2, running, ne_eq, not_true_eq_false, if_false,
      reduceCtorEq, not_false_eq_true, if_true, or_self, Bool.not_true, Bool.false_eq_true]
    exact ⟨_, rfl, rfl, rfl, rfl, _, rfl, rows.run.nextEventSeq_pos⟩

/-- The rows of a pause satisfy the constraints. -/
theorem paused_checks {later : RunRows} {event : RunEvent} (running : rows.run.status = .running)
    (legacy : rows.run.mode.legacy = true) (checked : rows.checks = true)
    (run : later.run = { rows.run with
      status := .waitingApproval, nextEventSeq := rows.run.nextEventSeq + 1
      nextEventSeq_pos := Nat.succ_pos _ })
    (job : later.job = { clearLease rows.job .done with errorSummary := none })
    (actions : later.actions = rows.actions) (events : later.events = rows.events ++ [event])
    (numbered : 0 < event.seq) : later.checks = true := by
  simp only [RunRows.checks, Bool.and_eq_true] at checked ⊢
  obtain ⟨⟨⟨runChecked, jobChecked⟩, actionsChecked⟩, eventsChecked⟩ := checked
  refine ⟨⟨⟨?_, ?_⟩, ?_⟩, ?_⟩
  · rw [run]
    simp_all [Run.checks, RunStatus.terminal, notBefore]
  · rw [job]
    simp only [RunJob.checks, Bool.and_eq_true, clearLease] at jobChecked ⊢
    simp_all
  · rw [actions]
    exact actionsChecked
  · rw [events]
    simpa [numbered] using eventsChecked

theorem checks_put {runs : Table UUID RunRows} (all : runs.all RunRows.checks = true)
    (checked : rows.checks = true) : (runs.put k rows).all RunRows.checks = true := by
  rw [Table.all_iff] at all ⊢
  exact Table.forall_put all checked

/-- A pause of a run in a reachable state succeeds. -/
theorem waitForApproval_pauses {world : World} {job : ClaimedJob} {approvalRequestId : UUID}
    {now : Timestamp} (sound : Sound cfg k rows) (stored : world.db.runs.get k = some rows)
    (checked : world.db.checks = true) (pauses : Pauses job approvalRequestId now rows) :
    ∃ later, (serve cfg world (.waitForApproval job approvalRequestId now)).1.db.runs.get k =
        some later ∧ later.run.status = .waitingApproval ∧ later.job.status = .done ∧
      later.run.cancelRequestedAt = rows.run.cancelRequestedAt := by
  obtain ⟨later, ran, run, settled, actions, event, events, numbered⟩ :=
    waitForApprovalRows_pauses pauses
  have held := pauses.held
  simp only [activeLeasePredicates, Bool.and_eq_true, beq_iff_eq] at held
  obtain rfl : k = job.runId := sound.job_run.symm.trans held.1.1.1.1.1.2
  have workspace : rows.run.workspaceId = job.workspaceId :=
    sound.workspace.symm.trans held.1.1.1.1.1.1.2
  have found : world.db.findRun job.workspaceId job.runId = some rows := by
    simp [Db.findRun, Option.filter_eq_some_iff, stored, workspace]
  have rowsChecked : rows.checks = true := (Table.all_iff _ _).mp checked _ rows stored
  have commits : (world.db.putRun job.runId later).checks = true :=
    checks_put checked (paused_checks pauses.running pauses.legacy rowsChecked run settled actions
      events numbered)
  have body : Op.body cfg (.waitForApproval job approvalRequestId now) world.db =
      .ok (world.db.putRun job.runId later, .held true) := by
    simp [Op.body, Body.answers, waitForApproval, onClaimed, transaction, onRun, found, ran,
      commits, Except.map]
  refine ⟨later, ?_, by rw [run], by rw [settled]; rfl, by rw [run]⟩
  simp [serve, Op.token, body, Db.putRun]

end Honouring

/-- The runs of a database all honour a requested cancellation. -/
def CancelsHonoured : World → Prop := AllRuns fun _ rows => CancelHonoured rows

/-- What the guarantees of this module rest on. -/
structure Standing (cfg : Config) (world : World) : Prop where
  sound : AllRuns (Sound cfg) world
  coupled : AllRuns (fun _ rows => Coupled rows) world
  checked : world.db.checks = true

theorem serve_standing {cfg : Config} {world : World} (op : Op) (before : Standing cfg world) :
    Standing cfg (serve cfg world op).1 where
  sound := serve_sound before.sound op
  coupled := serve_guarded (fun _ _ _ _ _ => trivial)
    (fun _ _ _ _ _ _ (_ : True) effect coupled => coupled_effect coupled effect)
    (fun create facts _ => coupled_created create facts) before.sound (fun _ _ _ _ => trivial)
    before.coupled
  checked := by
    rcases serve_db cfg world op with same | ⟨reply, ran, -⟩
    · exact (congrArg Db.checks same).trans before.checked
    · exact body_checks before.checked ran

theorem start_standing (cfg : Config) : Standing cfg (stores cfg).start :=
  ⟨start_runs _, start_runs _, rfl⟩

/-- One request keeps the cancellations honoured exactly if it is no pause of a
run that is asked to cancel. -/
theorem serve_cancelsHonoured {cfg : Config} {world : World} {op : Op}
    (standing : Standing cfg world) (before : CancelsHonoured world) :
    CancelsHonoured (serve cfg world op).1 ↔ Allows cfg PausesUncancelled world op := by
  constructor
  · rintro honoured k rows stored - job approvalRequestId now rfl pauses
    obtain ⟨later, there, waiting, done, cancel⟩ :=
      waitForApproval_pauses (standing.sound k rows stored) stored standing.checked pauses
    by_contra asked
    have active := honoured k later there (by rw [cancel]; exact asked) (by rw [waiting]; rfl)
    rw [done] at active
    rcases active with active | active <;> cases active
  · intro allowed
    have both := serve_guarded (P := fun _ rows => Coupled rows ∧ CancelHonoured rows)
      (fun _ _ _ _ _ _ _ _ asked => by cases asked)
      (fun _ _ _ _ _ _ allowed effect held =>
        ⟨coupled_effect held.1 effect, honoured_effect held.1 allowed effect held.2⟩)
      (fun create facts _ => ⟨coupled_created create facts, fun asked => absurd rfl asked⟩)
      standing.sound allowed
      (fun k rows stored => ⟨standing.coupled k rows stored, before k rows stored⟩)
    exact fun k rows stored => (both k rows stored).2

/-- A run of the stores honours every requested cancellation throughout exactly if
no pause in it finds a cancellation request. -/
theorem cancel_honoured_iff (cfg : Config) (ops : List Op) :
    (stores cfg).Throughout CancelsHonoured (stores cfg).start ops ↔
      (stores cfg).Guarded (Allows cfg PausesUncancelled) (stores cfg).start ops :=
  (stores cfg).throughout_iff_guarded (fun _ op standing => serve_standing op standing)
    (fun _ _ standing before => serve_cancelsHonoured standing before) (start_standing cfg)
    (start_runs _) ops

/-- The worker has proposed its action when the cancellation is requested, and
pauses for the approval: the run waits with a dormant job, its cancellation
pending. -/
theorem cancel_parked :
    ¬ (stores Sample.config).Throughout CancelsHonoured (stores Sample.config).start
      (Sample.running ++ [Sample.propose, .cancelRun Sample.member 3 false 2,
        .waitForApproval (Sample.claimed 1 1 100 none) 7 3]) := by
  intro honoured
  have reached : (((stores Sample.config).reached (Sample.running ++ [Sample.propose,
      .cancelRun Sample.member 3 false 2,
      .waitForApproval (Sample.claimed 1 1 100 none) 7 3])).db.runs.get 3).any (fun rows =>
        rows.run.status == .waitingApproval && rows.job.status == .done &&
          rows.run.cancelRequestedAt.isSome) = true := by
    decide +kernel
  obtain ⟨rows, stored, parked⟩ := (Option.any_eq_true _ _).mp reached
  simp only [Bool.and_eq_true, beq_iff_eq] at parked
  obtain ⟨⟨waiting, dormant⟩, asked⟩ := parked
  have active := (stores Sample.config).throughout_last honoured 3 rows stored
    (by rw [← Option.isSome_iff_ne_none]; exact asked) (by rw [waiting]; rfl)
  rw [dormant] at active
  rcases active with active | active <;> cases active

end Pathfinder
