import Pathfinder.Guarantees.EventLog

/-!
# The job and its run

How the status of a job and the status of its run go together in every reachable
state.
-/
namespace Pathfinder
open Machines

/-- The job of a run that has not ended is alive, or dormant while the run waits;
a dead job has failed its run. -/
structure Coupled (rows : RunRows) : Prop where
  ended : rows.run.status.terminal = true →
    rows.job.status ≠ .leased ∧ rows.job.status ≠ .queued
  done : rows.job.status = .done →
    rows.run.status.terminal = true ∨ rows.run.status = .waitingApproval
  dead : rows.job.status = .dead → rows.run.status = .failed
  resumes : rows.run.status = .waitingApproval →
    rows.job.status = .queued ∨ rows.job.status = .leased →
    ∃ requestId, rows.job.resumeApprovalRequestId = some requestId ∧ rows.holdsRequest requestId

section Coupling
variable {cfg : Config} {memberships : List WorkspaceMembership} {op : Op}
  {rows after : RunRows} {k : UUID}

theorem coupled_created (create : CreateRunRequest) (facts : CreationFacts) :
    Coupled (createdRows create facts) := by
  constructor <;> simp [createdRows, newRun, RunRows.pushEvent, RunStatus.terminal]

/-- A step that leaves the statuses and the resume identity alone. -/
theorem coupled_keep (before : Coupled rows) (effect : Effect cfg memberships op rows after)
    (status : after.run.status = rows.run.status) (job : after.job.status = rows.job.status)
    (resume : after.job.resumeApprovalRequestId = rows.job.resumeApprovalRequestId) :
    Coupled after := by
  refine ⟨?_, ?_, ?_, ?_⟩
  · rw [status, job]
    exact before.ended
  · rw [status, job]
    exact before.done
  · rw [status, job]
    exact before.dead
  · rw [status, job, resume]
    intro waiting active
    obtain ⟨requestId, same, holds⟩ := before.resumes waiting active
    exact ⟨requestId, same, holdsRequest_keep effect holds⟩

/-- A job that becomes active again or stays so, in a run of unchanged status. -/
theorem coupled_active (effect : Effect cfg memberships op rows after)
    (status : after.run.status = rows.run.status) (live : rows.run.status.terminal = false)
    (active : after.job.status = .queued ∨ after.job.status = .leased)
    (resumes : rows.run.status = .waitingApproval →
      ∃ requestId, after.job.resumeApprovalRequestId = some requestId ∧
        rows.holdsRequest requestId) : Coupled after := by
  refine ⟨?_, ?_, ?_, ?_⟩
  · rw [status, live]
    exact nofun
  · intro done
    rcases active with active | active <;> rw [active] at done <;> cases done
  · intro dead
    rcases active with active | active <;> rw [active] at dead <;> cases dead
  · rw [status]
    intro waiting _
    obtain ⟨requestId, same, holds⟩ := resumes waiting
    exact ⟨requestId, same, holdsRequest_keep effect holds⟩

/-- A job that is done with a run that has ended. -/
theorem coupled_ended (done : after.job.status = .done)
    (ended : after.run.status.terminal = true) : Coupled after := by
  refine ⟨?_, fun _ => .inl ended, ?_, ?_⟩
  · rw [done]
    exact fun _ => ⟨nofun, nofun⟩
  · rw [done]
    exact nofun
  · intro waiting
    rw [waiting] at ended
    cases ended

/-- The run of an active job has not ended. -/
theorem live_of_active (before : Coupled rows)
    (active : rows.job.status = .queued ∨ rows.job.status = .leased) :
    rows.run.status.terminal = false := by
  by_contra ended
  obtain ⟨unleased, unqueued⟩ := before.ended (by simpa using ended)
  rcases active with queued | leased
  · exact unqueued queued
  · exact unleased leased

theorem claimable_queued {now : Timestamp} (due : claimable cfg rows now = true) :
    rows.job.status = .queued := by
  simp only [claimable, Bool.and_eq_true, beq_iff_eq] at due
  exact due.1.1.1

theorem coupled_effect (before : Coupled rows) (effect : Effect cfg memberships op rows after) :
    Coupled after := by
  have requeued (leased : rows.job.status = .leased) (job : Settled rows.job after.job .queued)
      (run : SameCourse rows.run after.run) : Coupled after := by
    obtain ⟨queued, resume⟩ := settled_status job
    refine coupled_active effect run.1 (live_of_active before (.inr leased)) (.inl queued) ?_
    rw [resume]
    exact fun waiting => before.resumes waiting (.inr leased)
  cases effect.control with
  | keep job run => exact coupled_keep before effect run.1 (by rw [job]) (by rw [job])
  | extend leased expiresAt job run =>
    exact coupled_keep before effect run.1 (by rw [job]) (by rw [job])
  | claim locked workerId now leaseDuration ownerToken asked due job run =>
    have queued := claimable_queued due
    refine coupled_active effect run.1 (live_of_active before (.inl queued))
      (.inr (by rw [job]; rfl)) ?_
    rw [job]
    exact fun waiting => before.resumes waiting (.inl queued)
  | start leased status running uncancelled cancel job =>
    refine ⟨?_, ?_, ?_, ?_⟩ <;> rw [running]
    · exact nofun
    · rw [job, leased]
      exact nofun
    · rw [job, leased]
      exact nofun
    · exact nofun
  | park claimed approvalRequestId now asked pauses waiting cancel job =>
    obtain ⟨done, -⟩ := settled_status job
    refine ⟨?_, fun _ => .inr waiting, ?_, ?_⟩ <;> rw [done]
    · exact fun _ => ⟨nofun, nofun⟩
    · exact nofun
    · exact fun _ active => by rcases active with active | active <;> cases active
  | requeue leased left job run => exact requeued leased job run
  | handBack retryDelay claimed errorCategory now asked held job run =>
    exact requeued (activeLease_leased held) job run
  | finish leased job run =>
    refine coupled_ended (settled_status job).1 ?_
    rcases run.2 with ⟨ended, same⟩ | ⟨-, -, ended⟩
    · rw [same, ended]
    · exact ended
  | bury leased job run =>
    have live := live_of_active before (.inr leased)
    obtain ⟨dead, -⟩ := settled_status job
    have failed : after.run.status = .failed := by
      rcases run.2 with ⟨ended, -⟩ | ⟨-, failed, -⟩
      · rw [live] at ended
        cases ended
      · simpa using failed
    refine ⟨?_, ?_, fun _ => failed, ?_⟩ <;> rw [dead]
    · exact fun _ => ⟨nofun, nofun⟩
    · exact nofun
    · exact fun _ active => by rcases active with active | active <;> cases active
  | closeQueued asked queued ended cancel job =>
    exact coupled_ended (settled_status job).1 (by rw [ended]; rfl)
  | closeWaiting asked waiting ended cancel job closed =>
    exact coupled_ended (settled_status job).1 (by rw [ended]; rfl)
  | wake dormant waiting requestId holds availableAt job run =>
    refine coupled_active effect run.1 (by rw [waiting]; rfl) (.inl (by rw [job])) fun _ => ?_
    exact ⟨requestId, by rw [job], holds⟩
  | relink active waiting requestId holds job run =>
    refine coupled_active effect run.1 (by rw [waiting]; rfl) ?_ fun _ => ?_
    · rw [job]
      exact active
    · exact ⟨requestId, by rw [job], holds⟩
  | flag running status cancel job =>
    exact coupled_keep before effect (status.trans running.symm) (by rw [job]) (by rw [job])

theorem reached_coupled (ops : List Op) :
    AllRuns (fun _ rows => Coupled rows) ((stores cfg).reached ops) :=
  reached_rows (fun _ _ _ _ _ _ effect before => coupled_effect before effect)
    (fun create facts _ => coupled_created create facts) ops

end Coupling

/-- In every reachable state: the lease columns are set exactly while the job is
leased; the attempts are in range; an ended run has no active job; a done job's
run has ended or waits; a dead job's run has failed; and a waiting run with an
active job resumes a request of its own. -/
theorem job_run_coupling (cfg : Config) (ops : List Op) (runId : UUID) (rows : RunRows)
    (stored : ((stores cfg).reached ops).db.runs.get runId = some rows) :
    (rows.job.leasedBy.isSome = (rows.job.status = .leased : Bool) ∧
      rows.job.ownerToken.isSome = (rows.job.status = .leased : Bool) ∧
      rows.job.leaseExpiresAt.isSome = (rows.job.status = .leased : Bool)) ∧
    (0 ≤ rows.job.attempt ∧ rows.job.attempt ≤ rows.job.maxAttempts) ∧
    (rows.run.status.terminal = true → rows.job.status ≠ .leased ∧ rows.job.status ≠ .queued) ∧
    (rows.job.status = .done →
      rows.run.status.terminal = true ∨ rows.run.status = .waitingApproval) ∧
    (rows.job.status = .dead → rows.run.status = .failed) ∧
    (rows.run.status = .waitingApproval →
      rows.job.status = .queued ∨ rows.job.status = .leased →
      ∃ requestId, rows.job.resumeApprovalRequestId = some requestId ∧
        rows.holdsRequest requestId) := by
  have sound := reached_sound ops runId rows stored
  have coupled := reached_coupled ops runId rows stored
  refine ⟨?_, ⟨sound.attempts.1, sound.attempts.2.1⟩, coupled.ended, coupled.done, coupled.dead,
    coupled.resumes⟩
  by_cases leased : rows.job.status = .leased
  · obtain ⟨worker, token, expiry⟩ := sound.lease.set leased
    simp [leased, worker, token, expiry]
  · obtain ⟨worker, token, expiry⟩ := sound.lease.unset leased
    simp [leased, worker, token, expiry]

/-- After the approval the run still waits, and its queued job resumes the
request that was decided. -/
theorem job_run_coupling_approved :
    ∃ rows, ((stores Sample.config).reached (Sample.waiting ++ [Sample.approve])).db.runs.get 3 =
        some rows ∧ rows.run.status = .waitingApproval ∧ rows.job.status = .queued ∧
      ∃ requestId, rows.job.resumeApprovalRequestId = some requestId ∧
        rows.holdsRequest requestId := by
  have reached : (((stores Sample.config).reached (Sample.waiting ++ [Sample.approve])
      ).db.runs.get 3).any (fun rows =>
        rows.run.status == .waitingApproval && rows.job.status == .queued) = true := by
    decide +kernel
  obtain ⟨rows, stored, statuses⟩ := (Option.any_eq_true _ _).mp reached
  obtain ⟨waiting, queued⟩ : rows.run.status = .waitingApproval ∧ rows.job.status = .queued := by
    simpa using statuses
  have coupling := job_run_coupling Sample.config (Sample.waiting ++ [Sample.approve]) 3 rows stored
  exact ⟨rows, stored, waiting, queued, coupling.2.2.2.2.2 waiting (.inl queued)⟩

end Pathfinder
