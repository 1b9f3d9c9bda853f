import Pathfinder.Guarantees.JobRunCoupling
import Pathfinder.Lifecycle.Commits

/-!
# Status changes and the transition tables

The statuses of runs, jobs, approval requests and action intents change along
the tables of the domain layer, but for one change the run table leaves out:
a leased job that fails before its run has started, or while it waits, takes its
run to `failed`.
-/
namespace Pathfinder
open Machines

/-- The status stays or changes along the run table. -/
def RunConforms (before after : RunStatus) : Prop :=
  after = before ∨ before.isValidTransition after = true

def JobConforms (before after : JobStatus) : Prop :=
  after = before ∨ before.isValidTransition after = true

def ApprovalConforms (before after : ApprovalStatus) : Prop :=
  after = before ∨ after ∈ before.transitions

def IntentConforms (before after : ActionIntentStatus) : Prop :=
  after = before ∨ after ∈ before.transitions

/-- A leased job gives its lease up and fails a run that is not running. -/
def FailsIdleRun (rows after : RunRows) : Prop :=
  (rows.run.status = .queued ∨ rows.run.status = .waitingApproval) ∧
    after.run.status = .failed ∧ rows.job.status = .leased ∧
    (after.job.status = .done ∨ after.job.status = .dead)

section Conformance
variable {cfg : Config} {memberships : List WorkspaceMembership} {op : Op}
  {rows after : RunRows}

/-- A run that ends from a status that is not running is cancelled or fails. -/
theorem ends_conforms (leased : rows.job.status = .leased)
    (idle : after.job.status = .done ∨ after.job.status = .dead)
    (run : EndsAs rows.run after.run [.completed, .failed, .cancelled])
    (completes : after.run.status = .completed →
      rows.run.status = .running ∨ rows.run.status = .completed) :
    RunConforms rows.run.status after.run.status ∨ FailsIdleRun rows after := by
  rcases run.2 with ⟨-, same⟩ | ⟨live, reached, -⟩
  · exact .inl (.inl same)
  · simp only [List.mem_cons, List.not_mem_nil, or_false] at reached
    rcases reached with completed | failed | cancelled
    · rcases completes completed with running | ended
      · exact .inl (.inr (by rw [running, completed]; rfl))
      · rw [ended] at live
        cases live
    · cases status : rows.run.status with
      | queued => exact .inr ⟨.inl status, failed, leased, idle⟩
      | waitingApproval => exact .inr ⟨.inr status, failed, leased, idle⟩
      | running => exact .inl (.inr (by rw [failed]; rfl))
      | completed | failed | cancelled =>
        rw [status] at live
        cases live
    · refine .inl (.inr ?_)
      cases status : rows.run.status with
      | queued | running | waitingApproval => rw [cancelled]; rfl
      | completed | failed | cancelled =>
        rw [status] at live
        cases live

theorem control_run (control : Control cfg memberships op rows after) :
    RunConforms rows.run.status after.run.status ∨ FailsIdleRun rows after := by
  cases control with
  | keep _ run | extend _ _ _ run | claim _ _ _ _ _ _ _ _ run | requeue _ _ _ run
  | handBack _ _ _ _ _ _ _ run | wake _ _ _ _ _ _ run | relink _ _ _ _ _ run =>
    exact .inl (.inl run.1)
  | start leased before running =>
    rcases before with queued | waiting
    · exact .inl (.inr (by rw [queued, running]; rfl))
    · exact .inl (.inr (by rw [waiting, running]; rfl))
  | park claimed approvalRequestId now asked pauses waiting =>
    exact .inl (.inr (by rw [pauses.running, waiting]; rfl))
  | finish leased job run actions cause completes =>
    exact ends_conforms leased (.inl (settled_status job).1) run completes
  | bury leased job run =>
    have failed : after.run.status = .failed ∨ after.run.status = rows.run.status := by
      rcases run.2 with ⟨-, same⟩ | ⟨-, reached, -⟩
      · exact .inr same
      · exact .inl (by simpa using reached)
    rcases failed with failed | same
    · refine ends_conforms leased (.inr (settled_status job).1) ?_ ?_
      · exact ⟨run.1, run.2.imp_right fun reached => ⟨reached.1, by simp [failed], reached.2.2⟩⟩
      · rw [failed]
        exact nofun
    · exact .inl (.inl same)
  | closeQueued asked queued ended => exact .inl (.inr (by rw [queued, ended]; rfl))
  | closeWaiting asked waiting ended => exact .inl (.inr (by rw [waiting, ended]; rfl))
  | flag running status => exact .inl (.inl (status.trans running.symm))

theorem control_job (coupled : Coupled rows) (control : Control cfg memberships op rows after) :
    JobConforms rows.job.status after.job.status := by
  -- the job of a run that can still be cancelled is not dead
  have closes (live : rows.run.status ≠ .failed) (done : after.job.status = .done) :
      JobConforms rows.job.status after.job.status := by
    rw [done]
    cases status : rows.job.status with
    | queued | leased => exact .inr rfl
    | done => exact .inl rfl
    | dead => exact absurd (coupled.dead status) live
  cases control with
  | keep job | extend _ _ job | start _ _ _ _ _ job | relink _ _ _ _ job | flag _ _ _ job =>
    exact .inl (by rw [job])
  | claim locked workerId now leaseDuration ownerToken asked due job =>
    exact .inr (by rw [claimable_queued due, job]; rfl)
  | park claimed approvalRequestId now asked pauses waiting cancel job =>
    exact .inr (by rw [activeLease_leased pauses.held, (settled_status job).1]; rfl)
  | requeue leased left job => exact .inr (by rw [leased, (settled_status job).1]; rfl)
  | handBack retryDelay claimed errorCategory now asked held job =>
    exact .inr (by rw [activeLease_leased held, (settled_status job).1]; rfl)
  | finish leased job => exact .inr (by rw [leased, (settled_status job).1]; rfl)
  | bury leased job => exact .inr (by rw [leased, (settled_status job).1]; rfl)
  | closeQueued asked queued ended cancel job =>
    exact closes (by rw [queued]; nofun) (settled_status job).1
  | closeWaiting asked waiting ended cancel job =>
    exact closes (by rw [waiting]; nofun) (settled_status job).1
  | wake dormant waiting requestId stored availableAt job =>
    exact .inr (by rw [dormant, job]; rfl)

/-- An open request may expire. -/
theorem expires_conforms {status : ApprovalStatus} (due : status.open? = true) :
    ApprovalStatus.expired ∈ status.transitions := by
  cases status <;> simp_all [ApprovalStatus.open?, ApprovalStatus.transitions]

/-- How the rows of an action conform: the intent, and the request it keeps. -/
structure ActionConforms (action later : ActionRows) : Prop where
  intent : IntentConforms action.intent.status later.intent.status
  request : ∀ request, action.request = some request → ∃ kept, later.request = some kept ∧
    kept.id = request.id ∧ ApprovalConforms request.status kept.status

theorem ActionConforms.refl (action : ActionRows) : ActionConforms action action :=
  ⟨.inl rfl, fun request requested => ⟨request, requested, rfl, .inl rfl⟩⟩

theorem move_conforms {action later : ActionRows}
    (moved : ActionMove cfg memberships op rows action later) : ActionConforms action later := by
  -- a move that writes one request in the place of the other
  have rewrites {request kept : ApprovalRequest} (requested : action.request = some request)
      (written : later.request = some kept) (same : kept.id = request.id)
      (conforms : ApprovalConforms request.status kept.status) :
      ∀ asked, action.request = some asked → ∃ kept, later.request = some kept ∧
        kept.id = asked.id ∧ ApprovalConforms asked.status kept.status := by
    intro asked there
    cases requested.symm.trans there
    exact ⟨kept, written, same, conforms⟩
  cases moved with
  | decide command decisionId asked named requested pending =>
    refine ⟨.inl rfl, rewrites requested rfl rfl (.inr ?_)⟩
    rw [pending]
    cases command.decision <;> simp [Decision.target, ApprovalStatus.transitions]
  | @expire request closed requested due facts expired =>
    have same : closed.facts.id = request.facts.id := congrArg ApprovalRequest.id facts
    refine ⟨.inl rfl, rewrites requested rfl same (.inr ?_)⟩
    rw [expired]
    exact expires_conforms due
  | @withdraw request closed _ _ requested closes facts recovery unbegun cancelled =>
    constructor
    · dsimp only
      rw [cancelled]
      cases status : action.intent.status <;>
        simp_all [IntentConforms, ActionIntentStatus.begun, ActionIntentStatus.transitions]
    · rcases closes with ⟨-, rfl⟩ | ⟨due, facts, expired, -⟩
      · exact rewrites requested rfl rfl (.inl rfl)
      · have same : closed.facts.id = request.facts.id := congrArg ApprovalRequest.id facts
        refine rewrites requested rfl same (.inr ?_)
        rw [expired]
        exact expires_conforms due
  | consume now invocationId requested approved inTime proposed =>
    refine ⟨.inr ?_, rewrites requested rfl rfl (.inr ?_)⟩
    · rw [proposed]
      exact List.mem_cons_self
    · rw [approved]
      exact List.mem_cons_self
  | send identity now asked named requested consumed invoked authorized =>
    refine ⟨.inr ?_, (ActionConforms.refl action).request⟩
    rw [authorized]
    exact List.mem_cons_self
  | reconcile | resend => exact ⟨.inl rfl, (ActionConforms.refl action).request⟩
  | succeed identity result latencyMs now asked named invoked executing =>
    refine ⟨.inr ?_, (ActionConforms.refl action).request⟩
    rw [executing]
    exact List.mem_cons_self
  | settle invoked executing sent facts recovery ended =>
    refine ⟨.inr ?_, (ActionConforms.refl action).request⟩
    dsimp only
    rw [executing]
    revert ended
    generalize ActionIntent.status _ = status
    cases status <;> simp [ActionIntentStatus.unsuccessful, ActionIntentStatus.transitions]

theorem deeds_conform (deeds : Deeds cfg memberships op rows after) {k : UUID}
    {action : ActionRows} (found : rows.actions.get k = some action) :
    ∃ later, after.actions.get k = some later ∧ ActionConforms action later := by
  cases deeds k with
  | keep same => exact ⟨action, same.trans found, .refl action⟩
  | move here moves stored =>
    cases here.symm.trans found
    exact ⟨_, stored, move_conforms moves⟩
  | propose command requestId createdAt asked named absent =>
    rw [absent] at found
    cases found

theorem leftExpired_conforms {action later : ActionRows} (left : LeftExpired action later) :
    ActionConforms action later := by
  rcases left with rfl | ⟨request, requested, due, rfl⟩
  · exact .refl _
  · refine ⟨.inl rfl, fun asked there => ?_⟩
    cases requested.symm.trans there
    exact ⟨_, rfl, rfl, .inr (expires_conforms due)⟩

end Conformance

/-- Every committed change of a status is one its transition table allows, but
that a leased job may fail a run that is queued or waits for approval. -/
theorem status_changes_conform (cfg : Config) (ops : List Op) (op : Op) (runId : UUID)
    (rows later : RunRows)
    (stored : ((stores cfg).reached ops).db.runs.get runId = some rows)
    (kept : ((stores cfg).reached (ops ++ [op])).db.runs.get runId = some later) :
    (RunConforms rows.run.status later.run.status ∨ FailsIdleRun rows later) ∧
    JobConforms rows.job.status later.job.status ∧
    ∀ k action, rows.actions.get k = some action →
      ∃ moved, later.actions.get k = some moved ∧ ActionConforms action moved := by
  obtain ⟨after, there, committed⟩ := reached_commit stored op
  cases kept.symm.trans there
  cases committed with
  | same => exact ⟨.inl (.inl rfl), .inl rfl, fun _ action found => ⟨action, found, .refl action⟩⟩
  | effect unswept effect =>
    exact ⟨control_run effect.control,
      control_job (reached_coupled ops runId rows stored) effect.control,
      fun _ _ found => deeds_conform effect.deeds found⟩
  | swept asked steady =>
    refine ⟨.inl (.inl steady.status), ?_, fun k action found => ?_⟩
    · rcases steady.job with same | ⟨dormant, queued⟩
      · exact .inl same
      · exact .inr (by rw [dormant, queued]; rfl)
    · obtain ⟨moved, there, left⟩ := steady.actions k action found
      exact ⟨moved, there, leftExpired_conforms left⟩

namespace Sample

/-- The worker loses run 3 three times before it has prepared it. -/
def lost : List Op :=
  [.setMemberships memberships, .setDocuments [⟨5, 1⟩], create, claim 1 100,
    .reclaim (fun _ => 0) (fun _ => false) 20 5, claim 30 101,
    .reclaim (fun _ => 0) (fun _ => false) 50 5, claim 60 102]

/-- The last lease has expired too. -/
def bury : Op := .reclaim (fun _ => 0) (fun _ => false) 80 5

theorem lost_status :
    (((stores config).reached lost).db.runs.get 3).map (fun rows => rows.run.status) =
      some .queued := by
  decide +kernel

theorem buried_status :
    (((stores config).reached (lost ++ [bury])).db.runs.get 3).map (fun rows => rows.run.status) =
      some .failed := by
  decide +kernel

end Sample

/-- The reclaimer fails a queued run, which the run table does not allow. -/
theorem queued_run_fails :
    ∃ rows later, ((stores Sample.config).reached Sample.lost).db.runs.get 3 = some rows ∧
      ((stores Sample.config).reached (Sample.lost ++ [Sample.bury])).db.runs.get 3 =
        some later ∧
      rows.run.status = .queued ∧ later.run.status = .failed ∧
      ¬ RunConforms rows.run.status later.run.status := by
  obtain ⟨rows, stored, queued⟩ := Option.map_eq_some_iff.mp Sample.lost_status
  obtain ⟨later, kept, failed⟩ := Option.map_eq_some_iff.mp Sample.buried_status
  refine ⟨rows, later, stored, kept, queued, failed, ?_⟩
  rw [queued, failed]
  rintro (same | allowed)
  · cases same
  · cases allowed

/-- The failure of the lost run is the change the law leaves room for. -/
theorem status_changes_conform_lost :
    ∃ rows later, ((stores Sample.config).reached Sample.lost).db.runs.get 3 = some rows ∧
      ((stores Sample.config).reached (Sample.lost ++ [Sample.bury])).db.runs.get 3 =
        some later ∧ FailsIdleRun rows later ∧
      JobConforms rows.job.status later.job.status := by
  obtain ⟨rows, stored, queued⟩ := Option.map_eq_some_iff.mp Sample.lost_status
  obtain ⟨later, kept, failed⟩ := Option.map_eq_some_iff.mp Sample.buried_status
  obtain ⟨run, job, -⟩ :=
    status_changes_conform Sample.config Sample.lost Sample.bury 3 rows later stored kept
  refine ⟨rows, later, stored, kept, run.resolve_left ?_, job⟩
  rw [queued, failed]
  rintro (same | allowed)
  · cases same
  · cases allowed

end Pathfinder
