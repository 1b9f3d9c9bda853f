import Pathfinder.Guarantees.ApprovalChain

/-!
# What a finished run leaves behind

`cancel_run` closes what a waiting run has open. The worker's own exits and the
reclaimer end a run without looking at an open request, so a finished run has
nothing to decide or to execute as long as they only end runs that have none.
-/
namespace Pathfinder
open KeyedTable Machines

/-- Nothing of this action can still be decided or executed. -/
def ActionRows.shut (action : ActionRows) : Bool :=
  !action.intent.status.waiting && !action.request.any fun request => request.status.open?

/-- Nothing of the run can. -/
def RunRows.shut (rows : RunRows) : Bool := rows.actions.all ActionRows.shut

/-- The condition on a request that may end the run of `rows`. -/
def EndsShut (cfg : Config) (memberships : List WorkspaceMembership) (op : Op) (rows : RunRows) :
    Prop :=
  Ends cfg memberships op rows → rows.shut = true

/-- A run that has ended is shut, and what leads there: actions are chained to
their requests, and a queued run has none yet. -/
structure EndedShut (rows : RunRows) : Prop where
  chained : ∀ k action, rows.actions.get k = some action → ∃ request, Chained action request
  unstarted : rows.run.status = .queued → ∀ k, rows.actions.get k = none
  ended : rows.run.status.terminal = true → rows.shut = true

section Shutting
variable {cfg : Config} {memberships : List WorkspaceMembership} {op : Op}
  {rows after : RunRows} {action later : ActionRows}

theorem shut_iff : action.shut = true ↔ action.intent.status.waiting = false ∧
    ∀ request, action.request = some request → request.status.open? = false := by
  simp [ActionRows.shut, Option.any_eq_false]

theorem settled_idle {status : ActionIntentStatus} (ended : status.unsuccessful = true) :
    status.waiting = false := by
  cases status <;> simp_all [ActionIntentStatus.unsuccessful, ActionIntentStatus.waiting]

/-- No move opens an action again. -/
theorem shut_move (moved : ActionMove cfg memberships op rows action later)
    (before : action.shut = true) : later.shut = true := by
  rw [shut_iff] at before ⊢
  obtain ⟨idle, closed⟩ := before
  cases moved with
  | decide command decisionId asked named requested pending =>
    have shut := closed _ requested
    rw [pending] at shut
    cases shut
  | expire requested due =>
    rw [closed _ requested] at due
    cases due
  | withdraw requested closes facts recovery unbegun cancelled =>
    refine ⟨by rw [cancelled]; rfl, ?_⟩
    rintro request ⟨⟩
    rcases closes with ⟨shut, rfl⟩ | ⟨-, -, expired, -⟩
    · exact shut
    · rw [expired]
      rfl
  | consume now invocationId requested approved =>
    have shut := closed _ requested
    rw [approved] at shut
    cases shut
  | send identity now asked named requested consumed invoked authorized =>
    rw [authorized] at idle
    cases idle
  | reconcile | resend => exact ⟨idle, closed⟩
  | succeed => exact ⟨rfl, closed⟩
  | settle invoked executing sent facts recovery ended =>
    exact ⟨settled_idle ended, closed⟩

/-- A shut run that proposes nothing stays shut. -/
theorem shut_deeds (deeds : Deeds cfg memberships op rows after)
    (unproposed : ∀ command requestId createdAt, op.proposes command requestId createdAt →
      rows.run.status ≠ .running)
    (before : rows.shut = true) : after.shut = true := by
  rw [RunRows.shut, Table.all_iff] at before ⊢
  exact deeds_preserve deeds (fun _ _ _ moved shut => shut_move moved shut)
    (fun command requestId createdAt asked running _ =>
      absurd running (unproposed command requestId createdAt asked)) before

/-- Only a running run proposes. -/
theorem deeds_unproposed {k : UUID} (deeds : Deeds cfg memberships op rows after)
    (idle : rows.run.status ≠ .running) (absent : rows.actions.get k = none) :
    after.actions.get k = none := by
  cases deeds k with
  | keep same => exact same.trans absent
  | move found =>
    rw [absent] at found
    cases found
  | propose command requestId createdAt asked named absent running => exact absurd running idle

theorem ends_unproposed (ends : Ends cfg memberships op rows) (command : PrepareActionCommand)
    (requestId : UUID) (createdAt : Timestamp) : ¬ op.proposes command requestId createdAt := by
  rintro (rfl | ⟨superseding, rfl, -⟩) <;> exact ends

theorem endedShut_effect (allowed : EndsShut cfg memberships op rows)
    (effect : Effect cfg memberships op rows after) (before : EndedShut rows) :
    EndedShut after := by
  have chained : ∀ k action, after.actions.get k = some action →
      ∃ request, Chained action request :=
    deeds_preserve effect.deeds (fun _ _ _ moved held => chained_move moved held)
      (fun _ requestId createdAt _ _ _ => ⟨_, chained_proposed _ requestId createdAt⟩)
      before.chained
  -- a run keeps its status, or what it was decides what the step leaves open
  have same (status : after.run.status = rows.run.status) : EndedShut after := by
    refine ⟨chained, ?_, ?_⟩ <;> rw [status]
    · intro queued k
      refine deeds_unproposed effect.deeds ?_ (before.unstarted queued k)
      rw [queued]
      exact nofun
    · intro ended
      refine shut_deeds effect.deeds (fun _ _ _ _ running => ?_) (before.ended ended)
      rw [running] at ended
      cases ended
  have started (status : after.run.status.terminal = false)
      (unqueued : after.run.status ≠ .queued) : EndedShut after := by
    refine ⟨chained, fun queued => absurd queued unqueued, fun ended => ?_⟩
    rw [status] at ended
    cases ended
  have ended (status : after.run.status.terminal = true) (shut : after.shut = true) :
      EndedShut after := by
    refine ⟨chained, fun queued => ?_, fun _ => shut⟩
    rw [queued] at status
    cases status
  have finished {targets : List RunStatus} (run : EndsAs rows.run after.run targets)
      (cause : rows.run.status.terminal = false → Ends cfg memberships op rows) :
      EndedShut after := by
    rcases run.2 with ⟨-, status⟩ | ⟨live, -, status⟩
    · exact same status
    · have ends := cause live
      exact ended status (shut_deeds effect.deeds
        (fun _ _ _ asked => absurd asked (ends_unproposed ends _ _ _)) (allowed ends))
  cases effect.control with
  | keep job run => exact same run.1
  | extend leased expiresAt job run => exact same run.1
  | claim locked workerId now leaseDuration ownerToken asked due job run => exact same run.1
  | start leased status running => exact started (by rw [running]; rfl) (by rw [running]; nofun)
  | park claimed approvalRequestId now asked pauses waiting =>
    exact started (by rw [waiting]; rfl) (by rw [waiting]; nofun)
  | requeue leased left job run => exact same run.1
  | handBack retryDelay claimed errorCategory now asked held job run => exact same run.1
  | finish leased job run actions cause => exact finished run cause
  | bury leased job run actions cause => exact finished run cause
  | closeQueued asked queued cancelled cancel job actions =>
    refine ended (by rw [cancelled]; rfl) ?_
    rw [RunRows.shut, Table.all_iff]
    intro k action found
    rw [actions, before.unstarted queued k] at found
    cases found
  | closeWaiting asked waiting cancelled cancel job closed =>
    refine ended (by rw [cancelled]; rfl) ?_
    rw [RunRows.shut, Table.all_iff]
    intro k action found
    obtain ⟨request, chain⟩ := chained k action found
    have idle := closed k action found (by rw [chain.requested]; rfl)
    refine shut_iff.mpr ⟨idle, ?_⟩
    intro asked requested
    cases chain.requested.symm.trans requested
    by_contra opened
    rw [chain.opened (by simpa using opened)] at idle
    cases idle
  | wake dormant waiting requestId holds availableAt job run => exact same run.1
  | relink active waiting requestId holds job run => exact same run.1
  | flag running status => exact started (by rw [status]; rfl) (by rw [status]; nofun)

theorem endedShut_created (create : CreateRunRequest) (facts : CreationFacts) :
    EndedShut (createdRows create facts) where
  chained := fun _ _ found => nomatch found
  unstarted := fun _ _ => rfl
  ended := nofun

end Shutting

/-- In every run of the stores in which the worker's exits and the reclaimer end
no run that still has something open, every state reached has, for each run that
is completed, failed or cancelled, no approval request pending or approved and no
intent proposed or authorized. -/
theorem terminal_runs_closed (cfg : Config) (ops : List Op)
    (guarded : (stores cfg).Guarded (Allows cfg (EndsShut cfg)) (stores cfg).start ops)
    (runId : UUID) (rows : RunRows)
    (stored : ((stores cfg).reached ops).db.runs.get runId = some rows)
    (ended : rows.run.status.terminal = true) (actionIntentId : UUID) (action : ActionRows)
    (found : rows.actions.get actionIntentId = some action) :
    action.intent.status ≠ .proposed ∧ action.intent.status ≠ .authorized ∧
      ∀ request, action.request = some request →
        request.status ≠ .pending ∧ request.status ≠ .approved := by
  have all : AllRuns (fun _ rows => EndedShut rows) ((stores cfg).reached ops) :=
    reached_guarded (fun _ _ _ _ _ ends => ends.elim)
      (fun _ _ _ _ _ _ allowed effect before => endedShut_effect allowed effect before)
      (fun create facts _ => endedShut_created create facts) ops guarded
  have shut := (all runId rows stored).ended ended
  obtain ⟨idle, closed⟩ := shut_iff.mp ((Table.all_iff _ _).mp shut actionIntentId action found)
  refine ⟨?_, ?_, fun request requested => ⟨?_, ?_⟩⟩
  · rintro status
    rw [status] at idle
    cases idle
  · rintro status
    rw [status] at idle
    cases idle
  · intro status
    have shut := closed request requested
    rw [status] at shut
    cases shut
  · intro status
    have shut := closed request requested
    rw [status] at shut
    cases shut

/-- A waiting run is cancelled: its action is cancelled with it. -/
theorem terminal_runs_closed_cancelled :
    ∃ rows action,
      ((stores Sample.config).reached
        (Sample.waiting ++ [.cancelRun Sample.member 3 false 3])).db.runs.get 3 = some rows ∧
      rows.run.status = .cancelled ∧ rows.actions.get 6 = some action ∧
      action.intent.status ≠ .proposed ∧ action.intent.status ≠ .authorized ∧
      ∀ request, action.request = some request →
        request.status ≠ .pending ∧ request.status ≠ .approved := by
  have reached : (((stores Sample.config).reached
      (Sample.waiting ++ [.cancelRun Sample.member 3 false 3])).db.runs.get 3).any (fun rows =>
        rows.run.status == .cancelled && (rows.actions.get 6).isSome) = true := by
    decide +kernel
  obtain ⟨rows, stored, cancelled⟩ := (Option.any_eq_true _ _).mp reached
  simp only [Bool.and_eq_true, beq_iff_eq, Option.isSome_iff_exists] at cancelled
  obtain ⟨cancelled, action, found⟩ := cancelled
  have unending {world : World} {op : Op}
      (never : ∀ rows, ¬ Ends Sample.config world.db.memberships op rows) :
      Allows Sample.config (EndsShut Sample.config) world op :=
    fun _ rows _ _ ends => absurd ends (never rows)
  -- only the claimed job's preparation can end the run here, and it finds no action yet
  have shut : ((stores Sample.config).reached
      [.setMemberships Sample.memberships, .setDocuments [⟨5, 1⟩], Sample.create,
        Sample.claim 1 100]).db.runs.all RunRows.shut = true := by
    decide +kernel
  have guarded : (stores Sample.config).Guarded (Allows Sample.config (EndsShut Sample.config))
      (stores Sample.config).start (Sample.waiting ++ [.cancelRun Sample.member 3 false 3]) :=
    ⟨unending fun _ => id, unending fun _ => id, unending fun _ => id, unending fun _ => id,
      fun k rows stored _ _ => (Table.all_iff _ _).mp shut k rows stored,
      unending fun _ => id, unending fun _ => id, unending fun _ => id, trivial⟩
  exact ⟨rows, action, stored, cancelled, found,
    terminal_runs_closed Sample.config _ guarded 3 rows stored (by rw [cancelled]; rfl) 6 action
      found⟩

/-- The worker proposes an action and then fails: the run has failed, and its
action can still be approved. -/
theorem failed_run_open :
    ¬ ∀ (cfg : Config) (ops : List Op) (runId : UUID) (rows : RunRows),
      ((stores cfg).reached ops).db.runs.get runId = some rows →
      rows.run.status.terminal = true → ∀ (actionIntentId : UUID) (action : ActionRows),
      rows.actions.get actionIntentId = some action →
      action.intent.status ≠ .proposed ∧ action.intent.status ≠ .authorized ∧
        ∀ request, action.request = some request →
          request.status ≠ .pending ∧ request.status ≠ .approved := by
  intro closed
  have reached : (((stores Sample.config).reached (Sample.running ++ [Sample.propose,
      .fail (fun _ => 1) (Sample.claimed 1 1 100 none) "worker_failed" 2])).db.runs.get 3).any
      (fun rows => rows.run.status == .failed && (rows.actions.get 6).any fun action =>
        action.intent.status == .proposed) = true := by
    decide +kernel
  obtain ⟨rows, stored, failed⟩ := (Option.any_eq_true _ _).mp reached
  simp only [Bool.and_eq_true, beq_iff_eq, Option.any_eq_true] at failed
  obtain ⟨failed, action, found, proposed⟩ := failed
  exact (closed Sample.config _ 3 rows stored (by rw [failed]; rfl) 6 action found).1 proposed

end Pathfinder
