import Pathfinder.Lifecycle.JobEffects
import Pathfinder.Lifecycle.ExecutionEffects

/-!
# Every request is a sequence of effects

A request writes the rows of at most one run, except the two sweepers, which
write those of several. An invariant of the rows of a run therefore holds in
every reachable state once the rows of a new run have it and every effect keeps
it.
-/
namespace Pathfinder
open KeyedTable

/-! ## Moves of actions -/

section Moves
variable {cfg : Config} {memberships : List WorkspaceMembership} {op : Op} {rows : RunRows}
  {action after : ActionRows}

/-- No move rewrites the facts of the intent or of the request. -/
theorem ActionMove.facts (moved : ActionMove cfg memberships op rows action after) :
    after.intent.facts = action.intent.facts ∧
      after.request.map ApprovalRequest.facts = action.request.map ApprovalRequest.facts := by
  cases moved with
  | decide command decisionId asked named requested =>
    rw [requested]
    exact ⟨rfl, rfl⟩
  | expire requested due facts =>
    rw [requested]
    exact ⟨rfl, congrArg some facts⟩
  | withdraw requested closes facts =>
    rw [requested]
    refine ⟨facts, congrArg some ?_⟩
    rcases closes with ⟨-, rfl⟩ | ⟨-, same, -⟩
    · rfl
    · exact same
  | consume now invocationId requested =>
    rw [requested]
    exact ⟨rfl, rfl⟩
  | send | reconcile | resend | succeed => exact ⟨rfl, rfl⟩
  | settle invoked executing sent facts => exact ⟨facts, rfl⟩

/-- A stored action stays stored, and what moves keep holds of it. -/
theorem deeds_follow {P : ActionRows → Prop} {later : RunRows} {k : UUID}
    (deeds : Deeds cfg memberships op rows later)
    (moved : ∀ action after, ActionMove cfg memberships op rows action after → P action → P after)
    (found : rows.actions.get k = some action) (before : P action) :
    ∃ kept, later.actions.get k = some kept ∧ P kept := by
  cases deeds k with
  | keep same => exact ⟨action, same.trans found, before⟩
  | move here moves stored =>
    cases here.symm.trans found
    exact ⟨_, stored, moved _ _ moves before⟩
  | propose command requestId createdAt asked named absent =>
    rw [absent] at found
    cases found

/-- No step removes the rows of an action or rewrites its facts. -/
theorem deeds_keep {later : RunRows} {k : UUID} (deeds : Deeds cfg memberships op rows later)
    (found : rows.actions.get k = some action) :
    ∃ kept, later.actions.get k = some kept ∧ kept.intent.facts = action.intent.facts ∧
      kept.request.map ApprovalRequest.facts = action.request.map ApprovalRequest.facts :=
  deeds_follow deeds
    (fun _ _ moved same => ⟨moved.facts.1.trans same.1, moved.facts.2.trans same.2⟩) found
    ⟨rfl, rfl⟩

/-- A property of the rows of single actions survives the writes of a step. -/
theorem deeds_preserve {P : UUID → ActionRows → Prop} {later : RunRows}
    (deeds : Deeds cfg memberships op rows later)
    (moved : ∀ k action after, ActionMove cfg memberships op rows action after → P k action →
      P k after)
    (proposed : ∀ (command : PrepareActionCommand) requestId createdAt,
      op.proposes command requestId createdAt → rows.run.status = .running →
      rows.actions.get command.actionProposalId = none →
      P command.actionProposalId
        (proposedRows (deriveFacts cfg.digests command) requestId createdAt))
    (before : ∀ k action, rows.actions.get k = some action → P k action) :
    ∀ k action, later.actions.get k = some action → P k action := by
  intro k action stored
  cases deeds k with
  | keep same => exact before k action (same.symm.trans stored)
  | move found moves written =>
    cases written.symm.trans stored
    exact moved k _ _ moves (before k _ found)
  | propose command requestId createdAt asked named absent running sameRun unused next written =>
    subst named
    cases written.symm.trans stored
    exact proposed command requestId createdAt asked running absent

/-- A request of the run stays a request of the run. -/
theorem holdsRequest_keep {later : RunRows} {requestId : UUID}
    (effect : Effect cfg memberships op rows later) (holds : rows.holdsRequest requestId) :
    later.holdsRequest requestId := by
  obtain ⟨k, action, request, found, requested, same⟩ := holds
  obtain ⟨kept, stored, -, facts⟩ := deeds_keep effect.deeds found
  rw [requested, Option.map_some, Option.map_eq_some_iff] at facts
  obtain ⟨request', requested', facts⟩ := facts
  exact ⟨k, kept, request', stored, requested', (congrArg ApprovalRequest.id facts).trans same⟩

end Moves

/-! ## The rows of a run are sound -/

/-- What holds of the rows of a run whatever happens: the identities agree, a
lease is complete, the attempts are in range and so are the recoveries. -/
structure Sound (cfg : Config) (k : UUID) (rows : RunRows) : Prop where
  run_id : rows.run.id = k
  job_run : rows.job.runId = k
  workspace : rows.job.workspaceId = rows.run.workspaceId
  creator : rows.job.originatingActorUserId = rows.run.createdByUserId
  keyed : Keyed rows
  bounded : ∀ j action, rows.actions.get j = some action →
    action.intent.recoveryAttempts ≤ cfg.actionRecoveryMaxAttempts
  lease : LeaseFields rows.job
  attempts : 0 ≤ rows.job.attempt ∧ rows.job.attempt ≤ rows.job.maxAttempts ∧
    0 < rows.job.maxAttempts

/-- The rows `create_run` stores for a new run. -/
def createdRows (create : CreateRunRequest) (facts : CreationFacts) : RunRows :=
  (newRun create facts).pushEvent (some create.tenant.actorUserId) .runCreated
    [("mode", .str create.mode.value), ("status", .str "queued"),
      ("graph_version", .str create.graphVersion.value)]

section Soundness
variable {cfg : Config} {memberships : List WorkspaceMembership} {op : Op}
  {rows after : RunRows} {k : UUID}

theorem sound_created (create : CreateRunRequest) (facts : CreationFacts) :
    Sound cfg facts.runId (createdRows create facts) where
  run_id := rfl
  job_run := rfl
  workspace := rfl
  creator := rfl
  keyed := by
    intro j action found
    cases found
  bounded := by
    intro j action found
    cases found
  lease := ⟨nofun, fun _ => ⟨rfl, rfl, rfl⟩⟩
  attempts := by simp [createdRows, newRun, RunRows.pushEvent, defaultMaxAttempts]

theorem settled_status {job settled : RunJob} {status : JobStatus}
    (done : Settled job settled status) :
    settled.status = status ∧
      settled.resumeApprovalRequestId = job.resumeApprovalRequestId := by
  obtain ⟨availableAt, summary, rfl⟩ := done
  exact ⟨rfl, rfl⟩

/-- A job that gives its lease up has none left. -/
theorem lease_settled {job settled : RunJob} {status : JobStatus} (unleased : status ≠ .leased)
    (done : Settled job settled status) : LeaseFields settled := by
  obtain ⟨availableAt, summary, rfl⟩ := done
  exact ⟨fun leased => absurd leased unleased, fun _ => ⟨rfl, rfl, rfl⟩⟩

theorem control_lease (control : Control cfg memberships op rows after)
    (before : LeaseFields rows.job) : LeaseFields after.job := by
  cases control with
  | keep job => rwa [job]
  | extend leased expiresAt job =>
    rw [job]
    exact ⟨fun _ => ⟨(before.set leased).1, (before.set leased).2.1, rfl⟩,
      fun unleased => absurd leased unleased⟩
  | claim locked workerId now leaseDuration ownerToken asked due job =>
    rw [job]
    exact ⟨fun _ => ⟨rfl, rfl, rfl⟩, fun unleased => absurd rfl unleased⟩
  | start leased before' running uncancelled cancel job => rwa [job]
  | park claimed approvalRequestId now asked pauses waiting cancel job =>
    exact lease_settled (by decide) job
  | requeue leased left job => exact lease_settled (by decide) job
  | handBack retryDelay claimed errorCategory now asked held job =>
    exact lease_settled (by decide) job
  | finish leased job => exact lease_settled (by decide) job
  | bury leased job => exact lease_settled (by decide) job
  | closeQueued asked before' ended cancel job => exact lease_settled (by decide) job
  | closeWaiting asked before' ended cancel job => exact lease_settled (by decide) job
  | wake dormant waiting requestId stored availableAt job =>
    rw [job]
    exact ⟨nofun, fun _ => ⟨rfl, rfl, rfl⟩⟩
  | relink active waiting requestId stored job =>
    rw [job]
    exact ⟨before.set, before.unset⟩
  | flag running status cancel job => rwa [job]

/-- How an effect moves the attempt counter. -/
theorem control_attempt (control : Control cfg memberships op rows after) :
    after.job.attempt = rows.job.attempt ∨ after.job.attempt = 0 ∨
      (op.token.isSome ∧ rows.job.attempt < rows.job.maxAttempts ∧
        after.job.attempt = rows.job.attempt + 1) := by
  cases control with
  | keep job | start _ _ _ _ _ job | flag _ _ _ job => exact .inl (by rw [job])
  | extend leased expiresAt job => exact .inl (by rw [job])
  | claim locked workerId now leaseDuration ownerToken asked due job =>
    rw [job]
    by_cases left : rows.job.attempt < rows.job.maxAttempts
    · exact .inr (.inr ⟨by rw [asked]; rfl, left, by simp [leaseJob, left]⟩)
    · exact .inl (by simp [leaseJob, left])
  | park _ _ _ _ _ _ _ job | requeue _ _ job | handBack _ _ _ _ _ _ job | finish _ job
  | bury _ job | closeQueued _ _ _ _ job | closeWaiting _ _ _ _ job =>
    obtain ⟨availableAt, summary, job⟩ := job
    exact .inl (by rw [job]; rfl)
  | wake dormant waiting requestId stored availableAt job => exact .inr (.inl (by rw [job]))
  | relink active waiting requestId stored job => exact .inl (by rw [job])

theorem sound_effect (before : Sound cfg k rows)
    (effect : Effect cfg memberships op rows after) : Sound cfg k after := by
  have run_frame := effect.run_frame
  have job_frame := effect.job_frame
  simp only [Run.identity, Prod.mk.injEq] at run_frame
  simp only [RunJob.identity, Prod.mk.injEq] at job_frame
  obtain ⟨id_eq, workspace_eq, creator_eq, -⟩ := run_frame
  obtain ⟨-, job_workspace_eq, actor_eq, run_eq, max_eq, -⟩ := job_frame
  obtain ⟨nonneg, below, positive⟩ := before.attempts
  refine ⟨id_eq.trans before.run_id, run_eq.trans before.job_run, ?_, ?_, ?_, ?_,
    control_lease effect.control before.lease, ?_⟩
  · rw [job_workspace_eq, workspace_eq, before.workspace]
  · rw [actor_eq, creator_eq, before.creator]
  · refine deeds_preserve effect.deeds ?_ (fun _ _ _ _ _ _ => rfl) before.keyed
    intro j action moved move same
    exact (congrArg ActionIntent.id move.facts.1).trans same
  · refine deeds_preserve (P := fun _ action =>
      action.intent.recoveryAttempts ≤ cfg.actionRecoveryMaxAttempts) effect.deeds ?_ ?_
      before.bounded
    · intro j action moved move bound
      cases move with
      | decide | expire | consume | send | resend | succeed => exact bound
      | reconcile identity now asked named invoked executing left => exact left
      | withdraw _ _ _ recovery | settle _ _ _ _ recovery =>
        rw [recovery]
        exact bound
    · intro command requestId createdAt _ _ _
      exact Int.le_of_lt cfg.recovery_positive
  · rw [max_eq]
    rcases control_attempt effect.control with same | zero | ⟨-, left, bumped⟩ <;> omega

end Soundness

/-! ## Writes -/

/-- The request may come to the rows of run `k`: a reclaim comes to those it selects. -/
def Op.reaches (cfg : Config) (runs : Table UUID RunRows) (op : Op) (k : UUID) : Prop :=
  match op with
  | .reclaim _ locked now limit => k ∈ selectStaleJobs cfg runs locked now limit
  | _ => True

/-- One write of a request: `start` holds the runs before the request. -/
inductive Write (cfg : Config) (memberships : List WorkspaceMembership) (op : Op)
    (start : Table UUID RunRows) : Table UUID RunRows → Table UUID RunRows → Prop
  | update {runs : Table UUID RunRows} (k : UUID) {rows after : RunRows}
      (found : runs.get k = some rows)
      (origin : (start.get k = some rows ∧ op.reaches cfg start k) ∨
        ∃ locked now limit, op = .sweep locked now limit)
      (effect : Effect cfg memberships op rows after) :
      Write cfg memberships op start runs (runs.put k after)
  | create {runs : Table UUID RunRows} (create : CreateRunRequest) (facts : CreationFacts)
      (asked : op = .createRun create facts)
      (executable : cfg.executable create.graphVersion = true)
      (absent : runs.get facts.runId = none) :
      Write cfg memberships op start runs (runs.put facts.runId (createdRows create facts))

/-- The writes of one request. -/
def Writes (cfg : Config) (memberships : List WorkspaceMembership) (op : Op)
    (before after : Table UUID RunRows) : Prop :=
  Relation.ReflTransGen (Write cfg memberships op before) before after

/-- A property of the rows of single runs survives a request. -/
theorem writes_preserve {cfg : Config} {memberships : List WorkspaceMembership} {op : Op}
    {start before after : Table UUID RunRows} {P : UUID → RunRows → Prop}
    (writes : Relation.ReflTransGen (Write cfg memberships op start) before after)
    (updated : ∀ k rows later,
      ((start.get k = some rows ∧ op.reaches cfg start k) ∨
        ∃ locked now limit, op = .sweep locked now limit) →
      P k rows → Effect cfg memberships op rows later → P k later)
    (created : ∀ create facts, cfg.executable create.graphVersion = true →
      P facts.runId (createdRows create facts))
    (held : ∀ k rows, before.get k = some rows → P k rows) :
    ∀ k rows, after.get k = some rows → P k rows := by
  induction writes with
  | refl => exact held
  | tail _ write ih =>
    cases write with
    | update k found origin effect =>
      exact Table.forall_put ih (updated k _ _ origin (ih k _ found) effect)
    | create create facts asked executable absent =>
      exact Table.forall_put ih (created create facts executable)

end Pathfinder
