import Pathfinder.Lifecycle.Effects

/-!
# The worker's operations as effects

Each operation of the job store, on the rows of the run it works on, is one
effect. The helpers that end a run come first.
-/
namespace Pathfinder
open KeyedTable

/-! ## Holding a lease -/

theorem activeLease_leased {row : RunJob} {job : ClaimedJob} {now : Timestamp}
    (held : activeLeasePredicates row job now = true) : row.status = .leased := by
  simp only [activeLeasePredicates, Bool.and_eq_true, beq_iff_eq] at held
  exact held.1.1.1.2

theorem activeLease_token {row : RunJob} {job : ClaimedJob} {now : Timestamp}
    (held : activeLeasePredicates row job now = true) : row.ownerToken = some job.ownerToken := by
  simp only [activeLeasePredicates, Bool.and_eq_true, beq_iff_eq] at held
  exact held.1.1.2

theorem consumeLease_some {rows after : RunRows} {job : ClaimedJob} {now : Timestamp}
    {status : JobStatus} {summary : Option String} {availableAt : Option Timestamp}
    (consumed : consumeLease rows job now status summary availableAt = some after) :
    activeLeasePredicates rows.job job now = true ∧
      after = { rows with job := { clearLease rows.job status with
        errorSummary := summary, availableAt := availableAt.getD rows.job.availableAt } } := by
  unfold consumeLease at consumed
  split at consumed
  next held =>
    cases consumed
    exact ⟨held, rfl⟩
  · cases consumed

/-! ## Ending a run -/

/-- What the helpers that end a run do: the run reaches one of the targets with
its terminal event, or had ended before; of the job only the summary changes. -/
structure RunEnded (rows after : RunRows) (targets : List RunStatus) : Prop where
  run_frame : after.run.identity = rows.run.identity
  job : ∃ summary, after.job = { rows.job with errorSummary := summary }
  actions : after.actions = rows.actions
  ends : EndsAs rows.run after.run targets
  logged : Logged rows after
  unproposed : Unproposed rows after

theorem RunEnded.mono {rows after : RunRows} {targets others : List RunStatus}
    (ended : RunEnded rows after targets) (included : targets ⊆ others) :
    RunEnded rows after others :=
  { ended with
    ends := ⟨ended.ends.1, ended.ends.2.imp_right
      fun reached => ⟨reached.1, included reached.2.1, reached.2.2⟩⟩ }

/-- A run that has ended stays as it is. -/
theorem runEnded_self {rows : RunRows} (ended : rows.run.status.terminal = true)
    (targets : List RunStatus) : RunEnded rows rows targets where
  run_frame := rfl
  job := ⟨rows.job.errorSummary, rfl⟩
  actions := rfl
  ends := ⟨rfl, .inl ⟨ended, rfl⟩⟩
  logged := ⟨[], .none _, by simp [announced]⟩
  unproposed := .refl rows

/-- A run that has not ended reaches `target` and announces it. -/
theorem runEnded_push {rows moved : RunRows} (target : RunStatus) {event : RunEventType}
    (live : rows.run.status.terminal = false) (frame : moved.run.identity = rows.run.identity)
    (job : moved.job = rows.job) (actions : moved.actions = rows.actions)
    (log : moved.log = rows.log)
    (cancel : moved.run.cancelRequestedAt = rows.run.cancelRequestedAt)
    (status : moved.run.status = target) (announces : target.terminalEvent = some event)
    (actorUserId : Option UUID) (payload : Payload) :
    RunEnded rows (moved.pushEvent actorUserId event payload) [target] := by
  have ended : target.terminal = true := by
    cases target <;> simp_all [RunStatus.terminalEvent, RunStatus.terminal]
  have type_terminal : event.terminal = true := by
    cases target <;> simp [RunStatus.terminalEvent] at announces <;> subst announces <;> rfl
  have changed : target ≠ rows.run.status := by
    intro same
    rw [← same, ended] at live
    cases live
  have appended : Appends rows.log (moved.pushEvent actorUserId event payload).log [event] :=
    (Appends.none _).push log actorUserId event payload
  have silent : RunEventType.actionProposed ∉ [event] := by
    simp only [List.mem_singleton]
    rintro rfl
    cases type_terminal
  refine ⟨frame, ⟨rows.job.errorSummary, ?_⟩, actions, ⟨cancel, .inr ⟨live, ?_, ?_⟩⟩, ?_,
    appended.unproposed silent⟩
  · exact job.trans (by rfl)
  · simp [RunRows.pushEvent, status]
  · simpa [RunRows.pushEvent, status] using ended
  · refine ⟨[event], appended, ?_⟩
    simp [RunRows.pushEvent, status, announced, changed, announces, type_terminal]

theorem markRunCancelled_ended (rows : RunRows) (reason : String) (now : Timestamp) :
    RunEnded rows (markRunCancelled rows reason now) [.cancelled] := by
  unfold markRunCancelled
  split
  next ended => exact runEnded_self ended _
  next live =>
    refine runEnded_push .cancelled (by simpa using live) ?_ ?_ ?_ ?_ ?_ ?_ rfl none _ <;> rfl

theorem markRunFailed_ended (rows : RunRows) (errorCategory : String) (now : Timestamp) :
    RunEnded rows (markRunFailed rows errorCategory now) [.failed] := by
  unfold markRunFailed
  split
  next ended => exact runEnded_self ended _
  next live =>
    refine runEnded_push .failed (by simpa using live) ?_ ?_ ?_ ?_ ?_ ?_ rfl none _ <;> rfl

theorem markRunCompleted_ended {rows : RunRows} (dump : String) (now : Timestamp)
    (live : rows.run.status.terminal = false) :
    RunEnded rows (markRunCompleted rows dump now) [.completed] := by
  refine runEnded_push .completed live ?_ ?_ ?_ ?_ ?_ ?_ rfl none _ <;> rfl

/-- Setting the summary first changes nothing that matters here. -/
theorem runEnded_withSummary {rows after : RunRows} {summary : Option String}
    {targets : List RunStatus} (ended : RunEnded (rows.withSummary summary) after targets) :
    RunEnded rows after targets := by
  obtain ⟨text, job⟩ := ended.job
  exact ⟨ended.run_frame, ⟨text, job⟩, ended.actions, ended.ends, ended.logged, ended.unproposed⟩

theorem convergeTerminalAction_ended {memberships : List WorkspaceMembership}
    {rows after : RunRows} {action : ActionRows} {now : Timestamp}
    (converged : convergeTerminalAction memberships rows action now = .ok after) :
    RunEnded rows after [.failed, .cancelled] := by
  have failed (summary category : String) :
      RunEnded rows (markRunFailed (rows.withSummary (some summary)) category now)
        [.failed, .cancelled] :=
    (runEnded_withSummary (markRunFailed_ended _ _ _)).mono (by simp)
  have cancelled (reason : String) :
      RunEnded rows (markRunCancelled (rows.withSummary none) reason now)
        [.failed, .cancelled] :=
    (runEnded_withSummary (markRunCancelled_ended _ _ _)).mono (by simp)
  unfold convergeTerminalAction at converged
  split at converged
  · cases converged
  split at converged
  · cases converged
  split at converged
  · cases converged
    exact failed _ _
  · split at converged
    · cases converged
    dsimp only at converged
    split at converged
    · cases converged
      exact cancelled _
    · split at converged
      · cases converged
        exact cancelled _
      · cases converged
        exact failed _ _

/-! ## From rows to effects -/

section Build
variable {cfg : Config} {memberships : List WorkspaceMembership} {op : Op}
  {rows middle after : RunRows}

/-- The rows on the way to an effect: nothing but the lease, the log and the
actions has changed, and the log has no terminal event yet. -/
structure Underway (cfg : Config) (memberships : List WorkspaceMembership) (op : Op)
    (rows middle : RunRows) (status : JobStatus) : Prop where
  run_frame : middle.run.identity = rows.run.identity
  course : SameCourse rows.run middle.run
  job : Settled rows.job middle.job status
  deeds : Deeds cfg memberships op rows middle
  settles : SettlesOnly rows.actions middle.actions
  logged : ∃ types, Appends rows.log middle.log types ∧ Quiet types

theorem settled_identity {job settled : RunJob} {status : JobStatus}
    (done : Settled job settled status) : settled.identity = job.identity := by
  obtain ⟨availableAt, summary, rfl⟩ := done
  rfl

theorem settled_summary {job settled after : RunJob} {status : JobStatus}
    (done : Settled job settled status)
    (changed : ∃ summary, after = { settled with errorSummary := summary }) :
    Settled job after status := by
  obtain ⟨availableAt, first, rfl⟩ := done
  obtain ⟨second, rfl⟩ := changed
  exact ⟨availableAt, second, rfl⟩

theorem announced_self (status : RunStatus) : announced status status = [] := if_pos rfl

theorem appends_trans {first second third : List RunEvent × Nat}
    {types others : List RunEventType} (before : Appends first second types)
    (next : Appends second third others) : Appends first third (types ++ others) := by
  obtain ⟨added, rfl, numbered, rfl⟩ := before
  obtain ⟨more, rfl, counted, rfl⟩ := next
  refine ⟨added ++ more, ?_, Journals.numberedFrom_append numbered counted, by simp⟩
  simp [Nat.add_assoc]

/-- The actions stay as the moves of a step have left them. -/
theorem deeds_after (deeds : Deeds cfg memberships op rows middle)
    (actions : after.actions = middle.actions) (silent : Unproposed middle after) :
    Deeds cfg memberships op rows after := by
  intro k
  have proposals := silent k
  cases deeds k with
  | keep same quiet => exact .keep (by rw [actions, same]) (proposals.trans quiet)
  | move found moves stored quiet =>
    exact .move found moves (by rw [actions, stored]) (proposals.trans quiet)
  | propose command requestId createdAt asked named absent running sameRun unused next stored
      announced =>
    refine .propose command requestId createdAt asked named absent running sameRun unused ?_
      (by rw [actions, stored]) (by rw [proposals, announced])
    unfold Succeeds
    rwa [actions]

theorem Underway.ended {status : JobStatus} {targets : List RunStatus}
    (underway : Underway cfg memberships op rows middle status)
    (ended : RunEnded middle after targets) :
    after.run.identity = rows.run.identity ∧ Settled rows.job after.job status ∧
      Deeds cfg memberships op rows after ∧ SettlesOnly rows.actions after.actions ∧
      EndsAs rows.run after.run targets ∧ Logged rows after := by
  obtain ⟨types, appended, quiet⟩ := underway.logged
  obtain ⟨others, appended', announces⟩ := ended.logged
  obtain ⟨status_eq, cancel_eq⟩ := underway.course
  refine ⟨ended.run_frame.trans underway.run_frame, settled_summary underway.job ended.job,
    deeds_after underway.deeds ended.actions ended.unproposed, ended.actions ▸ underway.settles,
    ⟨ended.ends.1.trans cancel_eq, ?_⟩, types ++ others, appends_trans appended appended', ?_⟩
  · rw [← status_eq]
    exact ended.ends.2
  · rw [List.filter_append, quiet.terminal, announces, status_eq, List.nil_append]

/-- The job is done and its run ends. -/
theorem finish_effect {targets : List RunStatus} (leased : rows.job.status = .leased)
    (underway : Underway cfg memberships op rows middle .done)
    (ended : RunEnded middle after targets) (included : targets ⊆ [.failed, .cancelled])
    (cause : rows.run.status.terminal = false → Ends cfg memberships op rows) :
    Effect cfg memberships op rows after := by
  obtain ⟨frame, job, deeds, settles, ends, logged⟩ := underway.ended (ended.mono included)
  have completes (completed : after.run.status = .completed) :
      rows.run.status = .running ∨ rows.run.status = .completed := by
    rcases ends.2 with ⟨-, same⟩ | ⟨-, reached, -⟩
    · exact .inr (same ▸ completed)
    · rw [completed] at reached
      simp at reached
  have widened : EndsAs rows.run after.run [.completed, .failed, .cancelled] :=
    ⟨ends.1, ends.2.imp_right fun reached =>
      ⟨reached.1, List.mem_cons_of_mem _ reached.2.1, reached.2.2⟩⟩
  exact ⟨frame, settled_identity job, .finish leased job widened settles cause completes, deeds,
    logged⟩

/-- The job is done and its running run completes. -/
theorem complete_effect (leased : rows.job.status = .leased)
    (underway : Underway cfg memberships op rows middle .done)
    (ended : RunEnded middle after [.completed]) (running : rows.run.status = .running)
    (cause : rows.run.status.terminal = false → Ends cfg memberships op rows) :
    Effect cfg memberships op rows after := by
  obtain ⟨frame, job, deeds, settles, ends, logged⟩ := underway.ended ended
  have widened : EndsAs rows.run after.run [.completed, .failed, .cancelled] :=
    ⟨ends.1, ends.2.imp_right fun reached =>
      ⟨reached.1, by simp [List.mem_singleton.mp reached.2.1], reached.2.2⟩⟩
  exact ⟨frame, settled_identity job,
    .finish leased job widened settles cause fun _ => .inl running, deeds, logged⟩

/-- The job is dead and its run fails. -/
theorem bury_effect (leased : rows.job.status = .leased)
    (underway : Underway cfg memberships op rows middle .dead)
    (ended : RunEnded middle after [.failed])
    (cause : rows.run.status.terminal = false → Ends cfg memberships op rows) :
    Effect cfg memberships op rows after := by
  obtain ⟨frame, job, deeds, settles, ends, logged⟩ := underway.ended ended
  exact ⟨frame, settled_identity job, .bury leased job ends settles cause, deeds, logged⟩

/-- Nothing but the log changes. -/
theorem keep_effect (frame : after.run.identity = rows.run.identity)
    (course : SameCourse rows.run after.run) (job : after.job = rows.job)
    (actions : after.actions = rows.actions)
    (logged : ∃ types, Appends rows.log after.log types ∧ Quiet types) :
    Effect cfg memberships op rows after := by
  obtain ⟨types, appended, quiet⟩ := logged
  refine ⟨frame, by rw [job], .keep job course,
    deeds_idle actions (appended.unproposed quiet.unproposed), types, appended, ?_⟩
  rw [quiet.terminal, course.1, announced_self]

theorem idle_effect (rows : RunRows) : Effect cfg memberships op rows rows :=
  keep_effect rfl ⟨rfl, rfl⟩ rfl rfl ⟨[], .none _, rfl⟩

/-- The log is as it was. -/
theorem unlogged (same : after.log = rows.log) (status : after.run.status = rows.run.status) :
    Logged rows after :=
  ⟨[], same ▸ .none _, by rw [status, announced_self]; rfl⟩

/-- A lease given up by an update that leaves the actions alone. -/
theorem underway_quiet {status : JobStatus} (frame : middle.run.identity = rows.run.identity)
    (course : SameCourse rows.run middle.run) (job : Settled rows.job middle.job status)
    (actions : middle.actions = rows.actions)
    (logged : ∃ types, Appends rows.log middle.log types ∧ Quiet types) :
    Underway cfg memberships op rows middle status := by
  obtain ⟨types, appended, quiet⟩ := logged
  exact ⟨frame, course, job, deeds_idle actions (appended.unproposed quiet.unproposed),
    fun k => .inl (by rw [actions]), types, appended, quiet⟩

/-- A lease given up by an update of the job row alone. -/
theorem underway_of_job {job : RunJob} {status : JobStatus}
    (settled : Settled rows.job job status) :
    Underway cfg memberships op rows { rows with job := job } status :=
  underway_quiet rfl ⟨rfl, rfl⟩ settled rfl ⟨[], .none _, rfl⟩

end Build

/-! ## Claiming and extending -/

section Operations
variable {cfg : Config} {memberships : List WorkspaceMembership} {op : Op}
  {rows after : RunRows} {job : ClaimedJob} {now : Timestamp}

theorem leaseJob_effect {locked : UUID → Bool} {workerId : String} {leaseDuration : Timedelta}
    {ownerToken : UUID} (asked : op = .claim locked workerId now leaseDuration ownerToken)
    (due : claimable cfg rows now = true) :
    Effect cfg memberships op rows
      { rows with job := leaseJob rows.job workerId ownerToken (now + leaseDuration) } :=
  ⟨rfl, rfl, .claim _ _ _ _ _ asked due rfl ⟨rfl, rfl⟩, deeds_idle rfl (fun _ => rfl),
    unlogged rfl rfl⟩

theorem heartbeatRows_effect {leaseDuration : Timedelta} {held : Bool}
    (ran : heartbeatRows job now leaseDuration rows = .ok (after, held)) :
    Effect cfg memberships op rows after := by
  unfold heartbeatRows at ran
  split at ran
  next lease =>
    cases ran
    exact ⟨rfl, rfl, .extend (activeLease_leased lease) _ rfl ⟨rfl, rfl⟩,
      deeds_idle rfl (fun _ => rfl), unlogged rfl rfl⟩
  · cases ran
    exact idle_effect rows

/-! ## Preparing -/

theorem startRun_effect {role : WorkspaceRole} {result : PrepareClaimResult}
    (leased : rows.job.status = .leased) (uncancelled : rows.run.cancelRequestedAt = none)
    (ran : startRun cfg role job now rows = .ok (after, result)) :
    Effect cfg memberships op rows after := by
  have started {moved : RunRows} (payload : Payload)
      (before : rows.run.status = .queued ∨ rows.run.status = .waitingApproval)
      (frame : moved.run.identity = rows.run.identity) (status : moved.run.status = .running)
      (cancel : moved.run.cancelRequestedAt = rows.run.cancelRequestedAt)
      (same : moved.job = rows.job) (actions : moved.actions = rows.actions)
      (log : moved.log = rows.log) :
      Effect cfg memberships op rows (appendEvent moved .runStatusChanged payload) := by
    have identity : moved.job.identity = rows.job.identity := by rw [same]
    have control : Control cfg memberships op rows (appendEvent moved .runStatusChanged payload) :=
      .start leased before status uncancelled (cancel.trans uncancelled) same
    have appended : Appends rows.log (appendEvent moved .runStatusChanged payload).log
        [.runStatusChanged] := (Appends.none _).push log none .runStatusChanged payload
    refine ⟨frame, identity, control, deeds_idle actions (appended.unproposed (by decide)),
      [.runStatusChanged], appended, ?_⟩
    rcases before with queued | waiting
    · simp [appendEvent, RunRows.pushEvent, status, queued, announced, RunEventType.terminal,
        RunStatus.terminalEvent]
    · simp [appendEvent, RunRows.pushEvent, status, waiting, announced, RunEventType.terminal,
        RunStatus.terminalEvent]
  unfold startRun at ran
  dsimp only at ran
  split at ran
  · cases ran
  split at ran
  next waiting =>
    split at ran
    · cases ran
    split at ran
    · cases ran
    cases ran
    exact started _ (.inr waiting) rfl rfl rfl rfl rfl rfl
  next queued =>
    split at ran
    · cases ran
    cases ran
    exact started _ (.inl queued) rfl rfl rfl rfl rfl rfl
  · split at ran
    · cases ran
      exact idle_effect _
    · split at ran
      · cases ran
      · cases ran
        exact idle_effect _
  all_goals cases ran

/-- No cause is needed for a run that has ended. -/
theorem uncaused (ended : rows.run.status.terminal = true) :
    rows.run.status.terminal = false → Ends cfg memberships op rows := by
  intro live
  rw [ended] at live
  cases live

/-- A run that had ended has still ended when its job is done. -/
theorem middle_ended (ended : rows.run.status.terminal = true) {summary : Option String} :
    RunEnded ((rows.clearLease .done).withSummary summary)
      ((rows.clearLease .done).withSummary summary) [.cancelled] := by
  apply runEnded_self
  exact ended

theorem prepareActiveRun_effect {resolvedTenant : Option TenantContext}
    {result : PrepareClaimResult} (asked : op = .prepare job resolvedTenant now)
    (resolves : resolvesTo job resolvedTenant)
    (held : activeLeasePredicates rows.job job now = true)
    (ran : prepareActiveRun cfg
      (findMembership memberships job.workspaceId job.originatingActorUserId) job now rows =
        .ok (after, result)) :
    Effect cfg memberships op rows after := by
  have leased := activeLease_leased held
  have ends (cause : rows.begun ∨
      membershipActive memberships job.workspaceId job.originatingActorUserId = false ∨
      rows.run.graphVersion ≠ job.graphVersion ∨ cfg.executable rows.run.graphVersion = false ∨
      rows.run.cancelRequestedAt ≠ none) : Ends cfg memberships op rows := by
    rw [asked]
    exact ⟨resolves, held, cause⟩
  have done : Underway cfg memberships op rows ((rows.clearLease .done).withSummary none) .done :=
    underway_of_job ⟨rows.job.availableAt, none, rfl⟩
  unfold prepareActiveRun at ran
  split at ran
  next ended =>
    cases ran
    exact finish_effect leased done (middle_ended ended) (by simp) (uncaused ended)
  · split at ran
    next absent =>
      cases ran
      have revoked : membershipActive memberships job.workspaceId job.originatingActorUserId =
          false := by
        unfold membershipActive
        cases member : findMembership memberships job.workspaceId job.originatingActorUserId with
        | none => rfl
        | some row => simpa [member, Option.filter, Option.isSome_iff_ne_none] using absent
      exact finish_effect leased done (markRunCancelled_ended _ _ _) (by simp)
        (fun _ => ends (.inr (.inl revoked)))
    · split at ran
      next unsupported =>
        cases ran
        have dead : Underway cfg memberships op rows
            (markJobDead rows "unsupported_graph_version") .dead :=
          underway_quiet rfl ⟨rfl, rfl⟩ ⟨_, _, rfl⟩ rfl
            ⟨[.jobDead], (Appends.none _).push rfl _ _ _, rfl⟩
        refine bury_effect leased dead (markRunFailed_ended _ _ _) fun _ => ends ?_
        rcases unsupported with changed | unsupported
        · exact .inr (.inr (.inl changed))
        · exact .inr (.inr (.inr (.inl (by simpa using unsupported))))
      · split at ran
        next cancelled =>
          cases ran
          exact finish_effect leased done (markRunCancelled_ended _ _ _) (by simp)
            (fun _ => ends (.inr (.inr (.inr (.inr cancelled)))))
        next uncancelled => exact startRun_effect leased (by simpa using uncancelled) ran

theorem findAction_some {p : ActionIntent → Bool} {k : UUID} {action : ActionRows}
    (found : rows.findAction p = some (k, action)) :
    rows.actions.get k = some action ∧ p action.intent = true :=
  Table.find?_some found

/-- An action that has ended badly has begun. -/
theorem begun_of_unsuccessful {k : UUID} {action : ActionRows}
    (found : rows.actions.get k = some action)
    (ended : action.intent.status.unsuccessful = true) : rows.begun := by
  refine ⟨k, action, found, ?_⟩
  cases status : action.intent.status <;>
    simp_all [ActionIntentStatus.begun, ActionIntentStatus.unsuccessful]

theorem prepareClaimedRows_effect {resolvedTenant : Option TenantContext}
    {result : PrepareClaimResult} (asked : op = .prepare job resolvedTenant now)
    (resolves : resolvesTo job resolvedTenant)
    (ran : prepareClaimedRows cfg memberships job now rows = .ok (after, result)) :
    Effect cfg memberships op rows after := by
  unfold prepareClaimedRows at ran
  dsimp only at ran
  split at ran
  · cases ran
    exact idle_effect rows
  next held =>
    have held : activeLeasePredicates rows.job job now = true := by simpa using held
    split at ran
    · split at ran
      · cases ran
      cases ran
      exact idle_effect rows
    · split at ran
      next k action found =>
        obtain ⟨settled, converged, written⟩ := map_ok ran
        cases written
        obtain ⟨stored, failed⟩ := findAction_some found
        refine finish_effect (activeLease_leased held)
          (underway_of_job ⟨rows.job.availableAt, rows.job.errorSummary, rfl⟩)
          (convergeTerminalAction_ended converged) (by simp) fun _ => ?_
        rw [asked]
        exact ⟨resolves, held, .inl (begun_of_unsuccessful stored failed)⟩
      · exact prepareActiveRun_effect asked resolves held ran

/-! ## Completing and pausing -/

variable (cfg memberships op) in
/-- A lease consumed by an update of the job row alone. -/
theorem underway_of_consume {middle : RunRows} {status : JobStatus} {summary : Option String}
    (consumed : consumeLease rows job now status summary none = some middle) :
    activeLeasePredicates rows.job job now = true ∧ middle.run = rows.run ∧
      Underway cfg memberships op rows middle status := by
  obtain ⟨held, rfl⟩ := consumeLease_some consumed
  exact ⟨held, rfl, underway_of_job ⟨rows.job.availableAt, summary, rfl⟩⟩

theorem completeRows_effect {result : RunOutput} {published : Except StoreError RunOutput}
    {held : Bool} (asked : op = .complete job result published now)
    (ran : completeRows cfg memberships job result published now rows = .ok (after, held)) :
    Effect cfg memberships op rows after := by
  unfold completeRows at ran
  split at ran
  · cases ran
    exact idle_effect rows
  next middle consumed =>
    obtain ⟨held, same, underway⟩ := underway_of_consume cfg memberships op consumed
    have leased := activeLease_leased held
    rw [same] at ran
    have ends (cause : rows.run.cancelRequestedAt ≠ none ∨ (rows.run.status = .running ∧
        Publishes cfg memberships job rows.run result published)) :
        Ends cfg memberships op rows := by
      rw [asked]
      exact ⟨held, cause⟩
    split at ran
    next ended =>
      cases ran
      exact finish_effect leased underway (runEnded_self (by rw [same, ended]) [.cancelled])
        (by simp) (uncaused ended)
    next live =>
      split at ran
      next cancelled =>
        cases ran
        exact finish_effect leased underway (markRunCancelled_ended _ _ _) (by simp)
          (fun _ => ends (.inl cancelled))
      · split at ran
        · cases ran
        next running =>
          have running : rows.run.status = .running := not_not.mp running
          split at ran
          · cases ran
          next gone =>
            cases ran
            exact finish_effect leased underway (markRunCancelled_ended _ _ _) (by simp)
              (fun _ => ends (.inr ⟨running, none, gone, nofun⟩))
          next receipt given =>
            obtain ⟨dump, valid, written⟩ := map_ok ran
            cases written
            refine complete_effect leased underway
              (markRunCompleted_ended dump now (by simpa [same] using live)) running
              (fun _ => ends (.inr ⟨running, some receipt, given, ?_⟩))
            rintro output ⟨⟩
            exact ⟨dump, valid⟩

theorem waitForApprovalRows_effect {approvalRequestId : UUID} {held : Bool}
    (asked : op = .waitForApproval job approvalRequestId now)
    (ran : waitForApprovalRows job approvalRequestId now rows = .ok (after, held)) :
    Effect cfg memberships op rows after := by
  have paused (requestId actionIntentId : UUID) (reason : String)
      (pauses : Pauses job approvalRequestId now rows) :
      Effect cfg memberships op rows
        (appendEvent
          { (rows.clearLease .done).withSummary none with
            run := { rows.run with status := .waitingApproval } }
          .runStatusChanged
          [("previous_status", .str "running"), ("status", .str "waiting_approval"),
            ("reason", .str reason), ("approval_request_id", .id requestId),
            ("action_intent_id", .id actionIntentId)]) := by
    refine ⟨rfl, rfl, .park job approvalRequestId now asked pauses rfl rfl
        ⟨rows.job.availableAt, none, rfl⟩,
        deeds_idle rfl ((Unproposed.refl _).push rfl (by decide) _ _), [.runStatusChanged],
        (Appends.none _).push rfl _ _ _, ?_⟩
    simp [appendEvent, RunRows.pushEvent, pauses.running, announced, RunEventType.terminal,
      RunStatus.terminalEvent]
  unfold waitForApprovalRows at ran
  split at ran
  · cases ran
    exact idle_effect rows
  next lease =>
    have lease : activeLeasePredicates rows.job job now = true := by simpa using lease
    split at ran
    · cases ran
    next legacy =>
      have legacy : rows.run.mode.legacy = true := by simpa using legacy
      split at ran
      · cases ran
      next request bound =>
        obtain ⟨found, located, requested⟩ := Option.bind_eq_some_iff.mp bound
        dsimp only at ran
        split at ran
        next resumed =>
          split at ran
          · cases ran
          next same =>
            obtain ⟨sameRow, sameClaim⟩ := not_or.mp same
            split at ran
            · cases ran
            next open_ =>
              split at ran
              · cases ran
              next running =>
                cases ran
                refine paused _ _ _ ⟨lease, legacy, not_not.mp running, found, request, located,
                  requested, ?_⟩
                rw [if_neg resumed]
                exact ⟨not_not.mp sameRow, not_not.mp sameClaim, by simpa using open_⟩
        next fresh =>
          split at ran
          · cases ran
          next sameClaim =>
            split at ran
            · cases ran
            next pending =>
              split at ran
              · cases ran
              next running =>
                cases ran
                refine paused _ _ _ ⟨lease, legacy, not_not.mp running, found, request, located,
                  requested, ?_⟩
                rw [if_pos (not_not.mp fresh)]
                exact ⟨not_not.mp sameClaim, not_not.mp pending⟩

/-! ## Handing the job back -/

theorem actionSucceeded_iff :
    actionSucceeded rows = true ↔
      ∃ k action, rows.actions.get k = some action ∧ action.intent.status = .succeeded := by
  simp [actionSucceeded, Table.any_iff]

theorem recoverable_iff :
    recoverable cfg rows = true ↔
      ∃ k action, rows.actions.get k = some action ∧ action.intent.status = .executing ∧
        action.intent.recoveryAttempts ≤ cfg.actionRecoveryMaxAttempts := by
  simp [recoverable, Table.any_iff]

/-- The job row goes back to the queue; nothing else changes but the log. -/
theorem requeue_effect (leased : rows.job.status = .leased) (left : Requeueable cfg rows)
    (frame : after.run.identity = rows.run.identity) (course : SameCourse rows.run after.run)
    (job : Settled rows.job after.job .queued) (actions : after.actions = rows.actions)
    (logged : ∃ types, Appends rows.log after.log types ∧ Quiet types) :
    Effect cfg memberships op rows after := by
  obtain ⟨types, appended, quiet⟩ := logged
  refine ⟨frame, settled_identity job, .requeue leased left job course actions,
    deeds_idle actions (appended.unproposed quiet.unproposed), types, appended, ?_⟩
  rw [quiet.terminal, course.1, announced_self]

theorem requeueRows_effect {retryDelay : RetryDelayPolicy} {errorCategory : String} {held : Bool}
    (asked : op = .requeue retryDelay job errorCategory now)
    (valid : validErrorCategory cfg errorCategory = true)
    (ran : requeueRows retryDelay job errorCategory now rows = .ok (after, held)) :
    Effect cfg memberships op rows after := by
  unfold requeueRows at ran
  split at ran
  · cases ran
    exact idle_effect rows
  next middle consumed =>
    obtain ⟨lease, rfl⟩ := consumeLease_some consumed
    dsimp only at ran
    split at ran
    next cancelled =>
      cases ran
      have done : Underway cfg memberships op rows
          { rows with job := { clearLease rows.job .queued with
            errorSummary := none
            availableAt := (some (now + retryDelay job.attempt.toNat)).getD rows.job.availableAt
            status := .done } } .done :=
        underway_quiet rfl ⟨rfl, rfl⟩ ⟨_, _, rfl⟩ rfl ⟨[], .none _, rfl⟩
      refine finish_effect (activeLease_leased lease) done (markRunCancelled_ended _ _ _)
        (by simp) fun _ => ?_
      rw [asked]
      exact ⟨lease, valid, cancelled.1, cancelled.2.1⟩
    next uncancelled =>
      cases ran
      exact ⟨rfl, rfl, .handBack retryDelay job errorCategory now asked lease ⟨_, _, rfl⟩
        ⟨rfl, rfl⟩ rfl (by simpa using uncancelled) valid, deeds_idle rfl (fun _ => rfl),
        unlogged rfl rfl⟩

theorem releaseRows_effect {retryDelay : RetryDelayPolicy} {errorCategory : String} {held : Bool}
    (ran : releaseRows retryDelay job errorCategory now rows = .ok (after, held)) :
    Effect cfg memberships op rows after := by
  unfold releaseRows at ran
  split at ran
  next allowed =>
    cases ran
    exact requeue_effect (activeLease_leased allowed.1) (.inl allowed.2) rfl ⟨rfl, rfl⟩
      ⟨_, _, rfl⟩ rfl ⟨[], .none _, rfl⟩
  · cases ran
    exact idle_effect rows

/-! ## Failing and cancelling -/

theorem settlesOnly_put {k : UUID} {action settled : ActionRows}
    (found : rows.actions.get k = some action) (executing : action.intent.status = .executing)
    (ended : settled.intent.status.unsuccessful = true)
    (requested : settled.request = action.request) :
    SettlesOnly rows.actions (rows.actions.put k settled) := by
  intro j
  by_cases here : j = k
  · subst here
    exact .inr ⟨action, settled, found, Table.put_get_self _ _ _, executing, ended, requested⟩
  · exact .inl (Table.put_get_of_ne _ _ here)

variable (cfg memberships op) in
/-- Spending the last recovery settles the action and leaves the job alone. -/
theorem exhaustRecovery_ok {middle : RunRows} {k : UUID} {action : ActionRows}
    (leased : rows.job.status = .leased) (executing : action.intent.status = .executing)
    (ran : exhaustRecovery middle k action now = .ok after) :
    ∃ settled, ActionMove cfg memberships op rows action settled ∧
      settled.intent.status.unsuccessful = true ∧ settled.request = action.request ∧
      after.actions = middle.actions.put k settled ∧ after.run.identity = middle.run.identity ∧
      SameCourse middle.run after.run ∧ after.job = middle.job ∧
      Appends middle.log after.log [.actionOutcomeUnknown] := by
  unfold exhaustRecovery at ran
  split at ran
  · cases ran
  next invocation sent =>
    cases ran
    obtain ⟨invoked, sent⟩ : action.invocation = some invocation ∧
        invocation.status = .executing := by
      simpa [Option.filter_eq_some_iff] using sent
    refine ⟨_, ?_, ?_, ?_, rfl, rfl, ⟨rfl, rfl⟩, rfl, (Appends.none _).push rfl _ _ _⟩
    · refine .settle invoked executing sent rfl rfl rfl rfl rfl rfl nofun ?_
      intro queued
      rw [leased] at queued
      cases queued
    · rfl
    · rfl

/-- `fail` gives the lease up first. -/
theorem exhaustRecovery_underway {middle : RunRows} {status : JobStatus} {k : UUID}
    {action : ActionRows} (leased : rows.job.status = .leased)
    (underway : Underway cfg memberships op rows middle status)
    (same : middle.actions = rows.actions)
    (found : rows.actions.get k = some action) (executing : action.intent.status = .executing)
    (ran : exhaustRecovery middle k action now = .ok after) :
    Underway cfg memberships op rows after status := by
  obtain ⟨settled, moved, ended, requested, written, frame, course, job, appended⟩ :=
    exhaustRecovery_ok cfg memberships op leased executing ran
  rw [same] at written
  obtain ⟨types, before, quiet⟩ := underway.logged
  refine ⟨frame.trans underway.run_frame,
    ⟨course.1.trans underway.course.1, course.2.trans underway.course.2⟩, job ▸ underway.job,
    deeds_move found moved written ((before.unproposed quiet.unproposed).trans
      (appended.unproposed (by decide))),
    written ▸ settlesOnly_put found executing ended requested,
    types ++ [.actionOutcomeUnknown], appends_trans before appended, ?_⟩
  exact quiet.append rfl

/-- `reclaim_stale_leases` gives it up afterwards. -/
theorem exhaustRecovery_done {k : UUID} {action : ActionRows} {marker : Payload}
    {summary : Option String} (leased : rows.job.status = .leased)
    (found : rows.actions.get k = some action) (executing : action.intent.status = .executing)
    (ran : exhaustRecovery (leaseExpired rows marker) k action now = .ok after) :
    Underway cfg memberships op rows ((after.clearLease .done).withSummary summary) .done := by
  obtain ⟨settled, moved, ended, requested, written, frame, course, job, appended⟩ :=
    exhaustRecovery_ok cfg memberships op leased executing ran
  have same : after.job = rows.job := job
  have cleared : Settled rows.job ((after.clearLease .done).withSummary summary).job .done :=
    ⟨after.job.availableAt, summary, by rw [← same]; rfl⟩
  have expired : Appends rows.log (leaseExpired rows marker).log [.jobLeaseExpired] :=
    (Appends.none _).push rfl _ _ _
  exact ⟨frame, course, cleared,
    deeds_move found moved written ((expired.unproposed (by decide)).trans
      (appended.unproposed (by decide))),
    written ▸ settlesOnly_put found executing ended requested,
    [.jobLeaseExpired, .actionOutcomeUnknown], appends_trans expired appended, rfl⟩

theorem begunAction_filter {p : UUID × ActionRows → Bool} {k : UUID} {action : ActionRows}
    (found : rows.begunAction.filter p = some (k, action)) :
    rows.actions.get k = some action ∧ p (k, action) = true := by
  obtain ⟨found, holds⟩ : rows.begunAction = some (k, action) ∧ p (k, action) = true := by
    simpa [Option.filter_eq_some_iff] using found
  exact ⟨(findAction_some found).1, holds⟩

theorem failRows_effect {retryDelay : RetryDelayPolicy} {errorCategory : String} {held : Bool}
    (asked : op = .fail retryDelay job errorCategory now)
    (valid : validErrorCategory cfg errorCategory = true)
    (ran : failRows cfg memberships retryDelay job errorCategory now rows = .ok (after, held)) :
    Effect cfg memberships op rows after := by
  have ends (held : activeLeasePredicates rows.job job now = true) :
      rows.run.status.terminal = false → Ends cfg memberships op rows := by
    intro _
    rw [asked]
    exact ⟨held, valid⟩
  unfold failRows at ran
  split at ran
  next k action found =>
    obtain ⟨stored, executing⟩ := begunAction_filter found
    have executing : action.intent.status = .executing := by simpa using executing
    split at ran
    next left =>
      split at ran
      · cases ran
        exact idle_effect rows
      next middle consumed =>
        cases ran
        obtain ⟨lease, rfl⟩ := consumeLease_some consumed
        have recovers : recoverable cfg rows = true :=
          recoverable_iff.mpr ⟨k, action, stored, executing, Int.le_of_lt left⟩
        exact requeue_effect (activeLease_leased lease) (.inr (.inl recovers)) rfl ⟨rfl, rfl⟩
          ⟨_, _, rfl⟩ rfl ⟨[], .none _, rfl⟩
    · split at ran
      · cases ran
        exact idle_effect rows
      next middle consumed =>
        obtain ⟨lease, -, underway⟩ := underway_of_consume cfg memberships op consumed
        have leased := activeLease_leased lease
        have same : middle.actions = rows.actions := by
          obtain ⟨-, rfl⟩ := consumeLease_some consumed
          rfl
        obtain ⟨ended, spent, written⟩ := map_ok ran
        cases written
        exact finish_effect leased
          (exhaustRecovery_underway leased underway same stored executing spent)
          (markRunFailed_ended _ _ _) (by simp) (ends lease)
  · dsimp only at ran
    split at ran
    · cases ran
      exact idle_effect rows
    next middle consumed =>
      obtain ⟨lease, -, underway⟩ := underway_of_consume cfg memberships op consumed
      have leased := activeLease_leased lease
      cases ended : rows.begunAction.filter fun found => found.2.intent.status.unsuccessful with
      | some entry =>
        rw [ended] at underway
        simp only [ended] at ran
        split at ran
        next finished =>
          cases ran
          exact finish_effect leased underway (runEnded_self finished [.failed]) (by simp)
            (ends lease)
        · obtain ⟨settled, converged, written⟩ := map_ok ran
          cases written
          exact finish_effect leased underway (convergeTerminalAction_ended converged) (by simp)
            (ends lease)
      | none =>
        rw [ended] at underway
        simp only [ended] at ran
        obtain ⟨-, middle_eq⟩ := consumeLease_some consumed
        rw [ended] at middle_eq
        split at ran
        next finished =>
          cases ran
          exact bury_effect leased underway (runEnded_self finished [.failed]) (ends lease)
        · split at ran
          · cases ran
            subst middle_eq
            have done : Underway cfg memberships op rows
                { rows with job := { clearLease rows.job .dead with
                  status := .done, errorSummary := none,
                  availableAt := rows.job.availableAt } } .done :=
              underway_quiet rfl ⟨rfl, rfl⟩ ⟨_, _, rfl⟩ rfl ⟨[], .none _, rfl⟩
            exact finish_effect leased done (markRunCancelled_ended _ _ _) (by simp) (ends lease)
          · cases ran
            have dead : Underway cfg memberships op rows
                (appendEvent middle .jobDead
                  [("attempt", .int job.attempt), ("max_attempts", .int job.maxAttempts),
                    ("error_category", .str errorCategory)]) .dead := by
              subst middle_eq
              exact underway_quiet rfl ⟨rfl, rfl⟩ ⟨_, _, rfl⟩ rfl
                ⟨[.jobDead], (Appends.none _).push rfl _ _ _, rfl⟩
            exact bury_effect leased dead (markRunFailed_ended _ _ _) (ends lease)

theorem cancelRows_effect {retryDelay : RetryDelayPolicy} {reason : String} {held : Bool}
    (asked : op = .cancel retryDelay job reason now)
    (valid : validErrorCategory cfg reason = true)
    (bounded : ∀ k action, rows.actions.get k = some action →
      action.intent.recoveryAttempts ≤ cfg.actionRecoveryMaxAttempts)
    (ran : cancelRows memberships retryDelay job reason now rows = .ok (after, held)) :
    Effect cfg memberships op rows after := by
  have ends (held : activeLeasePredicates rows.job job now = true) :
      rows.run.status.terminal = false → Ends cfg memberships op rows := by
    intro _
    rw [asked]
    exact ⟨held, valid⟩
  unfold cancelRows at ran
  dsimp only at ran
  split at ran
  next executing =>
    split at ran
    · cases ran
      exact idle_effect rows
    next middle consumed =>
      cases ran
      obtain ⟨lease, rfl⟩ := consumeLease_some consumed
      obtain ⟨⟨k, action⟩, found, executing⟩ := (Option.any_eq_true _ _).mp executing
      obtain ⟨stored, -⟩ := findAction_some found
      have recovers : recoverable cfg rows = true :=
        recoverable_iff.mpr ⟨k, action, stored, by simpa using executing, bounded k action stored⟩
      exact requeue_effect (activeLease_leased lease) (.inr (.inl recovers)) rfl ⟨rfl, rfl⟩
        ⟨_, _, rfl⟩ rfl ⟨[], .none _, rfl⟩
  · split at ran
    · cases ran
      exact idle_effect rows
    next middle consumed =>
      obtain ⟨lease, -, underway⟩ := underway_of_consume cfg memberships op consumed
      have leased := activeLease_leased lease
      split at ran
      next action _ =>
        obtain ⟨settled, converged, written⟩ := map_ok ran
        cases written
        exact finish_effect leased underway (convergeTerminalAction_ended converged) (by simp)
          (ends lease)
      · cases ran
        exact finish_effect leased underway (markRunCancelled_ended _ _ _) (by simp) (ends lease)

/-! ## Reclaiming -/

/-- Requeueing after an expired lease, whatever the marker on its event. -/
theorem requeueJob_effect {retryDelay : RetryDelayPolicy} {errorSummary : String}
    (marker : Payload) (leased : rows.job.status = .leased) (left : Requeueable cfg rows) :
    Effect cfg memberships op rows
      (requeueJob (leaseExpired rows marker) retryDelay errorSummary now) :=
  requeue_effect leased left rfl ⟨rfl, rfl⟩ ⟨_, _, rfl⟩ rfl
    ⟨[.jobLeaseExpired], (Appends.none _).push rfl _ _ _, rfl⟩

theorem clearLease_underway (summary : Option String) :
    Underway cfg memberships op rows ((rows.clearLease .done).withSummary summary) .done :=
  underway_of_job ⟨rows.job.availableAt, summary, rfl⟩

theorem stale_leased (due : stale cfg rows now = true) : rows.job.status = .leased := by
  simp only [stale, Bool.and_eq_true, beq_iff_eq] at due
  exact due.1.1

theorem reclaimRunning_effect {retryDelay : RetryDelayPolicy} {outcome : Reclaimed}
    {locked : UUID → Bool} {limit : Nat} (asked : op = .reclaim retryDelay locked now limit)
    (due : stale cfg rows now = true) (unlocked : locked rows.job.id = false)
    (live : rows.run.status.terminal = false)
    (ran : reclaimRunning retryDelay now rows = .ok (after, outcome)) :
    Effect cfg memberships op rows after := by
  have leased := stale_leased due
  unfold reclaimRunning at ran
  dsimp only at ran
  split at ran
  next left =>
    split at ran
    · cases ran
    cases ran
    exact requeueJob_effect [] leased (.inl left.1)
  next spent =>
    cases ran
    have dead (category : String) : Underway cfg memberships op rows
        (markJobDead (leaseExpired rows []) category) .dead :=
      underway_quiet rfl ⟨rfl, rfl⟩ ⟨_, _, rfl⟩ rfl
        ⟨[.jobLeaseExpired, .jobDead], ((Appends.none _).push rfl _ _ _).push rfl _ _ _, rfl⟩
    refine bury_effect leased (dead _) (markRunFailed_ended _ _ _) fun _ => ?_
    rw [asked]
    refine ⟨due, unlocked, .inr (.inr ?_)⟩
    by_cases left : rows.job.attempt < rows.job.maxAttempts
    · right
      cases status : rows.run.status <;> simp_all [RunStatus.terminal]
    · exact .inl (Int.not_lt.mp left)

theorem reclaimRows_effect {retryDelay : RetryDelayPolicy} {outcome : Reclaimed}
    {locked : UUID → Bool} {limit : Nat} (asked : op = .reclaim retryDelay locked now limit)
    (due : stale cfg rows now = true) (unlocked : locked rows.job.id = false)
    (ran : reclaimRows cfg memberships retryDelay now rows = .ok (after, outcome)) :
    Effect cfg memberships op rows after := by
  have leased := stale_leased due
  have ends (cause : rows.begun ∨ rows.run.cancelRequestedAt ≠ none ∨
      rows.job.maxAttempts ≤ rows.job.attempt ∨
      (rows.run.status = .waitingApproval ∧ rows.job.resumeApprovalRequestId = none)) :
      rows.run.status.terminal = false → Ends cfg memberships op rows := by
    intro _
    rw [asked]
    exact ⟨due, unlocked, cause⟩
  -- Where neither a begun action nor its success decides the job, the run does.
  have byRun (ran : (if rows.run.status.terminal then
        .ok ((rows.clearLease .done).withSummary none, .finished)
      else if rows.run.cancelRequestedAt ≠ none then
        .ok (markRunCancelled ((rows.clearLease .done).withSummary none) "user_requested" now,
          .finished)
      else reclaimRunning retryDelay now rows) = .ok (after, outcome)) :
      Effect cfg memberships op rows after := by
    split at ran
    next ended =>
      cases ran
      exact finish_effect leased (clearLease_underway none) (middle_ended ended) (by simp)
        (uncaused ended)
    next live =>
      split at ran
      next cancelled =>
        cases ran
        exact finish_effect leased (clearLease_underway none)
          (markRunCancelled_ended _ _ _) (by simp) (ends (.inr (.inl cancelled)))
      · exact reclaimRunning_effect asked due unlocked (by simpa using live) ran
  unfold reclaimRows at ran
  split at ran
  next k action found =>
    obtain ⟨stored, begun⟩ := findAction_some found
    have begins : rows.begun := ⟨k, action, stored, begun⟩
    split at ran
    next executing =>
      split at ran
      · cases ran
      dsimp only at ran
      split at ran
      next left =>
        cases ran
        have recovers : recoverable cfg rows = true :=
          recoverable_iff.mpr ⟨k, action, stored, executing, Int.le_of_lt left⟩
        exact requeueJob_effect _ leased (.inr (.inl recovers))
      · obtain ⟨ended, spent, written⟩ := map_ok ran
        cases written
        exact finish_effect leased (exhaustRecovery_done leased stored executing spent)
          (markRunFailed_ended _ _ _) (by simp) (ends (.inl begins))
    next notExecuting =>
      split at ran
      · obtain ⟨settled, converged, written⟩ := map_ok ran
        cases written
        exact finish_effect leased
          (underway_of_job ⟨rows.job.availableAt, rows.job.errorSummary, rfl⟩)
          (convergeTerminalAction_ended converged) (by simp) (ends (.inl begins))
      next successful =>
        have succeeded : actionSucceeded rows = true := by
          refine actionSucceeded_iff.mpr ⟨k, action, stored, ?_⟩
          cases status : action.intent.status <;>
            simp_all [ActionIntentStatus.begun, ActionIntentStatus.unsuccessful]
        split at ran
        · cases ran
          exact requeueJob_effect _ leased (.inr (.inr succeeded))
        · exact byRun ran
  · exact byRun ran

end Operations
end Pathfinder
