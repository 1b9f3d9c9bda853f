import Pathfinder.Lifecycle.ExecutionEffects
import Pathfinder.Lifecycle.JobEffects
import Pathfinder.Lifecycle.ActionEffects

/-!
# Which timestamps a request writes

A run is ended by the worker store at its terminal time, by a cancellation at the reading
or the start; an invocation is ended at the reading. Nothing else that a request writes
for a run ends either of them.
-/
namespace Pathfinder
open KeyedTable

/-- The invocation of an action of the run. -/
def RunRows.invocation (rows : RunRows) (k : UUID) : Option ToolInvocation :=
  (rows.actions.get k).bind ActionRows.invocation

/-- The invocation has been ended. -/
def ToolInvocation.finished (invocation : ToolInvocation) : Bool := invocation.finishedAt.isSome

/-- The run, the start and the cancel request are as before, and so is the creation. -/
structure RunKept (rows after : RunRows) : Prop where
  terminal : after.run.status.terminal = rows.run.status.terminal
  started : after.run.startedAt = rows.run.startedAt
  cancel : after.run.cancelRequestedAt = rows.run.cancelRequestedAt
  created : after.job.createdAt = rows.job.createdAt

theorem RunKept.refl (rows : RunRows) : RunKept rows rows := ⟨rfl, rfl, rfl, rfl⟩

theorem RunKept.trans {rows middle after : RunRows} (first : RunKept rows middle)
    (second : RunKept middle after) : RunKept rows after :=
  ⟨second.terminal.trans first.terminal, second.started.trans first.started,
    second.cancel.trans first.cancel, second.created.trans first.created⟩

theorem RunKept.terminalTime {rows after : RunRows} (kept : RunKept rows after) (now : Timestamp) :
    Pathfinder.terminalTime after.run now = Pathfinder.terminalTime rows.run now := by
  simp only [Pathfinder.terminalTime, kept.started, kept.cancel]

/-- How a run is left: neither ended nor reopened, or ended at `ending`. -/
def RunTimed (ending now : Timestamp) (run after : Run) : Prop :=
  after.status.terminal = run.status.terminal ∨
    after.finishedAt = some ending ∧ after.cancelRequestedAt = run.cancelRequestedAt ∧
      (after.startedAt = run.startedAt ∨ after.startedAt = some (run.startedAt.getD now))

/-- How an invocation is left: ended as before, or ended at `now`. -/
def InvocationTimed (now : Timestamp) (before after : Option ToolInvocation) : Prop :=
  after.any ToolInvocation.finished = before.any ToolInvocation.finished ∨
    ∃ invocation ended, before = some invocation ∧ after = some ended ∧
      ended.finishedAt = some now ∧ ended.startedAt = invocation.startedAt

/-- What a request writes of times for a run. -/
structure Timed (ending now : Timestamp) (rows after : RunRows) : Prop where
  created : after.job.createdAt = rows.job.createdAt
  run : RunTimed ending now rows.run after.run
  invocations : ∀ k, InvocationTimed now (rows.invocation k) (after.invocation k)

section Shapes
variable {ending now : Timestamp} {rows middle after : RunRows}

/-- No invocation is touched. -/
def SameInvocations (rows after : RunRows) : Prop := ∀ k, after.invocation k = rows.invocation k

theorem InvocationTimed.of_eq {before after : Option ToolInvocation} (same : after = before) :
    InvocationTimed now before after :=
  .inl (same ▸ rfl)

/-- Neither the run nor an invocation is ended. -/
theorem Timed.quiet (kept : RunKept rows after) (same : SameInvocations rows after) :
    Timed ending now rows after :=
  ⟨kept.created, .inl kept.terminal, fun k => .of_eq (same k)⟩

theorem Timed.refl (rows : RunRows) : Timed ending now rows rows :=
  .quiet (.refl rows) fun _ => rfl

/-- Only invocations are ended. -/
theorem Timed.ofKept (kept : RunKept rows after)
    (invocations : ∀ k, InvocationTimed now (rows.invocation k) (after.invocation k)) :
    Timed ending now rows after :=
  ⟨kept.created, .inl kept.terminal, invocations⟩

/-- What leaves the run alone may come first. -/
theorem RunTimed.behind (timed : RunTimed (terminalTime middle.run now) now middle.run after.run)
    (kept : RunKept rows middle) :
    RunTimed (terminalTime rows.run now) now rows.run after.run := by
  rcases timed with same | ⟨finished, cancel, started⟩
  · exact .inl (same.trans kept.terminal)
  · rw [kept.terminalTime now] at finished
    rw [kept.cancel] at cancel
    rw [kept.started] at started
    exact .inr ⟨finished, cancel, started⟩

theorem Timed.behind (timed : Timed (terminalTime middle.run now) now middle after)
    (kept : RunKept rows middle) (same : SameInvocations rows middle) :
    Timed (terminalTime rows.run now) now rows after :=
  ⟨timed.created.trans kept.created, timed.run.behind kept, fun k => same k ▸ timed.invocations k⟩

/-- An ended invocation, and then the end of the run. -/
theorem Timed.behindEnds (timed : Timed (terminalTime middle.run now) now middle after)
    (same : SameInvocations middle after) (kept : RunKept rows middle)
    (invocations : ∀ k, InvocationTimed now (rows.invocation k) (middle.invocation k)) :
    Timed (terminalTime rows.run now) now rows after :=
  ⟨timed.created.trans kept.created, timed.run.behind kept,
    fun k => (same k).symm ▸ invocations k⟩

/-- Writing the rows of one action back. -/
theorem invocations_put {k : UUID} {written : ActionRows}
    (here : InvocationTimed now (rows.invocation k) written.invocation) :
    ∀ j, InvocationTimed now (rows.invocation j) ((rows.putAction k written).invocation j) := by
  intro j
  by_cases same : j = k
  · subst same
    rw [show (rows.putAction j written).invocation j = written.invocation by
      simp [RunRows.invocation, RunRows.putAction]]
    exact here
  · refine .of_eq ?_
    simp only [RunRows.invocation, RunRows.putAction]
    rw [Table.put_get_of_ne _ _ same]

/-- Rows of an action with the invocation they had. -/
theorem sameInvocations_put {k : UUID} {action written : ActionRows}
    (found : rows.actions.get k = some action) (same : written.invocation = action.invocation) :
    SameInvocations rows (rows.putAction k written) := by
  intro j
  by_cases here : j = k
  · subst here
    simp [RunRows.invocation, RunRows.putAction, found, same]
  · simp only [RunRows.invocation, RunRows.putAction]
    rw [Table.put_get_of_ne _ _ here]

end Shapes

/-! ## The worker store -/

section Worker
variable {cfg : Config} {memberships : List WorkspaceMembership} {now : Timestamp}
  {rows after : RunRows}

theorem markRunCancelled_timed (rows : RunRows) (reason : String) (now : Timestamp) :
    Timed (terminalTime rows.run now) now rows (markRunCancelled rows reason now) ∧
      SameInvocations rows (markRunCancelled rows reason now) := by
  unfold markRunCancelled
  split
  · exact ⟨.refl rows, fun _ => rfl⟩
  · exact ⟨⟨rfl, .inr ⟨rfl, rfl, .inl rfl⟩, fun _ => .of_eq rfl⟩, fun _ => rfl⟩

theorem terminalTime_started (run : Run) (now : Timestamp) :
    terminalTime { run with startedAt := some (run.startedAt.getD now) } now =
      terminalTime run now := by
  simp [terminalTime]

theorem markRunFailed_timed (rows : RunRows) (errorCategory : String) (now : Timestamp) :
    Timed (terminalTime rows.run now) now rows (markRunFailed rows errorCategory now) ∧
      SameInvocations rows (markRunFailed rows errorCategory now) := by
  unfold markRunFailed
  split
  · exact ⟨.refl rows, fun _ => rfl⟩
  · refine ⟨⟨rfl, .inr ⟨?_, rfl, .inr rfl⟩, fun _ => .of_eq rfl⟩, fun _ => rfl⟩
    exact congrArg some (terminalTime_started rows.run now)

theorem markRunCompleted_timed (rows : RunRows) (dump : String) (now : Timestamp) :
    Timed (terminalTime rows.run now) now rows (markRunCompleted rows dump now) :=
  ⟨rfl, .inr ⟨rfl, rfl, .inl rfl⟩, fun _ => .of_eq rfl⟩

/-- A change of the job alone. -/
theorem job_quiet {job : RunJob} (created : job.createdAt = rows.job.createdAt) :
    RunKept rows { rows with job := job } ∧ SameInvocations rows { rows with job := job } :=
  ⟨⟨rfl, rfl, rfl, created⟩, fun _ => rfl⟩

theorem consumeLease_quiet {job : ClaimedJob} {status : JobStatus} {summary : Option String}
    {availableAt : Option Timestamp}
    (consumed : consumeLease rows job now status summary availableAt = some after) :
    RunKept rows after ∧ SameInvocations rows after := by
  unfold consumeLease at consumed
  split at consumed
  · cases consumed
    exact job_quiet rfl
  · cases consumed

theorem consumeLease_actions {job : ClaimedJob} {status : JobStatus} {summary : Option String}
    {availableAt : Option Timestamp}
    (consumed : consumeLease rows job now status summary availableAt = some after) :
    after.actions = rows.actions := by
  unfold consumeLease at consumed
  split at consumed
  · cases consumed
    rfl
  · cases consumed

/-- The run follows an action that ended badly. -/
theorem convergeTerminalAction_timed {action : ActionRows}
    (converged : convergeTerminalAction memberships rows action now = .ok after) :
    Timed (terminalTime rows.run now) now rows after := by
  have behind {summary : Option String} {later : RunRows}
      (timed : Timed (terminalTime (rows.withSummary summary).run now) now
        (rows.withSummary summary) later) : Timed (terminalTime rows.run now) now rows later :=
    timed.behind ⟨rfl, rfl, rfl, rfl⟩ fun _ => rfl
  unfold convergeTerminalAction at converged
  split at converged
  · cases converged
  split at converged
  · cases converged
  split at converged
  · cases converged
    exact behind (markRunFailed_timed _ _ _).1
  · split at converged
    · cases converged
    dsimp only at converged
    split at converged
    · cases converged
      exact behind (markRunCancelled_timed _ _ _).1
    · split at converged
      · cases converged
        exact behind (markRunCancelled_timed _ _ _).1
      · cases converged
        exact behind (markRunFailed_timed _ _ _).1

theorem completeRows_timed {job : ClaimedJob} {result : RunOutput}
    {published : Except StoreError RunOutput} {held : Bool}
    (written : completeRows cfg memberships job result published now rows = .ok (after, held)) :
    Timed (terminalTime rows.run now) now rows after := by
  unfold completeRows at written
  split at written
  · cases written
    exact .refl rows
  next middle consumed =>
    obtain ⟨kept, same⟩ := consumeLease_quiet consumed
    split at written
    · cases written
      exact .quiet kept same
    · split at written
      · cases written
        exact (markRunCancelled_timed _ _ _).1.behind kept same
      · split at written
        · cases written
        split at written
        · cases written
        · cases written
          exact (markRunCancelled_timed _ _ _).1.behind kept same
        · obtain ⟨dump, -, done⟩ := map_ok written
          cases done
          exact (markRunCompleted_timed _ _ _).behind kept same

theorem requeueRows_timed {retryDelay : RetryDelayPolicy} {job : ClaimedJob}
    {errorCategory : String} {held : Bool}
    (written : requeueRows retryDelay job errorCategory now rows = .ok (after, held)) :
    Timed (terminalTime rows.run now) now rows after := by
  unfold requeueRows at written
  split at written
  · cases written
    exact .refl rows
  next middle consumed =>
    obtain ⟨kept, same⟩ := consumeLease_quiet consumed
    dsimp only at written
    split at written
    · cases written
      exact (markRunCancelled_timed _ _ _).1.behind (kept.trans ⟨rfl, rfl, rfl, rfl⟩) same
    · cases written
      exact .quiet kept same

/-- The invocation whose recovery is given up. -/
theorem exhaustRecovery_timed {k : UUID} {action : ActionRows}
    (found : rows.actions.get k = some action)
    (written : exhaustRecovery rows k action now = .ok after) :
    RunKept rows after ∧
      ∀ j, InvocationTimed now (rows.invocation j) (after.invocation j) := by
  unfold exhaustRecovery at written
  split at written
  · cases written
  next invocation executing =>
    cases written
    obtain ⟨invoked, -⟩ := Option.filter_eq_some_iff.mp executing
    refine ⟨⟨rfl, rfl, rfl, rfl⟩, invocations_put ?_⟩
    refine .inr ⟨invocation, _, ?_, rfl, rfl, rfl⟩
    simp [RunRows.invocation, found, invoked]

theorem failRows_timed {retryDelay : RetryDelayPolicy} {job : ClaimedJob} {errorCategory : String}
    {held : Bool}
    (written : failRows cfg memberships retryDelay job errorCategory now rows = .ok (after, held)) :
    Timed (terminalTime rows.run now) now rows after := by
  unfold failRows at written
  split at written
  next k action executing =>
    split at written
    · split at written
      · cases written
        exact .refl rows
      next middle consumed =>
        cases written
        exact .quiet (consumeLease_quiet consumed).1 (consumeLease_quiet consumed).2
    · split at written
      · cases written
        exact .refl rows
      next middle consumed =>
        obtain ⟨kept, same⟩ := consumeLease_quiet consumed
        obtain ⟨exhausted, gaveUp, done⟩ := map_ok written
        cases done
        obtain ⟨stored, -⟩ := findAction_some (Option.filter_eq_some_iff.mp executing).1
        have found : middle.actions.get k = some action := consumeLease_actions consumed ▸ stored
        obtain ⟨after_, invocations⟩ := exhaustRecovery_timed found gaveUp
        obtain ⟨failed, untouched⟩ :=
          markRunFailed_timed exhausted "external_outcome_unknown" now
        exact failed.behindEnds untouched (kept.trans after_) fun j => same j ▸ invocations j
  · dsimp only at written
    split at written
    · cases written
      exact .refl rows
    next middle consumed =>
      obtain ⟨kept, same⟩ := consumeLease_quiet consumed
      split at written
      · cases written
        exact .quiet kept same
      · split at written
        · obtain ⟨converged, ran, done⟩ := map_ok written
          cases done
          exact (convergeTerminalAction_timed ran).behind kept same
        · split at written
          · cases written
            exact (markRunCancelled_timed _ _ _).1.behind (kept.trans ⟨rfl, rfl, rfl, rfl⟩) same
          · cases written
            exact (markRunFailed_timed _ _ _).1.behind (kept.trans ⟨rfl, rfl, rfl, rfl⟩) same

theorem cancelRows_timed {retryDelay : RetryDelayPolicy} {job : ClaimedJob} {reason : String}
    {held : Bool}
    (written : cancelRows memberships retryDelay job reason now rows = .ok (after, held)) :
    Timed (terminalTime rows.run now) now rows after := by
  unfold cancelRows at written
  dsimp only at written
  split at written
  · split at written
    · cases written
      exact .refl rows
    next middle consumed =>
      cases written
      exact .quiet (consumeLease_quiet consumed).1 (consumeLease_quiet consumed).2
  · split at written
    · cases written
      exact .refl rows
    next middle consumed =>
      obtain ⟨kept, same⟩ := consumeLease_quiet consumed
      split at written
      · obtain ⟨converged, ran, done⟩ := map_ok written
        cases done
        exact (convergeTerminalAction_timed ran).behind kept same
      · cases written
        exact (markRunCancelled_timed _ _ _).1.behind kept same

/-- Starting or resuming a run ends nothing. -/
theorem startRun_timed {role : WorkspaceRole} {job : ClaimedJob} {result : PrepareClaimResult}
    (written : startRun cfg role job now rows = .ok (after, result)) :
    Timed (terminalTime rows.run now) now rows after := by
  unfold startRun at written
  dsimp only at written
  split at written
  · cases written
  split at written
  next waiting =>
    split at written
    · cases written
    · split at written
      · cases written
      · cases written
        exact ⟨rfl, .inl (by rw [waiting]; rfl), fun _ => .of_eq rfl⟩
  next queued =>
    split at written
    · cases written
    cases written
    exact ⟨rfl, .inl (by rw [queued]; rfl), fun _ => .of_eq rfl⟩
  · split at written
    · cases written
      exact .refl rows
    · split at written
      · cases written
      cases written
      exact .refl rows
  · cases written
  · cases written
  · cases written

theorem prepareActiveRun_timed {membership : Option WorkspaceMembership} {job : ClaimedJob}
    {result : PrepareClaimResult}
    (written : prepareActiveRun cfg membership job now rows = .ok (after, result)) :
    Timed (terminalTime rows.run now) now rows after := by
  unfold prepareActiveRun at written
  split at written
  · cases written
    exact .quiet ⟨rfl, rfl, rfl, rfl⟩ fun _ => rfl
  · split at written
    · cases written
      exact (markRunCancelled_timed _ _ _).1.behind ⟨rfl, rfl, rfl, rfl⟩ fun _ => rfl
    · split at written
      · cases written
        exact (markRunFailed_timed _ _ _).1.behind ⟨rfl, rfl, rfl, rfl⟩ fun _ => rfl
      · split at written
        · cases written
          exact (markRunCancelled_timed _ _ _).1.behind ⟨rfl, rfl, rfl, rfl⟩ fun _ => rfl
        · exact startRun_timed written

theorem prepareClaimedRows_timed {job : ClaimedJob} {result : PrepareClaimResult}
    (written : prepareClaimedRows cfg memberships job now rows = .ok (after, result)) :
    Timed (terminalTime rows.run now) now rows after := by
  unfold prepareClaimedRows at written
  dsimp only at written
  split at written
  · cases written
    exact .refl rows
  · split at written
    · split at written
      · cases written
      cases written
      exact .refl rows
    · split at written
      · obtain ⟨converged, ran, done⟩ := map_ok written
        cases done
        exact (convergeTerminalAction_timed ran).behind ⟨rfl, rfl, rfl, rfl⟩ fun _ => rfl
      · exact prepareActiveRun_timed written

theorem reclaimRunning_timed {retryDelay : RetryDelayPolicy} {outcome : Reclaimed}
    (written : reclaimRunning retryDelay now rows = .ok (after, outcome)) :
    Timed (terminalTime rows.run now) now rows after := by
  unfold reclaimRunning at written
  dsimp only at written
  split at written
  · split at written
    · cases written
    cases written
    exact .quiet ⟨rfl, rfl, rfl, rfl⟩ fun _ => rfl
  · cases written
    exact (markRunFailed_timed _ _ _).1.behind ⟨rfl, rfl, rfl, rfl⟩ fun _ => rfl

theorem reclaimRows_timed {retryDelay : RetryDelayPolicy} {outcome : Reclaimed}
    (written : reclaimRows cfg memberships retryDelay now rows = .ok (after, outcome)) :
    Timed (terminalTime rows.run now) now rows after := by
  have cancelled : Timed (terminalTime rows.run now) now rows
      (markRunCancelled ((rows.clearLease .done).withSummary none) "user_requested" now) :=
    (markRunCancelled_timed _ _ _).1.behind ⟨rfl, rfl, rfl, rfl⟩ fun _ => rfl
  unfold reclaimRows at written
  split at written
  next k action begun =>
    split at written
    · split at written
      · cases written
      dsimp only at written
      split at written
      · cases written
        exact .quiet ⟨rfl, rfl, rfl, rfl⟩ fun _ => rfl
      · obtain ⟨exhausted, gaveUp, done⟩ := map_ok written
        cases done
        have found : (leaseExpired rows [("action_recovery", .bool true)]).actions.get k =
            some action := (findAction_some begun).1
        obtain ⟨kept, invocations⟩ := exhaustRecovery_timed found gaveUp
        obtain ⟨failed, untouched⟩ := markRunFailed_timed ((exhausted.clearLease .done).withSummary
          (some "external_outcome_unknown")) "external_outcome_unknown" now
        exact failed.behindEnds untouched
          ⟨kept.terminal, kept.started, kept.cancel, kept.created⟩ invocations
    · split at written
      · obtain ⟨converged, ran, done⟩ := map_ok written
        cases done
        exact (convergeTerminalAction_timed ran).behind ⟨rfl, rfl, rfl, rfl⟩ fun _ => rfl
      · split at written
        · cases written
          exact .quiet ⟨rfl, rfl, rfl, rfl⟩ fun _ => rfl
        · split at written
          · cases written
            exact .quiet ⟨rfl, rfl, rfl, rfl⟩ fun _ => rfl
          · split at written
            · cases written
              exact cancelled
            · exact reclaimRunning_timed written
  · split at written
    · cases written
      exact .quiet ⟨rfl, rfl, rfl, rfl⟩ fun _ => rfl
    · split at written
      · cases written
        exact cancelled
      · exact reclaimRunning_timed written

end Worker

/-! ## The execution store -/

section Execution
variable {cfg : Config} {memberships : List WorkspaceMembership} {now : Timestamp}
  {identity : ActionExecutionIdentity} {rows after : RunRows}

/-- What an execution request writes: the run is left alone. -/
structure ExecutionTimed (now : Timestamp) (rows after : RunRows) : Prop where
  kept : RunKept rows after
  invocations : ∀ k, InvocationTimed now (rows.invocation k) (after.invocation k)

theorem ExecutionTimed.timed {ending : Timestamp} (written : ExecutionTimed now rows after) :
    Timed ending now rows after :=
  .ofKept written.kept written.invocations

theorem ExecutionTimed.refl (rows : RunRows) : ExecutionTimed now rows rows :=
  ⟨.refl rows, fun _ => .of_eq rfl⟩

theorem ExecutionTimed.event (written : ExecutionTimed now rows after) (type : RunEventType)
    (intent : ActionIntent) (invocation : ToolInvocation) (errorCategory : Option String) :
    ExecutionTimed now rows (appendActionEvent after type intent invocation errorCategory) :=
  ⟨⟨written.kept.terminal, written.kept.started, written.kept.cancel, written.kept.created⟩,
    written.invocations⟩

/-- The intent and the invocation of a locked action written back. -/
theorem putExecution_timed {expected : ActionIntent → ToolInvocation → Bool}
    {locked : LockedInvocation} (held : Locked cfg identity rows expected locked)
    {intent : ActionIntent} {invocation : ToolInvocation}
    (here : InvocationTimed now (some locked.invocation) (some invocation)) :
    ExecutionTimed now rows (rows.putExecution identity locked.action intent invocation) := by
  refine ⟨⟨rfl, rfl, rfl, rfl⟩, invocations_put ?_⟩
  rwa [RunRows.invocation, held.found, Option.bind_some, held.invoked]

/-- An open invocation that stays open. -/
theorem InvocationTimed.stillOpen {first second : ToolInvocation}
    (same : second.finishedAt = first.finishedAt) :
    InvocationTimed now (some first) (some second) :=
  .inl (by simp [ToolInvocation.finished, same])

/-- An invocation that is ended with the start it had. -/
theorem InvocationTimed.ends {first second : ToolInvocation} (ended : second.finishedAt = some now)
    (same : second.startedAt = first.startedAt) : InvocationTimed now (some first) (some second) :=
  .inr ⟨first, second, rfl, rfl, ended, same⟩

theorem revokeAction_timed {action closed : ActionRows} {request : ApprovalRequest}
    (revoked : revokeAction action request now = .ok closed) :
    InvocationTimed now action.invocation closed.invocation := by
  unfold revokeAction at revoked
  dsimp only at revoked
  split at revoked
  next absent =>
    cases revoked
    exact .of_eq rfl
  next invocation invoked =>
    split at revoked
    · cases revoked
    split at revoked
    · cases revoked
    cases revoked
    rw [invoked]
    exact .ends rfl rfl

theorem prepareExecutionRows_timed {invocationId : UUID} {outcome : PrepareOutcome}
    (written : prepareExecutionRows cfg identity invocationId now memberships rows =
      .ok (after, outcome)) : ExecutionTimed now rows after := by
  unfold prepareExecutionRows at written
  split at written
  · cases written
  next action request bound =>
    have found := (lockBoundRows_ok bound).1
    have here : rows.invocation identity.actionIntentId = action.invocation := by
      rw [RunRows.invocation, found, Option.bind_some]
    split at written
    · obtain ⟨execution, -, done⟩ := map_ok written
      cases done
      exact .refl rows
    · split at written
      · obtain ⟨closed, revoked, done⟩ := map_ok written
        cases done
        exact ⟨⟨rfl, rfl, rfl, rfl⟩, invocations_put (here ▸ revokeAction_timed revoked)⟩
      · split at written
        · cases written
        split at written
        · cases written
          exact ⟨⟨rfl, rfl, rfl, rfl⟩, invocations_put (.of_eq here.symm)⟩
        · split at written
          · split at written
            · cases written
            split at written
            · cases written
            obtain ⟨execution, -, done⟩ := map_ok written
            cases done
            exact .refl rows
          · unfold consumeApproval at written
            split at written
            · cases written
            split at written
            · cases written
            split at written
            · cases written
            next unused =>
              split at written
              · cases written
              dsimp only at written
              split at written
              · cases written
              cases written
              refine ⟨⟨rfl, rfl, rfl, rfl⟩, invocations_put (.inl ?_)⟩
              rw [here, Option.not_isSome_iff_eq_none.mp unused]
              rfl

theorem beginSendRows_timed {result : SendAuthorization}
    (written : beginSendRows cfg identity now memberships rows = .ok (after, result)) :
    ExecutionTimed now rows after := by
  unfold beginSendRows at written
  split at written
  · cases written
  next action request invocation ran =>
    have held := lockInvocation_ok ran
    dsimp only at written
    split at written
    · obtain ⟨execution, -, done⟩ := map_ok written
      cases done
      exact putExecution_timed held (.ends rfl rfl)
    · obtain ⟨execution, -, done⟩ := map_ok written
      cases done
      refine ExecutionTimed.event ?_ _ _ _ _
      exact putExecution_timed held (.stillOpen rfl)

theorem markFailed_timed {expected : ActionIntent → ToolInvocation → Bool}
    {locked : LockedInvocation} (held : Locked cfg identity rows expected locked)
    (errorCategory : String) (evidence : Payload) (latencyMs : Int) :
    ExecutionTimed now rows
      (markFailed identity locked errorCategory evidence latencyMs now rows).2 := by
  refine ExecutionTimed.event ?_ _ _ _ _
  exact putExecution_timed held (.ends rfl rfl)

theorem markUnknown_timed {expected : ActionIntent → ToolInvocation → Bool}
    {locked : LockedInvocation} (held : Locked cfg identity rows expected locked)
    (evidence : Payload) (latencyMs : Int) :
    ExecutionTimed now rows (markUnknown identity locked evidence latencyMs now rows).2 := by
  refine ExecutionTimed.event ?_ _ _ _ _
  exact putExecution_timed held (.ends rfl rfl)

theorem beginReconciliationRows_timed {maxAttempts : Int}
    {result : ReconciliationAuthorization}
    (written : beginReconciliationRows cfg identity maxAttempts now rows = .ok (after, result)) :
    ExecutionTimed now rows after := by
  unfold beginReconciliationRows at written
  split at written
  · cases written
  next locked ran =>
    have held := lockInvocation_ok ran
    dsimp only at written
    split at written
    · obtain ⟨execution, -, done⟩ := map_ok written
      cases done
      exact markUnknown_timed held _ _
    · obtain ⟨execution, -, done⟩ := map_ok written
      cases done
      exact putExecution_timed held (.stillOpen rfl)

theorem authorizeResendRows_timed {expectedRecoveryAttempt : Int} {result : ResendAuthorization}
    (written : authorizeResendRows cfg identity expectedRecoveryAttempt now memberships rows =
      .ok (after, result)) : ExecutionTimed now rows after := by
  unfold authorizeResendRows at written
  split at written
  · cases written
  next locked ran =>
    have held := lockInvocation_ok ran
    split at written
    · dsimp only at written
      obtain ⟨execution, -, done⟩ := map_ok written
      cases done
      exact markFailed_timed held _ _ _
    · dsimp only at written
      obtain ⟨execution, -, done⟩ := map_ok written
      cases done
      exact putExecution_timed held (.stillOpen rfl)

theorem confirmSuccessRows_timed {confirmed : ConfirmedActionResult} {latencyMs : Int}
    {result : Unit}
    (written : confirmSuccessRows cfg identity confirmed latencyMs now rows = .ok (after, result)) :
    ExecutionTimed now rows after := by
  unfold confirmSuccessRows at written
  split at written
  · cases written
  next locked ran =>
    cases written
    refine ExecutionTimed.event ?_ _ _ _ _
    exact putExecution_timed (lockInvocation_ok ran) (.ends rfl rfl)

theorem confirmFailureRows_timed {errorCategory : String} {evidence : Payload} {latencyMs : Int}
    {result : Unit}
    (written : confirmFailureRows cfg identity errorCategory evidence latencyMs now rows =
      .ok (after, result)) : ExecutionTimed now rows after := by
  obtain ⟨locked, ran, done⟩ := map_ok written
  cases done
  exact markFailed_timed (lockInvocation_ok ran) _ _ _

theorem confirmOutcomeUnknownRows_timed {evidence : Payload} {latencyMs : Int} {result : Unit}
    (written : confirmOutcomeUnknownRows cfg identity evidence latencyMs now rows =
      .ok (after, result)) : ExecutionTimed now rows after := by
  obtain ⟨locked, ran, done⟩ := map_ok written
  cases done
  exact markUnknown_timed (lockInvocation_ok ran) _ _

end Execution

/-! ## Cancelling -/

section Cancelling
variable {tenant : TenantContext} {now : Timestamp} {rows after : RunRows}

/-- The end that `cancel_run` gives a run. -/
def cancelTime (run : Run) (now : Timestamp) : Timestamp := max now (run.startedAt.getD now)

theorem expireActiveRequest_quiet {k : UUID} {action : ActionRows} {request : ApprovalRequest}
    (found : rows.actions.get k = some action)
    (expired : expireActiveRequest tenant k action request rows = .ok after) :
    RunKept rows after ∧ SameInvocations rows after := by
  unfold expireActiveRequest at expired
  split at expired
  · cases expired
    exact ⟨⟨rfl, rfl, rfl, rfl⟩, sameInvocations_put found rfl⟩
  · split at expired
    · cases expired
      exact ⟨.refl _, fun _ => rfl⟩
    · cases expired

theorem cancelActiveIntent_quiet (tenant : TenantContext) (k requestId : UUID) (rows : RunRows) :
    RunKept rows (cancelActiveIntent tenant k requestId rows) ∧
      SameInvocations rows (cancelActiveIntent tenant k requestId rows) := by
  unfold cancelActiveIntent
  split
  · exact ⟨.refl _, fun _ => rfl⟩
  next action found => exact ⟨⟨rfl, rfl, rfl, rfl⟩, sameInvocations_put found rfl⟩

theorem cancelWaitingRun_timed (written : cancelWaitingRun tenant now rows = .ok after) :
    Timed (cancelTime rows.run now) now rows after := by
  unfold cancelWaitingRun at written
  split at written
  · cases written
  next k action rest active =>
    have found := (activeRequests_mem.mp (active ▸ List.mem_cons_self)).1
    split at written
    · cases written
    split at written
    · cases written
    next expired closed =>
      split at written
      · cases written
      cases written
      obtain ⟨first, sameFirst⟩ := expireActiveRequest_quiet found closed
      obtain ⟨second, sameSecond⟩ := cancelActiveIntent_quiet tenant k _ expired
      have kept := first.trans second
      refine ⟨kept.created, .inr ⟨rfl, kept.cancel, .inl kept.started⟩, fun j => .of_eq ?_⟩
      exact (sameSecond j).trans (sameFirst j)

theorem cancelRunRows_timed {allowOtherCreator : Bool} {result : RunCancellation}
    (fresh : rows.run.status = .queued → rows.run.startedAt = none)
    (written : cancelRunRows tenant allowOtherCreator now rows = .ok (after, result)) :
    Timed (cancelTime rows.run now) now rows after := by
  unfold cancelRunRows at written
  split at written
  · cases written
  split at written
  · cases written
  obtain ⟨closed, applied, done⟩ := map_ok written
  cases done
  unfold applyCancellation at applied
  split at applied
  · exact cancelWaitingRun_timed applied
  next queued =>
    unfold cancelQueuedRun at applied
    split at applied
    · cases applied
    cases applied
    refine ⟨rfl, .inr ⟨?_, rfl, .inl rfl⟩, fun _ => .of_eq rfl⟩
    simp [cancelTime, fresh queued, closeCancelled, RunRows.pushEvent]
  · split at applied
    · cases applied
      exact ⟨rfl, .inl rfl, fun _ => .of_eq rfl⟩
    · cases applied
      exact .refl rows
  all_goals
    cases applied
    exact .refl rows

end Cancelling
end Pathfinder
