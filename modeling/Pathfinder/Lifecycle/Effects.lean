import Pathfinder.Library.Journal
import Pathfinder.System

/-!
# What a step can do to one run

The abstract lifecycle: a run and its job move together along a handful of
controls, the rows of an action move along a handful of moves, and the event log
only grows. Every invariant of the stores is a case analysis over these, and
every store operation is shown to be one of them.
-/
namespace Pathfinder
open KeyedTable Journals

/-! ## Frames and the event log -/

/-- The columns of a run that no store rewrites. -/
def Run.identity (run : Run) :=
  (run.id, run.workspaceId, run.createdByUserId, run.conversationId, run.requestMessageId,
    run.mode, run.resumeDocumentId, run.requestIdentity, run.input, run.graphVersion)

/-- The columns of a job that no store rewrites. -/
def RunJob.identity (job : RunJob) :=
  (job.id, job.workspaceId, job.originatingActorUserId, job.runId, job.maxAttempts,
    job.createdAt)

/-- The event log and its counter. -/
def RunRows.log (rows : RunRows) : List RunEvent × Nat := (rows.events, rows.run.nextEventSeq)

/-- Events of these types were appended, numbered on from the counter. -/
def Appends (before after : List RunEvent × Nat) (types : List RunEventType) : Prop :=
  ∃ added : List RunEvent, after = (before.1 ++ added, before.2 + added.length) ∧
    NumberedFrom RunEvent.seq before.2 added ∧ added.map RunEvent.type = types

theorem Appends.none (log : List RunEvent × Nat) : Appends log log [] :=
  ⟨[], by simp, numberedFrom_nil, rfl⟩

theorem Appends.push {log current : List RunEvent × Nat} {rows : RunRows}
    {types : List RunEventType} (before : Appends log current types) (same : rows.log = current)
    (actorUserId : Option UUID) (type : RunEventType) (payload : Payload) :
    Appends log (rows.pushEvent actorUserId type payload).log (types ++ [type]) := by
  obtain ⟨added, log_eq, numbered, types_eq⟩ := before
  obtain ⟨events_eq, next_eq⟩ := Prod.mk.inj (same.trans log_eq)
  refine ⟨added ++ [⟨actorUserId, rows.run.nextEventSeq, type, payload⟩], ?_, ?_, ?_⟩
  · simp only [RunRows.log, RunRows.pushEvent, events_eq, next_eq, List.length_append,
      List.length_singleton, List.append_assoc, Nat.add_assoc]
  · exact numberedFrom_append numbered (numberedFrom_singleton next_eq)
  · simp [types_eq]

/-- The terminal events a change of status calls for. -/
def announced (before after : RunStatus) : List RunEventType :=
  if after = before then [] else after.terminalEvent.toList

/-- The log grew, and its terminal events announce the change of status. -/
def Logged (rows after : RunRows) : Prop :=
  ∃ types, Appends rows.log after.log types ∧
    types.filter RunEventType.terminal = announced rows.run.status after.run.status

/-- Events that neither end a run nor propose an action. -/
def Quiet (types : List RunEventType) : Prop :=
  types.filter (fun type => type.terminal || type == .actionProposed) = []

theorem Quiet.terminal {types : List RunEventType} (quiet : Quiet types) :
    types.filter RunEventType.terminal = [] := by
  simp only [Quiet, List.filter_eq_nil_iff, Bool.or_eq_true, not_or] at quiet ⊢
  exact fun type member => (quiet type member).1

theorem Quiet.unproposed {types : List RunEventType} (quiet : Quiet types) :
    RunEventType.actionProposed ∉ types := by
  intro member
  have excluded := List.filter_eq_nil_iff.mp quiet _ member
  simp at excluded

theorem Quiet.append {types others : List RunEventType} (first : Quiet types)
    (second : Quiet others) : Quiet (types ++ others) := by
  unfold Quiet at *
  rw [List.filter_append, first, second, List.append_nil]

/-- The proposal events of an action. -/
def RunRows.proposals (rows : RunRows) (actionIntentId : UUID) : List RunEvent :=
  eventsOf rows .actionProposed actionIntentId

/-- The proposal events are those that were there. -/
def Unproposed (rows after : RunRows) : Prop := ∀ k, after.proposals k = rows.proposals k

theorem Unproposed.refl (rows : RunRows) : Unproposed rows rows := fun _ => rfl

theorem Unproposed.trans {rows middle after : RunRows} (first : Unproposed rows middle)
    (second : Unproposed middle after) : Unproposed rows after :=
  fun k => (second k).trans (first k)

/-- An event of another type leaves the proposal events as they are. -/
theorem Unproposed.push {rows middle moved : RunRows} {type : RunEventType}
    (before : Unproposed rows middle) (same : moved.events = middle.events)
    (other : type ≠ .actionProposed) (actorUserId : Option UUID) (payload : Payload) :
    Unproposed rows (moved.pushEvent actorUserId type payload) := by
  intro k
  rw [← before k]
  simp [RunRows.proposals, eventsOf, RunRows.pushEvent, same, other]

theorem Appends.unproposed {rows after : RunRows} {types : List RunEventType}
    (appended : Appends rows.log after.log types) (silent : RunEventType.actionProposed ∉ types) :
    Unproposed rows after := by
  intro k
  obtain ⟨added, log_eq, -, rfl⟩ := appended
  have events_eq : after.events = rows.events ++ added := (Prod.mk.inj log_eq).1
  have others : added.filter (fun event => event.type = .actionProposed ∧
      event.payload.get? "action_intent_id" = some (.id k)) = [] := by
    simp only [List.filter_eq_nil_iff, decide_eq_true_eq]
    intro event member proposed
    exact silent (List.mem_map.mpr ⟨event, member, proposed.1⟩)
  simp only [RunRows.proposals, eventsOf, events_eq, List.filter_append, others, List.append_nil]

/-! ## The job and the run -/

/-- The status and the cancellation request of a run stay. -/
def SameCourse (run after : Run) : Prop :=
  after.status = run.status ∧ after.cancelRequestedAt = run.cancelRequestedAt

/-- The lease columns are set exactly while the job is leased. -/
structure LeaseFields (job : RunJob) : Prop where
  set : job.status = .leased →
    job.leasedBy.isSome ∧ job.ownerToken.isSome ∧ job.leaseExpiresAt.isSome
  unset : job.status ≠ .leased →
    job.leasedBy = none ∧ job.ownerToken = none ∧ job.leaseExpiresAt = none

/-- A request of this identity belongs to the run. -/
def RunRows.holdsRequest (rows : RunRows) (requestId : UUID) : Prop :=
  ∃ k action request, rows.actions.get k = some action ∧ action.request = some request ∧
    request.id = requestId

/-- A job with attempts left, or one whose action is recoverable or done: what
the operations that requeue a job on their own account see first. -/
def Requeueable (cfg : Config) (rows : RunRows) : Prop :=
  rows.job.attempt < rows.job.maxAttempts ∨ recoverable cfg rows = true ∨
    actionSucceeded rows = true

/-- The lease is given up and the job takes `status`. -/
def Settled (job after : RunJob) (status : JobStatus) : Prop :=
  ∃ availableAt summary, after =
    { clearLease job status with availableAt := availableAt, errorSummary := summary }

/-- The run ends, or has ended before. -/
def EndsAs (run after : Run) (targets : List RunStatus) : Prop :=
  after.cancelRequestedAt = run.cancelRequestedAt ∧
  ((run.status.terminal = true ∧ after.status = run.status) ∨
    (run.status.terminal = false ∧ after.status ∈ targets ∧ after.status.terminal = true))

/-- Of the actions only one that was executing has changed, to an ended one. -/
def SettlesOnly (actions after : Table UUID ActionRows) : Prop :=
  ∀ k, after.get k = actions.get k ∨ ∃ action later, actions.get k = some action ∧
    after.get k = some later ∧ action.intent.status = .executing ∧
    later.intent.status.unsuccessful = true ∧ later.request = action.request

/-- The checks of `wait_for_approval` that lead to its pause. -/
structure Pauses (claimed : ClaimedJob) (approvalRequestId : UUID) (now : Timestamp)
    (rows : RunRows) : Prop where
  held : activeLeasePredicates rows.job claimed now = true
  legacy : rows.run.mode.legacy = true
  running : rows.run.status = .running
  request : ∃ found request, rows.findRequest approvalRequestId = some found ∧
    found.2.request = some request ∧
    if rows.job.resumeApprovalRequestId = none then
      claimed.resumeApprovalRequestId = none ∧ request.status = .pending
    else
      rows.job.resumeApprovalRequestId = some approvalRequestId ∧
        claimed.resumeApprovalRequestId = some approvalRequestId ∧
        request.status.gate6Resume = true

/-- Execution of an action of the run has begun. -/
def RunRows.begun (rows : RunRows) : Prop :=
  ∃ k action, rows.actions.get k = some action ∧ action.intent.status.begun = true

/-- `complete` has an output to store, or finds that the membership is gone. -/
def Publishes (cfg : Config) (memberships : List WorkspaceMembership) (job : ClaimedJob)
    (run : Run) (result : RunOutput) (published : Except StoreError RunOutput) : Prop :=
  ∃ receipt, resumePublication cfg memberships job run result published = .ok receipt ∧
    ∀ output, receipt = some output → ∃ dump, validatedOutput cfg run output = .ok dump

/-- The tenant resolved for a claimed job, if any, is the one of the job. -/
def resolvesTo (job : ClaimedJob) (resolvedTenant : Option TenantContext) : Prop :=
  (resolvedTenant.any fun tenant => tenant.workspaceId != job.workspaceId ||
    tenant.actorUserId != job.originatingActorUserId) = false

/-- When a request of the worker or the reclaimer ends a run that has not ended:
the checks that lead to the branches that do. -/
def Ends (cfg : Config) (memberships : List WorkspaceMembership) (op : Op) (rows : RunRows) :
    Prop :=
  match op with
  | .prepare job resolvedTenant now => resolvesTo job resolvedTenant ∧
      activeLeasePredicates rows.job job now = true ∧
      (rows.begun ∨ membershipActive memberships job.workspaceId job.originatingActorUserId = false ∨
        rows.run.graphVersion ≠ job.graphVersion ∨ cfg.executable rows.run.graphVersion = false ∨
        rows.run.cancelRequestedAt ≠ none)
  | .complete job result published now => activeLeasePredicates rows.job job now = true ∧
      (rows.run.cancelRequestedAt ≠ none ∨ (rows.run.status = .running ∧
        Publishes cfg memberships job rows.run result published))
  | .fail _ job errorCategory now => activeLeasePredicates rows.job job now = true ∧
      validErrorCategory cfg errorCategory = true
  | .cancel _ job reason now => activeLeasePredicates rows.job job now = true ∧
      validErrorCategory cfg reason = true
  | .requeue _ job errorCategory now => activeLeasePredicates rows.job job now = true ∧
      validErrorCategory cfg errorCategory = true ∧ rows.run.cancelRequestedAt ≠ none ∧
      rows.run.status = .running
  | .reclaim _ locked now _ => stale cfg rows now = true ∧ locked rows.job.id = false ∧
      (rows.begun ∨ rows.run.cancelRequestedAt ≠ none ∨
        rows.job.maxAttempts ≤ rows.job.attempt ∨
        (rows.run.status = .waitingApproval ∧ rows.job.resumeApprovalRequestId = none))
  | _ => False

/-- The request is `cancel_run`. -/
def Op.cancelsRun : Op → Bool
  | .cancelRun .. => true
  | _ => false

/-- How a step moves the job and the run of `rows`. -/
inductive Control (cfg : Config) (memberships : List WorkspaceMembership) (op : Op)
    (rows after : RunRows) : Prop
  | keep (job : after.job = rows.job) (run : SameCourse rows.run after.run)
  | extend (leased : rows.job.status = .leased) (expiresAt : Timestamp)
      (job : after.job = { rows.job with leaseExpiresAt := some expiresAt })
      (run : SameCourse rows.run after.run)
  | claim (locked : UUID → Bool) (workerId : String) (now : Timestamp)
      (leaseDuration : Timedelta) (ownerToken : UUID)
      (asked : op = .claim locked workerId now leaseDuration ownerToken)
      (due : claimable cfg rows now = true)
      (job : after.job = leaseJob rows.job workerId ownerToken (now + leaseDuration))
      (run : SameCourse rows.run after.run)
  | start (leased : rows.job.status = .leased)
      (before : rows.run.status = .queued ∨ rows.run.status = .waitingApproval)
      (running : after.run.status = .running)
      (uncancelled : rows.run.cancelRequestedAt = none)
      (cancel : after.run.cancelRequestedAt = none) (job : after.job = rows.job)
  | park (claimed : ClaimedJob) (approvalRequestId : UUID) (now : Timestamp)
      (asked : op = .waitForApproval claimed approvalRequestId now)
      (pauses : Pauses claimed approvalRequestId now rows)
      (waiting : after.run.status = .waitingApproval)
      (cancel : after.run.cancelRequestedAt = rows.run.cancelRequestedAt)
      (job : Settled rows.job after.job .done)
  | requeue (leased : rows.job.status = .leased) (left : Requeueable cfg rows)
      (job : Settled rows.job after.job .queued) (run : SameCourse rows.run after.run)
      (actions : after.actions = rows.actions)
  | handBack (retryDelay : RetryDelayPolicy) (claimed : ClaimedJob) (errorCategory : String)
      (now : Timestamp) (asked : op = .requeue retryDelay claimed errorCategory now)
      (held : activeLeasePredicates rows.job claimed now = true)
      (job : Settled rows.job after.job .queued) (run : SameCourse rows.run after.run)
      (actions : after.actions = rows.actions)
      (kept : ¬ (rows.run.cancelRequestedAt ≠ none ∧ rows.run.status = .running ∧
        (rows.actions.any fun action => action.intent.status == .executing) = false))
      (valid : validErrorCategory cfg errorCategory = true)
  | finish (leased : rows.job.status = .leased) (job : Settled rows.job after.job .done)
      (run : EndsAs rows.run after.run [.completed, .failed, .cancelled])
      (actions : SettlesOnly rows.actions after.actions)
      (cause : rows.run.status.terminal = false → Ends cfg memberships op rows)
      (completes : after.run.status = .completed →
        rows.run.status = .running ∨ rows.run.status = .completed)
  | bury (leased : rows.job.status = .leased) (job : Settled rows.job after.job .dead)
      (run : EndsAs rows.run after.run [.failed])
      (actions : SettlesOnly rows.actions after.actions)
      (cause : rows.run.status.terminal = false → Ends cfg memberships op rows)
  | closeQueued (asked : op.cancelsRun = true) (before : rows.run.status = .queued)
      (ended : after.run.status = .cancelled)
      (cancel : after.run.cancelRequestedAt = rows.run.cancelRequestedAt)
      (job : Settled rows.job after.job .done) (actions : after.actions = rows.actions)
  | closeWaiting (asked : op.cancelsRun = true) (before : rows.run.status = .waitingApproval)
      (ended : after.run.status = .cancelled)
      (cancel : after.run.cancelRequestedAt = rows.run.cancelRequestedAt)
      (job : Settled rows.job after.job .done)
      (closed : ∀ k action, after.actions.get k = some action → action.request.isSome →
        action.intent.status.waiting = false)
  | wake (dormant : rows.job.status = .done) (waiting : rows.run.status = .waitingApproval)
      (requestId : UUID) (stored : rows.holdsRequest requestId) (availableAt : Timestamp)
      (job : after.job = { rows.job with
        status := .queued, attempt := 0, availableAt := availableAt, leasedBy := none,
        ownerToken := none, leaseExpiresAt := none, errorSummary := none,
        resumeApprovalRequestId := some requestId })
      (run : SameCourse rows.run after.run)
  | relink (active : rows.job.status = .queued ∨ rows.job.status = .leased)
      (waiting : rows.run.status = .waitingApproval) (requestId : UUID)
      (stored : rows.holdsRequest requestId)
      (job : after.job = { rows.job with resumeApprovalRequestId := some requestId })
      (run : SameCourse rows.run after.run)
  | flag (running : rows.run.status = .running) (status : after.run.status = .running)
      (cancel : after.run.cancelRequestedAt.isSome) (job : after.job = rows.job)

/-! ## The rows of one action -/

/-- An open request expires; a closed one stays. -/
def Closes (request closed : ApprovalRequest) : Prop :=
  (request.status.open? = false ∧ closed = request) ∨
  (request.status.open? = true ∧ closed.facts = request.facts ∧ closed.status = .expired ∧
    closed.version = request.version + 1)

/-- Nothing was sent for the invocation, and nothing will be. -/
def Aborts (invocation aborted : Option ToolInvocation) : Prop :=
  aborted = invocation ∨
  ∃ before after, invocation = some before ∧ aborted = some after ∧ before.status = .prepared ∧
    after.facts = before.facts ∧ after.status = .failed ∧ after.attempt = before.attempt

/-- The rows the identity names can be locked in the state that is expected. -/
def RunRows.locks (cfg : Config) (identity : ActionExecutionIdentity)
    (expected : ActionIntent → ToolInvocation → Bool) (rows : RunRows)
    (locked : LockedInvocation) : Prop :=
  ∃ missing changed, lockInvocation cfg identity missing changed expected rows = .ok locked

/-- The requests that record a failed or unknown outcome of an executing action
without looking at the job of its run: the checks each of them makes first. -/
def RecordsFailure (cfg : Config) (memberships : List WorkspaceMembership) (op : Op)
    (rows : RunRows) : Prop :=
  match op with
  | .confirmFailure identity errorCategory _ latencyMs _ =>
    ¬ (errorCategory = "" ∨ latencyMs < 0) ∧
      ∃ locked, rows.locks cfg identity bothExecuting locked
  | .confirmOutcomeUnknown identity _ latencyMs _ =>
    ¬ latencyMs < 0 ∧ ∃ locked, rows.locks cfg identity bothExecuting locked
  | .beginReconciliation identity _ =>
    ∃ locked, rows.locks cfg identity
        (fun intent invocation => bothExecuting intent invocation && 1 ≤ invocation.attempt)
        locked ∧
      cfg.actionRecoveryMaxAttempts ≤ locked.action.intent.recoveryAttempts
  | .authorizeResend identity expectedRecoveryAttempt _ =>
    ¬ expectedRecoveryAttempt < 1 ∧
      (∃ locked, rows.locks cfg identity
        (fun intent invocation => bothExecuting intent invocation &&
          intent.recoveryAttempts == expectedRecoveryAttempt) locked) ∧
      (resendRefusal memberships identity rows.run).isSome
  | _ => False

/-- The evidence of a failure says what the request that recorded it found. -/
def Op.failsWith (op : Op) (actionIntentId : UUID) (evidence : Option Payload) : Prop :=
  (∃ identity errorCategory found latencyMs now,
    op = .confirmFailure identity errorCategory found latencyMs now ∧
    identity.actionIntentId = actionIntentId ∧ evidence = some found) ∨
  ∃ identity expectedRecoveryAttempt now,
    op = .authorizeResend identity expectedRecoveryAttempt now ∧
    identity.actionIntentId = actionIntentId

/-- How a step moves the rows of one action of `rows`. -/
inductive ActionMove (cfg : Config) (memberships : List WorkspaceMembership) (op : Op)
    (rows : RunRows) : ActionRows → ActionRows → Prop
  | decide {action : ActionRows} {request : ApprovalRequest}
      {membership : WorkspaceMembership} (command : ApprovalDecisionCommand)
      (decisionId : UUID) (asked : op = .decide command decisionId)
      (named : action.intent.id = command.actionIntentId)
      (requested : action.request = some request) (pending : request.status = .pending)
      (undecided : action.decisions = []) (inTime : command.now < request.expiresAt)
      (found : findMembership memberships command.tenant.workspaceId
        command.tenant.actorUserId = some membership)
      (active : membership.revokedAt = none)
      (eligible : membership.role = .reviewer ∨ membership.role = .admin)
      (waiting : rows.run.status = .waitingApproval) :
      ActionMove cfg memberships op rows action
        { action with
          request := some { request with
            status := command.decision.target, version := request.version + 1 }
          decisions := [decisionOf command request.id decisionId] }
  | expire {action : ActionRows} {request closed : ApprovalRequest}
      (requested : action.request = some request) (due : request.status.open? = true)
      (facts : closed.facts = request.facts) (expired : closed.status = .expired)
      (version : closed.version = request.version + 1)
      (live : rows.run.status.terminal = false) :
      ActionMove cfg memberships op rows action { action with request := some closed }
  | withdraw {action : ActionRows} {request closed : ApprovalRequest} {intent : ActionIntent}
      {invocation : Option ToolInvocation}
      (requested : action.request = some request) (closes : Closes request closed)
      (facts : intent.facts = action.intent.facts)
      (recovery : intent.recoveryAttempts = action.intent.recoveryAttempts)
      (unbegun : action.intent.status.begun = false) (cancelled : intent.status = .cancelled)
      (aborts : Aborts action.invocation invocation) :
      ActionMove cfg memberships op rows action
        { action with request := some closed, intent := intent, invocation := invocation }
  | consume {action : ActionRows} {request : ApprovalRequest} (now : Timestamp)
      (invocationId : UUID) (requested : action.request = some request)
      (approved : request.status = .approved) (inTime : now < request.expiresAt)
      (proposed : action.intent.status = .proposed) (fresh : action.invocation = none)
      (running : rows.run.status = .running)
      (uncancelled : rows.run.cancelRequestedAt = none) :
      ActionMove cfg memberships op rows action
        { action with
          intent := { action.intent with status := .authorized }
          request := some { request with
            status := .consumed, consumedAt := some now, version := request.version + 1 }
          invocation := some (preparedInvocation action.intent invocationId) }
  | send {action : ActionRows} {request : ApprovalRequest} {invocation : ToolInvocation}
      (identity : ActionExecutionIdentity) (now : Timestamp) (asked : op = .beginSend identity now)
      (named : action.intent.id = identity.actionIntentId) (requested : action.request = some request)
      (consumed : request.status = .consumed) (invoked : action.invocation = some invocation)
      (authorized : action.intent.status = .authorized)
      (prepared : invocation.status = .prepared) (unsent : invocation.attempt = 0)
      (running : rows.run.status = .running) :
      ActionMove cfg memberships op rows action
        { action with
          intent := { action.intent with status := .executing }
          invocation := some { invocation with
            status := .executing, attempt := 1, startedAt := some now } }
  | reconcile {action : ActionRows} {invocation : ToolInvocation}
      (identity : ActionExecutionIdentity) (now : Timestamp)
      (asked : op = .beginReconciliation identity now)
      (named : action.intent.id = identity.actionIntentId)
      (invoked : action.invocation = some invocation)
      (executing : action.intent.status = .executing)
      (left : action.intent.recoveryAttempts < cfg.actionRecoveryMaxAttempts) :
      ActionMove cfg memberships op rows action
        { action with
          intent := { action.intent with
            recoveryAttempts := action.intent.recoveryAttempts + 1 }
          invocation := some invocation }
  | resend {action : ActionRows} {invocation : ToolInvocation}
      (identity : ActionExecutionIdentity) (expectedRecoveryAttempt : Int) (now : Timestamp)
      (asked : op = .authorizeResend identity expectedRecoveryAttempt now)
      (named : action.intent.id = identity.actionIntentId)
      (current : action.intent.recoveryAttempts = expectedRecoveryAttempt)
      (invoked : action.invocation = some invocation)
      (executing : action.intent.status = .executing)
      (sent : invocation.status = .executing) :
      ActionMove cfg memberships op rows action
        { action with invocation := some { invocation with attempt := invocation.attempt + 1 } }
  | succeed {action : ActionRows} {invocation settled : ToolInvocation}
      (identity : ActionExecutionIdentity) (result : ConfirmedActionResult) (latencyMs : Int)
      (now : Timestamp) (asked : op = .confirmSuccess identity result latencyMs now)
      (named : action.intent.id = identity.actionIntentId)
      (invoked : action.invocation = some invocation)
      (executing : action.intent.status = .executing) (sent : invocation.status = .executing)
      (invocationFacts : settled.facts = invocation.facts)
      (attempt : settled.attempt = invocation.attempt) (agrees : settled.status = .succeeded) :
      ActionMove cfg memberships op rows action
        { action with
          intent := { action.intent with
            status := .succeeded, result := some result.externalRef,
            evidence := some (successEvidence action.intent result) }
          invocation := some settled }
  | settle {action : ActionRows} {invocation settled : ToolInvocation} {intent : ActionIntent}
      (invoked : action.invocation = some invocation)
      (executing : action.intent.status = .executing)
      (sent : invocation.status = .executing)
      (facts : intent.facts = action.intent.facts)
      (recovery : intent.recoveryAttempts = action.intent.recoveryAttempts)
      (ended : intent.status.unsuccessful = true)
      (invocationFacts : settled.facts = invocation.facts)
      (attempt : settled.attempt = invocation.attempt)
      (agrees : some settled.status = intent.status.invocationStatus)
      (failure : intent.status = .failed → op.failsWith action.intent.id intent.evidence)
      (cause : rows.job.status = .queued → RecordsFailure cfg memberships op rows) :
      ActionMove cfg memberships op rows action
        { action with intent := intent, invocation := some settled }

/-- The rows a proposal inserts. -/
def proposedRows (facts : ProposalFacts) (requestId : UUID) (createdAt : Timestamp) :
    ActionRows :=
  { intent := proposedIntent facts
    request := some (pendingRequest facts requestId createdAt)
    decisions := [], invocation := none }

/-- The request proposes this action, on its own or in the place of another. -/
def Op.proposes (op : Op) (command : PrepareActionCommand) (requestId : UUID)
    (createdAt : Timestamp) : Prop :=
  op = .prepareAction command requestId createdAt ∨
  ∃ superseding, op = .supersedeAction superseding requestId createdAt ∧
    superseding.asPrepareCommand = command

/-- The proposal is the first of its run, or follows on an action it retires. -/
def Succeeds (rows after : RunRows) (command : PrepareActionCommand) : Prop :=
  command.actionRevision = initialActionRevision ∨
  ∃ k old retired, rows.actions.get k = some old ∧ old.intent.status.waiting = true ∧
    after.actions.get k = some retired ∧ retired.intent.status = .cancelled ∧
    command.actionRevision = old.intent.actionRevision + 1

/-- What a step does to one action of `rows`: nothing, one move, or its proposal. -/
inductive Deed (cfg : Config) (memberships : List WorkspaceMembership) (op : Op)
    (rows after : RunRows) (k : UUID) : Prop
  | keep (same : after.actions.get k = rows.actions.get k)
      (silent : after.proposals k = rows.proposals k)
  | move {action moved : ActionRows} (found : rows.actions.get k = some action)
      (moves : ActionMove cfg memberships op rows action moved)
      (stored : after.actions.get k = some moved)
      (silent : after.proposals k = rows.proposals k)
  | propose (command : PrepareActionCommand) (requestId : UUID) (createdAt : Timestamp)
      (asked : op.proposes command requestId createdAt) (named : command.actionProposalId = k)
      (absent : rows.actions.get k = none) (running : rows.run.status = .running)
      (sameRun : rows.run.id = command.runId ∧
        rows.run.workspaceId = command.tenant.workspaceId ∧
        rows.run.createdByUserId = command.tenant.actorUserId)
      (unused : ∀ j action, rows.actions.get j = some action →
        logicalKeyTaken (deriveFacts cfg.digests command) action.intent = false)
      (next : Succeeds rows after command)
      (stored : after.actions.get k =
        some (proposedRows (deriveFacts cfg.digests command) requestId createdAt))
      (announced : (after.proposals k).length = 1)

/-- What a step does to the actions of `rows`. -/
def Deeds (cfg : Config) (memberships : List WorkspaceMembership) (op : Op)
    (rows after : RunRows) : Prop := ∀ k, Deed cfg memberships op rows after k

/-- What one step can do to the rows of a run. -/
structure Effect (cfg : Config) (memberships : List WorkspaceMembership) (op : Op)
    (rows after : RunRows) : Prop where
  run_frame : after.run.identity = rows.run.identity
  job_frame : after.job.identity = rows.job.identity
  control : Control cfg memberships op rows after
  deeds : Deeds cfg memberships op rows after
  logged : Logged rows after

/-! ## The actions of a step -/

section Deeds
variable {cfg : Config} {memberships : List WorkspaceMembership} {op : Op}
  {rows after : RunRows}

theorem deeds_idle (actions : after.actions = rows.actions) (silent : Unproposed rows after) :
    Deeds cfg memberships op rows after :=
  fun k => .keep (by rw [actions]) (silent k)

/-- One action moves, the others stay. -/
theorem deeds_moveOnly {k : UUID} {action moved : ActionRows}
    (found : rows.actions.get k = some action)
    (moves : ActionMove cfg memberships op rows action moved)
    (stored : after.actions.get k = some moved)
    (others : ∀ j, j ≠ k → after.actions.get j = rows.actions.get j)
    (silent : Unproposed rows after) : Deeds cfg memberships op rows after := by
  intro j
  by_cases here : j = k
  · subst here
    exact .move found moves stored (silent j)
  · exact .keep (others j here) (silent j)

theorem deeds_move {k : UUID} {action moved : ActionRows}
    (found : rows.actions.get k = some action)
    (moves : ActionMove cfg memberships op rows action moved)
    (written : after.actions = rows.actions.put k moved) (silent : Unproposed rows after) :
    Deeds cfg memberships op rows after :=
  deeds_moveOnly found moves (by rw [written, Table.put_get_self])
    (fun j different => by rw [written, Table.put_get_of_ne _ _ different]) silent

end Deeds
end Pathfinder
