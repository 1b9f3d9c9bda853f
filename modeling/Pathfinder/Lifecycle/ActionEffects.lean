import Pathfinder.Lifecycle.Effects

/-!
# Approvals, proposals and executions as effects

The operations on actions never touch the job, except that a decision or an
expiry wakes it, and a cancellation of the run closes it.
-/
namespace Pathfinder
open KeyedTable

section Operations
variable {cfg : Config} {memberships : List WorkspaceMembership} {op : Op}
  {rows after : RunRows}

/-- An operation that leaves the job and the course of the run alone. -/
theorem quiet_effect {types : List RunEventType} (frame : after.run.identity = rows.run.identity)
    (course : SameCourse rows.run after.run) (job : after.job = rows.job)
    (deeds : Deeds cfg memberships op rows after)
    (appended : Appends rows.log after.log types)
    (quiet : types.filter RunEventType.terminal = []) : Effect cfg memberships op rows after := by
  refine ⟨frame, by rw [job], .keep job course, deeds, types, appended, ?_⟩
  rw [quiet, course.1]
  exact (if_pos rfl).symm

theorem same_effect (rows : RunRows) : Effect cfg memberships op rows rows :=
  quiet_effect rfl ⟨rfl, rfl⟩ rfl (deeds_idle rfl (.refl _)) (.none _) rfl

/-! ## Run events -/

theorem recordRetrieved_effect (actorUserId : UUID) (payload : Payload) :
    Effect cfg memberships op rows (rows.pushEvent (some actorUserId) .ragRetrieved payload) :=
  quiet_effect rfl ⟨rfl, rfl⟩ rfl
    (deeds_idle rfl ((Unproposed.refl _).push rfl (by decide) _ _))
    ((Appends.none _).push rfl _ _ _) rfl

/-! ## Cancelling a run -/

/-- Closing the open request of a waiting run. -/
theorem expireActiveRequest_ok {tenant : TenantContext} {k : UUID} {action : ActionRows}
    {request : ApprovalRequest} (found : rows.actions.get k = some action)
    (requested : action.request = some request)
    (ran : expireActiveRequest tenant k action request rows = .ok after) :
    after.run.identity = rows.run.identity ∧ SameCourse rows.run after.run ∧
      after.job = rows.job ∧ (∃ types, Appends rows.log after.log types ∧ Quiet types) ∧
      ∃ closed, Closes request closed ∧
        after.actions.get k = some { action with request := some closed } ∧
        ∀ j, j ≠ k → after.actions.get j = rows.actions.get j := by
  unfold expireActiveRequest at ran
  split at ran
  next due =>
    cases ran
    refine ⟨rfl, ⟨rfl, rfl⟩, rfl, ⟨[.approvalExpired], (Appends.none _).push rfl _ _ _, rfl⟩,
      { request with status := .expired, version := request.version + 1 },
      .inr ⟨due, rfl, rfl, rfl⟩, Table.put_get_self _ _ _, ?_⟩
    exact fun j different => Table.put_get_of_ne _ _ different
  next closed =>
    split at ran
    · cases ran
      refine ⟨rfl, ⟨rfl, rfl⟩, rfl, ⟨[], .none _, rfl⟩, request, .inl ⟨by simpa using closed, rfl⟩,
        ?_, fun _ _ => rfl⟩
      rw [← requested]
      exact found
    · cases ran

theorem activeRequests_mem {k : UUID} {action : ActionRows} :
    (k, action) ∈ activeRequests rows ↔
      rows.actions.get k = some action ∧ action.intent.status.waiting = true ∧
        action.request.isSome = true := by
  simp [activeRequests, List.mem_filter, Table.mem_scan]

theorem cancelWaitingRun_effect {tenant : TenantContext} {now : Timestamp}
    (asked : op.cancelsRun = true) (waiting : rows.run.status = .waitingApproval)
    (single : (activeRequests rows).length ≤ 1)
    (ran : cancelWaitingRun tenant now rows = .ok after) :
    Effect cfg memberships op rows after := by
  unfold cancelWaitingRun at ran
  split at ran
  · cases ran
  next k action rest active =>
    have rest_nil : rest = [] := by
      rw [active] at single
      exact List.eq_nil_of_length_eq_zero (by simpa using single)
    obtain ⟨found, proposed, -⟩ := activeRequests_mem.mp (active ▸ List.mem_cons_self)
    split at ran
    · cases ran
    next request requested =>
      split at ran
      · cases ran
      next expired ran' =>
        split at ran
        · cases ran
        cases ran
        obtain ⟨frame, course, job, ⟨types, appended, quiet⟩, closed, closes, stored, others⟩ :=
          expireActiveRequest_ok found requested ran'
        have cancelled : cancelActiveIntent tenant k request.id expired =
            (expired.putAction k
              { action with
                request := some closed
                intent := { action.intent with status := .cancelled } }).pushEvent
              (some tenant.actorUserId) .actionCancelled
              [("action_intent_id", .id action.intent.id), ("approval_request_id", .id request.id),
                ("reason", .str "user_requested")] := by
          simp only [cancelActiveIntent, stored]
        rw [cancelled]
        have unbegun : action.intent.status.begun = false := by
          cases status : action.intent.status <;>
            simp_all [ActionIntentStatus.waiting, ActionIntentStatus.begun]
        have silent : Unproposed rows expired := appended.unproposed quiet.unproposed
        have moves : ActionMove cfg memberships op rows action
            { action with
              request := some closed
              intent := { action.intent with status := .cancelled } } :=
          .withdraw requested closes rfl rfl unbegun rfl (.inl rfl)
        have settled (j : UUID) (different : j ≠ k) :
            (expired.actions.put k
              { action with
                request := some closed
                intent := { action.intent with status := .cancelled } }).get j =
              rows.actions.get j := by
          rw [Table.put_get_of_ne _ _ different, others j different]
        refine ⟨frame, ?_, .closeWaiting asked waiting rfl course.2
            ⟨rows.job.availableAt, none, ?_⟩ ?_,
          deeds_moveOnly found moves (Table.put_get_self _ _ _) settled
            ((silent.push rfl (by decide) _ _).push rfl (by decide) _ _),
          types ++ [RunEventType.actionCancelled] ++ [RunEventType.runCancelled],
          Appends.push (appended.push (by rfl) _ _ _) (by rfl) _ _ _, ?_⟩
        · simp [RunJob.identity, RunRows.pushEvent, closeCancelled, RunRows.putAction, job]
        · simp [RunRows.pushEvent, closeCancelled, RunRows.putAction, job, clearLease]
        · intro j other kept requestedThere
          by_cases same : j = k
          · subst same
            have written := Table.put_get_self expired.actions j
              { action with
                request := some closed
                intent := { action.intent with status := .cancelled } }
            cases written.symm.trans kept
            rfl
          · have before : rows.actions.get j = some other := by
              rw [← others j same]
              exact (Table.put_get_of_ne expired.actions _ same).symm.trans kept
            by_contra stillWaiting
            have member : (j, other) ∈ activeRequests rows :=
              activeRequests_mem.mpr ⟨before, by simpa using stillWaiting, requestedThere⟩
            rw [active, rest_nil, List.mem_singleton] at member
            cases member
            exact same rfl
        · rw [List.filter_append, List.filter_append, quiet.terminal, waiting]
          rfl

theorem cancelQueuedRun_effect {tenant : TenantContext} {now : Timestamp}
    (asked : op.cancelsRun = true) (queued : rows.run.status = .queued)
    (ran : cancelQueuedRun tenant now rows = .ok after) :
    Effect cfg memberships op rows after := by
  unfold cancelQueuedRun at ran
  split at ran
  · cases ran
  cases ran
  refine ⟨rfl, rfl, .closeQueued asked queued rfl rfl ⟨rows.job.availableAt, none, rfl⟩ rfl,
    deeds_idle rfl ((Unproposed.refl _).push rfl (by decide) _ _),
    [.runCancelled], (Appends.none _).push rfl _ _ _, ?_⟩
  rw [queued]
  rfl

theorem cancelRunRows_effect {tenant : TenantContext} {allowOtherCreator : Bool}
    {now : Timestamp} {result : RunCancellation} (asked : op.cancelsRun = true)
    (ran : cancelRunRows tenant allowOtherCreator now rows = .ok (after, result)) :
    Effect cfg memberships op rows after := by
  unfold cancelRunRows at ran
  split at ran
  · cases ran
  next single =>
    split at ran
    · cases ran
    obtain ⟨closed, applied, written⟩ := map_ok ran
    cases written
    unfold applyCancellation at applied
    split at applied
    next waiting => exact cancelWaitingRun_effect asked waiting (by omega) applied
    next queued => exact cancelQueuedRun_effect asked queued applied
    next running =>
      split at applied
      · cases applied
        refine ⟨rfl, rfl, .flag running running rfl rfl, deeds_idle rfl (.refl _), [], .none _, ?_⟩
        exact (if_pos rfl).symm
      · cases applied
        exact same_effect rows
    all_goals
      cases applied
      exact same_effect rows

/-! ## Proposing -/

/-- The key of an action is the identity of its intent. -/
def Keyed (rows : RunRows) : Prop :=
  ∀ k action, rows.actions.get k = some action → action.intent.id = k

/-- A proposal that conflicts with no stored intent conflicts with none of its run. -/
theorem unconflicting_stored {db : Db} {runId : UUID} (stored : db.runs.get runId = some rows)
    {p : ActionRows → Bool} (unconflicting : db.allActions.any p = false) {j : UUID}
    {action : ActionRows} (found : rows.actions.get j = some action) : p action = false := by
  have member : action ∈ db.allActions := by
    simp only [Db.allActions, List.mem_flatMap, List.mem_map, Prod.exists, Table.mem_scan]
    exact ⟨runId, rows, stored, j, action, found, rfl⟩
  simpa using List.any_eq_false.mp unconflicting action member

/-- The rows with a proposal inserted. -/
def RunRows.withProposal (rows : RunRows) (facts : ProposalFacts) (requestId : UUID)
    (createdAt : Timestamp) : RunRows :=
  (rows.putAction facts.actionIntentId (proposedRows facts requestId createdAt)).pushEvent
    (some facts.actorUserId) .actionProposed (actionProposedPayload facts)

theorem createProposal_ok {db : Db} {facts : ProposalFacts} {requestId : UUID}
    {serverNow : Timestamp} {result : PreparedAction}
    (ran : createProposal db facts requestId serverNow rows = .ok (after, result)) :
    rows.proposals facts.actionIntentId = [] ∧
      after = rows.withProposal facts requestId serverNow := by
  unfold createProposal at ran
  split at ran
  · cases ran
  split at ran
  · cases ran
  next unannounced =>
    cases ran
    exact ⟨not_not.mp unannounced, rfl⟩

theorem readProposal_ok {facts : ProposalFacts} {action : ActionRows} {result : PreparedAction}
    (ran : readProposal facts action rows = .ok (after, result)) : after = rows := by
  unfold readProposal at ran
  split at ran
  · cases ran
  split at ran
  · cases ran
  split at ran
  · cases ran
  cases ran
  rfl

theorem insertProposal_ok {db : Db} {command : PrepareActionCommand} {allowCreate : Bool}
    {requestId : UUID} {serverNow : Timestamp} {result : PreparedAction}
    (ran : insertProposal cfg db command allowCreate requestId serverNow rows =
      .ok (after, result)) :
    after = rows ∨
    (allowCreate = true ∧
      db.allActions.any (fun action => action.intent.id == command.actionProposalId ||
        logicalKeyTaken (deriveFacts cfg.digests command) action.intent) = false ∧
      rows.proposals command.actionProposalId = [] ∧
      after = rows.withProposal (deriveFacts cfg.digests command) requestId serverNow) := by
  unfold insertProposal at ran
  dsimp only at ran
  split at ran
  next allowed =>
    obtain ⟨unannounced, written⟩ := createProposal_ok ran
    exact .inr ⟨allowed.1, (Bool.not_eq_true' _).mp allowed.2, unannounced, written⟩
  · split at ran
    · cases ran
    · cases ran
    · split at ran
      · cases ran
      split at ran
      · cases ran
      · exact .inl (readProposal_ok ran)

/-- A proposal inserted after the moves of other actions. -/
theorem deeds_propose {db : Db} {runId : UUID} {middle : RunRows} {command : PrepareActionCommand}
    {requestId : UUID} {createdAt : Timestamp}
    (asked : op.proposes command requestId createdAt) (running : rows.run.status = .running)
    (sameRun : rows.run.id = command.runId ∧ rows.run.workspaceId = command.tenant.workspaceId ∧
      rows.run.createdByUserId = command.tenant.actorUserId)
    (stored : db.runs.get runId = some rows) (keyed : Keyed rows)
    (unconflicting : db.allActions.any (fun action =>
      action.intent.id == command.actionProposalId ||
        logicalKeyTaken (deriveFacts cfg.digests command) action.intent) = false)
    (unannounced : middle.proposals command.actionProposalId = [])
    (moved : ∀ j, middle.actions.get j = rows.actions.get j ∨
      ∃ action later, rows.actions.get j = some action ∧
        ActionMove cfg memberships op rows action later ∧ middle.actions.get j = some later)
    (silent : Unproposed rows middle)
    (next : Succeeds rows
      (middle.withProposal (deriveFacts cfg.digests command) requestId createdAt) command) :
    Deeds cfg memberships op rows
      (middle.withProposal (deriveFacts cfg.digests command) requestId createdAt) := by
  have apart (j : UUID) (action : ActionRows) (found : rows.actions.get j = some action) :
      action.intent.id ≠ command.actionProposalId ∧
        logicalKeyTaken (deriveFacts cfg.digests command) action.intent = false := by
    simpa using unconflicting_stored stored unconflicting found
  intro j
  by_cases here : j = command.actionProposalId
  · subst here
    have absent : rows.actions.get command.actionProposalId = none := by
      by_contra present
      obtain ⟨action, found⟩ := Option.ne_none_iff_exists'.mp present
      exact (apart _ action found).1 (keyed _ action found)
    refine .propose command requestId createdAt asked rfl absent running sameRun
      (fun j action found => (apart j action found).2) next (Table.put_get_self _ _ _) ?_
    have announces : (middle.withProposal (deriveFacts cfg.digests command) requestId
        createdAt).proposals command.actionProposalId =
          middle.proposals command.actionProposalId ++
            [⟨some command.tenant.actorUserId, middle.run.nextEventSeq, .actionProposed,
              actionProposedPayload (deriveFacts cfg.digests command)⟩] := by
      simp [RunRows.withProposal, RunRows.proposals, eventsOf, RunRows.pushEvent,
        RunRows.putAction, actionProposedPayload, Payload.get?, deriveFacts]
    rw [announces, unannounced]
    rfl
  · have still : (middle.withProposal (deriveFacts cfg.digests command) requestId
        createdAt).actions.get j = middle.actions.get j := Table.put_get_of_ne _ _ here
    have quiet : (middle.withProposal (deriveFacts cfg.digests command) requestId
        createdAt).proposals j = rows.proposals j := by
      have different : command.actionProposalId ≠ j := fun same => here same.symm
      rw [← silent j]
      simp [RunRows.withProposal, RunRows.proposals, eventsOf, RunRows.pushEvent,
        RunRows.putAction, actionProposedPayload, Payload.get?, deriveFacts, different]
    rcases moved j with same | ⟨action, later, found, moves, written⟩
    · exact .keep (still.trans same) quiet
    · exact .move found moves (still.trans written) quiet

/-- The conditions `prepare_action` and `supersede_action` check first. -/
theorem requireApplicationRun_ok {command : PrepareActionCommand}
    (ran : requireApplicationRun rows command = .ok ()) :
    rows.run.createdByUserId = command.tenant.actorUserId ∧ rows.run.status = .running := by
  unfold requireApplicationRun at ran
  split at ran
  · cases ran
  next creator =>
    split at ran
    · cases ran
    split at ran
    · cases ran
    next running => exact ⟨not_not.mp creator, not_not.mp running⟩

theorem prepareActionRows_effect {db : Db} {runId : UUID} {command : PrepareActionCommand}
    {requestId : UUID} {serverNow : Timestamp} {result : PreparedAction}
    (asked : op.proposes command requestId serverNow)
    (initial : command.actionRevision = initialActionRevision)
    (stored : db.runs.get runId = some rows) (keyed : Keyed rows)
    (named : rows.run.id = command.runId)
    (workspace : rows.run.workspaceId = command.tenant.workspaceId)
    (ran : prepareActionRows cfg db command requestId serverNow rows = .ok (after, result)) :
    Effect cfg memberships op rows after := by
  unfold prepareActionRows at ran
  split at ran
  · cases ran
  next allowed =>
    obtain ⟨creator, running⟩ := requireApplicationRun_ok allowed
    rcases insertProposal_ok ran with rfl | ⟨-, unconflicting, unannounced, rfl⟩
    · exact same_effect _
    · exact quiet_effect rfl ⟨rfl, rfl⟩ rfl
        (deeds_propose asked running ⟨named, workspace, creator⟩ stored keyed unconflicting
          unannounced (fun _ => .inl rfl) (.refl _) (.inl initial))
        ((Appends.none _).push rfl _ _ _) rfl

/-! ## Superseding -/

variable (cfg memberships op) in
/-- What retiring an action does to the rows of its run. -/
theorem retireAction_ok {tenant : TenantContext} {k : UUID} {action : ActionRows}
    {request : ApprovalRequest} (requested : action.request = some request)
    (waiting : action.intent.status.waiting = true)
    (ran : retireAction tenant k action request rows = .ok after) :
    ∃ retired types, ActionMove cfg memberships op rows action retired ∧
      retired.intent.status = .cancelled ∧
      after.actions = rows.actions.put k retired ∧ after.run.identity = rows.run.identity ∧
      SameCourse rows.run after.run ∧ after.job = rows.job ∧
      Appends rows.log after.log types ∧ Quiet types := by
  have unbegun : action.intent.status.begun = false := by
    cases status : action.intent.status <;>
      simp_all [ActionIntentStatus.waiting, ActionIntentStatus.begun]
  unfold retireAction at ran
  dsimp only at ran
  split at ran
  next due =>
    cases ran
    refine ⟨_, [.approvalExpired], ?_, ?_, rfl, rfl, ⟨rfl, rfl⟩, rfl,
      (Appends.none _).push rfl _ _ _, rfl⟩
    · exact .withdraw requested (.inr ⟨due, rfl, rfl, rfl⟩) rfl rfl unbegun rfl (.inl rfl)
    · rfl
  next shut =>
    split at ran
    · cases ran
      refine ⟨_, [], ?_, ?_, rfl, rfl, ⟨rfl, rfl⟩, rfl, .none _, rfl⟩
      · rw [requested]
        exact .withdraw requested (.inl ⟨by simpa using shut, rfl⟩) rfl rfl unbegun rfl (.inl rfl)
      · rfl
    · cases ran

variable (cfg memberships op) in
/-- A supersession changes nothing, or retires the old action, and inserts the
proposal unless it was there. -/
theorem supersedeActionRows_ok {db : Db} {command : SupersedeActionCommand} {requestId : UUID}
    {serverNow : Timestamp} {result : PreparedAction}
    (ran : supersedeActionRows cfg db command requestId serverNow rows = .ok (after, result)) :
    (after = rows ∧ ∃ action, rows.actions.get command.oldActionIntentId = some action ∧
      action.intent.status = .cancelled) ∨
    ∃ action retired middle types, rows.actions.get command.oldActionIntentId = some action ∧
      action.intent.status.waiting = true ∧ rows.run.status = .running ∧
      rows.run.createdByUserId = command.asPrepareCommand.tenant.actorUserId ∧
      command.asPrepareCommand.actionRevision = action.intent.actionRevision + 1 ∧
      ActionMove cfg memberships op rows action retired ∧ retired.intent.status = .cancelled ∧
      middle.actions = rows.actions.put command.oldActionIntentId retired ∧
      middle.run.identity = rows.run.identity ∧ SameCourse rows.run middle.run ∧
      middle.job = rows.job ∧ Appends rows.log middle.log types ∧ Quiet types ∧
      (after = middle ∨
        (db.allActions.any (fun action =>
          action.intent.id == command.asPrepareCommand.actionProposalId ||
            logicalKeyTaken (deriveFacts cfg.digests command.asPrepareCommand) action.intent) =
          false ∧ middle.proposals command.asPrepareCommand.actionProposalId = [] ∧
          after = middle.withProposal (deriveFacts cfg.digests command.asPrepareCommand) requestId
            serverNow)) := by
  unfold supersedeActionRows at ran
  dsimp only at ran
  split at ran
  · cases ran
  next allowed =>
    obtain ⟨creator, running⟩ := requireApplicationRun_ok allowed
    split at ran
    · cases ran
    next action found =>
      have found : rows.actions.get command.oldActionIntentId = some action := by
        simp only [Option.filter_eq_some_iff] at found
        exact found.1
      split at ran
      · cases ran
      next request requested =>
        split at ran
        · cases ran
        next follows =>
          split at ran
          · cases ran
          split at ran
          next cancelled =>
            -- a replay creates nothing
            unfold replaySupersession at ran
            split at ran
            · cases ran
            dsimp only at ran
            split at ran
            · cases ran
            rcases insertProposal_ok ran with rfl | ⟨disallowed, -⟩
            · exact .inl ⟨rfl, action, found, cancelled⟩
            · cases disallowed
          · split at ran
            · cases ran
            next waiting =>
              have waiting : action.intent.status.waiting = true := by simpa using waiting
              split at ran
              · cases ran
              next middle ran' =>
                obtain ⟨retired, types, moves, cancelled, written, frame, course, job, appended,
                  quiet⟩ := retireAction_ok cfg memberships op requested waiting ran'
                refine .inr ⟨action, retired, middle, types, found, waiting, running, creator,
                  not_not.mp (not_or.mp follows).2, moves, cancelled, written, frame, course, job,
                  appended, quiet, ?_⟩
                rcases insertProposal_ok ran with rfl | ⟨-, inserted⟩
                · exact .inl rfl
                · exact .inr inserted

theorem supersedeActionRows_effect {db : Db} {runId : UUID} {command : SupersedeActionCommand}
    {requestId : UUID} {serverNow : Timestamp} {result : PreparedAction}
    (asked : op.proposes command.asPrepareCommand requestId serverNow)
    (stored : db.runs.get runId = some rows) (keyed : Keyed rows)
    (named : rows.run.id = command.asPrepareCommand.runId)
    (workspace : rows.run.workspaceId = command.asPrepareCommand.tenant.workspaceId)
    (different : command.oldActionIntentId ≠ command.asPrepareCommand.actionProposalId)
    (ran : supersedeActionRows cfg db command requestId serverNow rows = .ok (after, result)) :
    Effect cfg memberships op rows after := by
  rcases supersedeActionRows_ok cfg memberships op ran with ⟨rfl, -⟩ | ⟨action, retired, middle,
    types, found, waiting, running, creator, follows, moves, cancelled, written, frame, course, job,
    appended, quiet, outcome⟩
  · exact same_effect _
  have silent : Unproposed rows middle := appended.unproposed quiet.unproposed
  rcases outcome with rfl | ⟨unconflicting, unannounced, rfl⟩
  · exact quiet_effect frame course job (deeds_move found moves written silent) appended
      quiet.terminal
  have retires : middle.actions.get command.oldActionIntentId = some retired := by
    rw [written, Table.put_get_self]
  refine quiet_effect frame course job
    (deeds_propose asked running ⟨named, workspace, creator⟩ stored keyed unconflicting
      unannounced ?_ silent (.inr ?_))
    (appended.push rfl _ _ _) (by rw [List.filter_append, quiet.terminal]; rfl)
  · intro j
    by_cases here : j = command.oldActionIntentId
    · subst here
      exact .inr ⟨action, retired, found, moves, retires⟩
    · exact .inl (by rw [written, Table.put_get_of_ne _ _ here])
  · exact ⟨_, action, retired, found, waiting,
      (Table.put_get_of_ne _ _ different).trans retires, cancelled, follows⟩

/-! ## Withdrawing an action -/

theorem cancelActionRows_effect {command : CancelActionCommand} {changed : Bool}
    (ran : cancelActionRows cfg command rows = .ok (after, changed)) :
    Effect cfg memberships op rows after := by
  unfold cancelActionRows at ran
  split at ran
  · cases ran
  next action found =>
    split at ran
    · cases ran
    next request requested =>
      have requested : action.request = some request := by
        simp only [Option.filter_eq_some_iff] at requested
        exact requested.1
      split at ran
      · cases ran
      dsimp only at ran
      split at ran
      · cases ran
      next expected =>
        split at ran
        · split at ran
          · cases ran
          cases ran
          exact same_effect rows
        · split at ran
          · cases ran
          next waiting =>
            cases ran
            have shut : request.status.open? = false := by
              rw [not_not.mp expected]
              cases command.reason <;> rfl
            have unbegun : action.intent.status.begun = false := by
              cases status : action.intent.status <;>
                simp_all [ActionIntentStatus.waiting, ActionIntentStatus.begun]
            refine quiet_effect rfl ⟨rfl, rfl⟩ rfl
              (deeds_move found ?_ rfl ((Unproposed.refl _).push rfl (by decide) _ _))
              ((Appends.none _).push rfl _ _ _) rfl
            rw [requested]
            exact .withdraw requested (.inl ⟨shut, rfl⟩) rfl rfl unbegun rfl (.inl rfl)

/-! ## Deciding -/

theorem recordDecision_effect {command : ApprovalDecisionCommand} {decisionId : UUID}
    {membership : WorkspaceMembership} {action : ActionRows} {request : ApprovalRequest}
    {result : ApprovalDecisionRecord}
    (asked : op = .decide command decisionId)
    (member : findMembership memberships command.tenant.workspaceId command.tenant.actorUserId =
      some membership)
    (active : membership.revokedAt = none)
    (eligible : membership.role = .reviewer ∨ membership.role = .admin)
    (keyed : Keyed rows) (found : rows.actions.get command.actionIntentId = some action)
    (requested : action.request = some request) (undecided : action.decisions = [])
    (ran : recordDecision cfg command decisionId action request rows = .ok (after, result)) :
    Effect cfg memberships op rows after := by
  unfold recordDecision at ran
  split at ran
  · cases ran
  next pending =>
    split at ran
    · cases ran
    next inTime =>
      split at ran
      · cases ran
      split at ran
      · cases ran
      next waiting =>
        split at ran
        · cases ran
        next dormant =>
          split at ran
          · cases ran
          cases ran
          have waiting : rows.run.status = .waitingApproval := not_not.mp waiting
          refine ⟨rfl, rfl, .wake (not_not.mp dormant) waiting request.id
            ⟨_, action, request, found, requested, rfl⟩ command.now rfl ⟨rfl, rfl⟩,
            deeds_move found ?_ rfl ((Unproposed.refl _).push rfl (by decide) _ _),
            [.approvalDecided],
            (Appends.none _).push rfl _ _ _, (if_pos rfl).symm⟩
          rw [undecided]
          exact .decide command decisionId asked (keyed _ action found) requested
            (not_not.mp pending) undecided (Int.not_le.mp inTime) member active eligible waiting

theorem decideRows_effect {command : ApprovalDecisionCommand} {decisionId : UUID}
    {membership : WorkspaceMembership} {result : ApprovalDecisionRecord}
    (asked : op = .decide command decisionId)
    (member : findMembership memberships command.tenant.workspaceId command.tenant.actorUserId =
      some membership)
    (active : membership.revokedAt = none) (keyed : Keyed rows)
    (ran : decideRows cfg command membership.role decisionId rows = .ok (after, result)) :
    Effect cfg memberships op rows after := by
  unfold decideRows at ran
  split at ran
  · cases ran
  next action found =>
    split at ran
    · cases ran
    next request requested =>
      split at ran
      · split at ran
        · cases ran
        cases ran
        exact same_effect rows
      · split at ran
        · cases ran
        next eligible =>
          split at ran
          · cases ran
          next undecided =>
            have eligible : membership.role = .reviewer ∨ membership.role = .admin := by
              by_contra neither
              exact eligible (not_or.mp neither)
            exact recordDecision_effect asked member active eligible keyed found requested
              (not_not.mp undecided) ran

/-! ## Expiring -/

theorem bound_request {rows : RunRows} {k : UUID} {action : ActionRows} {request : ApprovalRequest}
    (bound : ((rows.actions.get k).bind fun stored =>
      stored.request.map fun asked => (stored, asked)) = some (action, request)) :
    rows.actions.get k = some action ∧ action.request = some request := by
  simp only [Option.bind_eq_some_iff, Option.map_eq_some_iff, Prod.mk.injEq] at bound
  obtain ⟨stored, found, asked, requested, rfl, rfl⟩ := bound
  exact ⟨found, requested⟩

theorem sweepRows_effect {k : UUID} {now : Timestamp} {outcome : Swept}
    (lease : LeaseFields rows.job)
    (due : ∀ action request, rows.actions.get k = some action → action.request = some request →
      request.status.open? = true)
    (ran : sweepRows k now rows = .ok (after, outcome)) :
    Effect cfg memberships op rows after := by
  unfold sweepRows at ran
  split at ran
  · cases ran
    exact same_effect rows
  next action request bound =>
    obtain ⟨found, requested⟩ := bound_request bound
    split at ran
    · cases ran
      exact same_effect rows
    next waiting =>
      have waiting : rows.run.status = .waitingApproval := not_not.mp waiting
      split at ran
      · cases ran
      next job outcome woken =>
        cases ran
        have live : rows.run.status.terminal = false := by rw [waiting]; rfl
        have holds : rows.holdsRequest request.id := ⟨k, action, request, found, requested, rfl⟩
        have move : ActionMove cfg memberships op rows action
            { action with request := some { request with
              status := .expired, version := request.version + 1 } } :=
          .expire requested (due action request found requested) rfl rfl rfl live
        have deeds (woke : RunJob) (payload : Payload) : Deeds cfg memberships op rows
            ({ rows.putAction k _ with job := woke }.pushEvent none .approvalExpired payload) :=
          deeds_move found move rfl ((Unproposed.refl _).push rfl (by decide) _ _)
        have appended : Appends rows.log rows.log [] := .none _
        unfold wakeExpiredJob at woken
        split at woken
        next dormant =>
          cases woken
          obtain ⟨noWorker, noToken, noExpiry⟩ := lease.unset (by rw [dormant]; decide)
          refine ⟨rfl, rfl, .wake dormant waiting request.id holds now ?_ ⟨rfl, rfl⟩, deeds _ _,
            [.approvalExpired], appended.push rfl _ _ _, (if_pos rfl).symm⟩
          rw [← noWorker, ← noToken, ← noExpiry]
          rfl
        next queued =>
          split at woken
          · cases woken
          cases woken
          exact ⟨rfl, rfl, .relink (.inl queued) waiting request.id holds rfl ⟨rfl, rfl⟩, deeds _ _,
            [.approvalExpired], appended.push rfl _ _ _, (if_pos rfl).symm⟩
        next leased =>
          split at woken
          · cases woken
          next same =>
            cases woken
            refine ⟨rfl, rfl, .relink (.inr leased) waiting request.id holds ?_ ⟨rfl, rfl⟩, deeds _ _,
              [.approvalExpired], appended.push rfl _ _ _, (if_pos rfl).symm⟩
            rw [← not_not.mp same]
            rfl
        · cases woken

end Operations
end Pathfinder
