import Pathfinder.Lifecycle.ActionEffects

/-!
# The steps of an execution as effects

Every step locks the rows its identity names, so each is one move of one action.
-/
namespace Pathfinder
open KeyedTable

section Operations
variable {cfg : Config} {memberships : List WorkspaceMembership} {op : Op}
  {rows after : RunRows} {identity : ActionExecutionIdentity} {now : Timestamp}

/-! ## Locking -/

theorem lockBoundRows_ok {action : ActionRows} {request : ApprovalRequest}
    (locked : lockBoundRows cfg identity rows = .ok (action, request)) :
    rows.actions.get identity.actionIntentId = some action ∧
      action.request = some request := by
  unfold lockBoundRows at locked
  split at locked
  · cases locked
  next action' request' bound =>
    split at locked
    · cases locked
    split at locked
    · cases locked
    cases locked
    simp only [Option.bind_eq_some_iff, Option.map_eq_some_iff, Prod.mk.injEq,
      Option.filter_eq_some_iff] at bound
    obtain ⟨stored, found, asked, ⟨requested, -⟩, rfl, rfl⟩ := bound
    exact ⟨found, requested⟩

/-- What `lockInvocation` has established about the rows it returns. -/
structure Locked (cfg : Config) (identity : ActionExecutionIdentity) (rows : RunRows)
    (expected : ActionIntent → ToolInvocation → Bool) (locked : LockedInvocation) : Prop where
  found : rows.actions.get identity.actionIntentId = some locked.action
  requested : locked.action.request = some locked.request
  invoked : locked.action.invocation = some locked.invocation
  consumed : locked.request.status = .consumed
  expects : expected locked.action.intent locked.invocation = true

theorem lockInvocation_ok {missing changed : String}
    {expected : ActionIntent → ToolInvocation → Bool} {locked : LockedInvocation}
    (ran : lockInvocation cfg identity missing changed expected rows = .ok locked) :
    Locked cfg identity rows expected locked := by
  unfold lockInvocation at ran
  split at ran
  · cases ran
  next action request bound =>
    obtain ⟨found, requested⟩ := lockBoundRows_ok bound
    split at ran
    · cases ran
    next invocation invoked =>
      split at ran
      · cases ran
      split at ran
      · cases ran
      next agreed =>
        cases ran
        obtain ⟨consumed, expects⟩ := not_or.mp agreed
        exact ⟨found, requested, invoked, not_not.mp consumed, by simpa using expects⟩

/-- The state of the rows that `bothExecuting` compares. -/
theorem bothExecuting_iff {intent : ActionIntent} {invocation : ToolInvocation} :
    bothExecuting intent invocation = true ↔
      intent.status = .executing ∧ invocation.status = .executing := by
  simp [bothExecuting]

theorem Locked.both {also : ActionIntent → ToolInvocation → Bool} {locked : LockedInvocation}
    (lock : Locked cfg identity rows (fun intent invocation =>
      bothExecuting intent invocation && also intent invocation) locked) :
    locked.action.intent.status = .executing ∧ locked.invocation.status = .executing :=
  bothExecuting_iff.mp (Bool.and_eq_true_iff.mp lock.expects).1

/-- A move of the locked action that appends at most its own event. -/
theorem move_effect {action moved : ActionRows} {types : List RunEventType}
    (found : rows.actions.get identity.actionIntentId = some action)
    (move : ActionMove cfg memberships op rows action moved)
    (written : after.actions = rows.actions.put identity.actionIntentId moved)
    (frame : after.run.identity = rows.run.identity) (course : SameCourse rows.run after.run)
    (job : after.job = rows.job) (appended : Appends rows.log after.log types)
    (quiet : Quiet types) : Effect cfg memberships op rows after :=
  quiet_effect frame course job (deeds_move found move written (appended.unproposed quiet.unproposed))
    appended quiet.terminal

/-! ## Preparing -/

theorem revokeAction_move {action closed : ActionRows} {request : ApprovalRequest}
    (requested : action.request = some request) (unbegun : action.intent.status.begun = false)
    (ran : revokeAction action request now = .ok closed) :
    ActionMove cfg memberships op rows action closed := by
  have shut (shown : ApprovalRequest)
      (eq : shown = if request.status.open? then
        { request with status := .expired, version := request.version + 1, consumedAt := none }
        else request) : Closes request shown := by
    cases due : request.status.open? with
    | true => exact .inr ⟨due, by simp [eq, due, ApprovalRequest.facts], by simp [eq, due],
        by simp [eq, due]⟩
    | false => exact .inl ⟨due, by simp [eq, due]⟩
  have cancels (intent : ActionIntent)
      (eq : intent = if action.intent.status.waiting then
        { action.intent with status := .cancelled } else action.intent) :
      intent.facts = action.intent.facts ∧
        intent.recoveryAttempts = action.intent.recoveryAttempts ∧
        intent.status = .cancelled := by
    cases status : action.intent.status <;>
      simp_all [ActionIntentStatus.begun, ActionIntentStatus.waiting, ActionIntent.facts]
  obtain ⟨facts, recovery, cancelled⟩ := cancels _ rfl
  unfold revokeAction at ran
  dsimp only at ran
  split at ran
  next none =>
    cases ran
    exact .withdraw requested (shut _ rfl) facts recovery unbegun cancelled (.inl rfl)
  next invocation invoked =>
    split at ran
    · cases ran
    split at ran
    · cases ran
    next unsent =>
      cases ran
      exact .withdraw requested (shut _ rfl) facts recovery unbegun cancelled
        (.inr ⟨invocation, _, invoked, rfl, not_not.mp unsent, rfl, rfl, rfl⟩)

theorem consumeApproval_effect {action : ActionRows} {request : ApprovalRequest}
    {invocationId : UUID} {outcome : PrepareOutcome}
    (found : rows.actions.get identity.actionIntentId = some action)
    (requested : action.request = some request) (running : rows.run.status = .running)
    (uncancelled : rows.run.cancelRequestedAt = none)
    (unexpired : ¬(request.status = .approved ∧ request.expiresAt ≤ now))
    (ran : consumeApproval identity action request invocationId now rows =
      .ok (after, outcome)) : Effect cfg memberships op rows after := by
  unfold consumeApproval at ran
  split at ran
  · cases ran
  next approved =>
    have approved : request.status = .approved := not_not.mp approved
    have inTime : now < request.expiresAt := Int.not_le.mp fun late => unexpired ⟨approved, late⟩
    split at ran
    · cases ran
    next proposed =>
      split at ran
      · cases ran
      next fresh =>
        split at ran
        · cases ran
        dsimp only at ran
        split at ran
        · cases ran
        cases ran
        exact move_effect found
          (.consume now invocationId requested approved inTime (not_not.mp proposed)
            (by simpa using fresh) running uncancelled)
          rfl rfl ⟨rfl, rfl⟩ rfl (.none _) rfl

theorem prepareExecutionRows_effect {invocationId : UUID} {outcome : PrepareOutcome}
    (ran : prepareExecutionRows cfg identity invocationId now memberships rows =
      .ok (after, outcome)) : Effect cfg memberships op rows after := by
  unfold prepareExecutionRows at ran
  split at ran
  · cases ran
  next action request bound =>
    obtain ⟨found, requested⟩ := lockBoundRows_ok bound
    split at ran
    · obtain ⟨execution, ready, written⟩ := map_ok ran
      cases written
      exact same_effect rows
    next unbegun =>
      have unbegun : action.intent.status.begun = false := by simpa using unbegun
      split at ran
      · obtain ⟨closed, revoked, written⟩ := map_ok ran
        cases written
        exact move_effect found (revokeAction_move requested unbegun revoked) rfl rfl
          ⟨rfl, rfl⟩ rfl (.none _) rfl
      · split at ran
        · cases ran
        next licensed =>
          obtain ⟨running, uncancelled⟩ := not_or.mp licensed
          have running : rows.run.status = .running := not_not.mp running
          split at ran
          next late =>
            cases ran
            have live : rows.run.status.terminal = false := by rw [running]; rfl
            have due : request.status.open? = true := by rw [late.1]; rfl
            refine move_effect found ?_ rfl rfl ⟨rfl, rfl⟩ rfl (.none _) rfl
            exact .expire requested due rfl rfl rfl live
          next unexpired =>
            split at ran
            next invocation _ =>
              split at ran
              · cases ran
              split at ran
              · cases ran
              obtain ⟨execution, ready, written⟩ := map_ok ran
              cases written
              exact same_effect rows
            · exact consumeApproval_effect found requested running (not_not.mp uncancelled)
                unexpired ran

/-! ## Sending -/

theorem beginSendRows_effect {result : SendAuthorization} (asked : op = .beginSend identity now)
    (keyed : Keyed rows)
    (ran : beginSendRows cfg identity now memberships rows = .ok (after, result)) :
    Effect cfg memberships op rows after := by
  unfold beginSendRows at ran
  split at ran
  · cases ran
  next action request invocation bound =>
    have locked := lockInvocation_ok bound
    obtain ⟨⟨authorized, unsent⟩, zero⟩ :
        (action.intent.status = .authorized ∧ invocation.status = .prepared) ∧
          invocation.attempt = 0 := by
      simpa using locked.expects
    dsimp only at ran
    split at ran
    · obtain ⟨execution, ready, written⟩ := map_ok ran
      cases written
      have shut : request.status.open? = false := by rw [locked.consumed]; rfl
      have unbegun : action.intent.status.begun = false := by rw [authorized]; rfl
      refine move_effect locked.found ?_ rfl rfl ⟨rfl, rfl⟩ rfl (.none _) rfl
      dsimp only
      rw [show action.request = some request from locked.requested]
      exact .withdraw locked.requested (.inl ⟨shut, rfl⟩) rfl rfl unbegun rfl
        (.inr ⟨invocation, _, locked.invoked, rfl, unsent, rfl, rfl, rfl⟩)
    next licensed =>
      obtain ⟨-, licensed⟩ := not_or.mp licensed
      have running : rows.run.status = .running := not_not.mp (not_or.mp licensed).1
      obtain ⟨execution, ready, written⟩ := map_ok ran
      cases written
      exact move_effect locked.found
        (.send identity now asked (keyed _ _ locked.found) locked.requested locked.consumed
          locked.invoked authorized unsent zero running)
        rfl rfl ⟨rfl, rfl⟩ rfl ((Appends.none _).push rfl _ _ _) rfl

/-! ## Recovering -/

section Settling
variable {expected : ActionIntent → ToolInvocation → Bool} {locked : LockedInvocation}

/-- Recording that an execution ended badly, with its event. -/
theorem settle_effect {intent : ActionIntent} {invocation : ToolInvocation}
    {type : RunEventType} {errorCategory : Option String}
    (lock : Locked cfg identity rows expected locked)
    (both : locked.action.intent.status = .executing ∧ locked.invocation.status = .executing)
    (facts : intent.facts = locked.action.intent.facts)
    (recovery : intent.recoveryAttempts = locked.action.intent.recoveryAttempts)
    (ended : intent.status.unsuccessful = true)
    (invocationFacts : invocation.facts = locked.invocation.facts)
    (attempt : invocation.attempt = locked.invocation.attempt)
    (agrees : some invocation.status = intent.status.invocationStatus)
    (quiet : Quiet [type])
    (failure : intent.status = .failed → op.failsWith identity.actionIntentId intent.evidence)
    (cause : RecordsFailure cfg memberships op rows) (keyed : Keyed rows) :
    Effect cfg memberships op rows
      (appendActionEvent (rows.putExecution identity locked.action intent invocation) type intent
        invocation errorCategory) :=
  move_effect lock.found
    (.settle lock.invoked both.1 both.2 facts recovery ended invocationFacts attempt agrees
      (by rwa [keyed _ _ lock.found]) fun _ => cause)
    rfl rfl ⟨rfl, rfl⟩ rfl ((Appends.none _).push rfl _ _ _) quiet

theorem markFailed_effect {errorCategory : String} {evidence : Payload} {latencyMs : Int}
    (lock : Locked cfg identity rows expected locked)
    (both : locked.action.intent.status = .executing ∧ locked.invocation.status = .executing)
    (failure : op.failsWith identity.actionIntentId (some evidence))
    (cause : RecordsFailure cfg memberships op rows) (keyed : Keyed rows) :
    Effect cfg memberships op rows
      (markFailed identity locked errorCategory evidence latencyMs now rows).2 :=
  settle_effect lock both rfl rfl rfl rfl rfl rfl rfl (fun _ => failure) cause keyed

theorem markUnknown_effect {evidence : Payload} {latencyMs : Int}
    (lock : Locked cfg identity rows expected locked)
    (both : locked.action.intent.status = .executing ∧ locked.invocation.status = .executing)
    (cause : RecordsFailure cfg memberships op rows) (keyed : Keyed rows) :
    Effect cfg memberships op rows
      (markUnknown identity locked evidence latencyMs now rows).2 :=
  settle_effect lock both rfl rfl rfl rfl rfl rfl rfl nofun cause keyed

end Settling

theorem beginReconciliationRows_effect {result : ReconciliationAuthorization}
    (asked : op = .beginReconciliation identity now) (keyed : Keyed rows)
    (ran : beginReconciliationRows cfg identity cfg.actionRecoveryMaxAttempts now rows =
      .ok (after, result)) : Effect cfg memberships op rows after := by
  unfold beginReconciliationRows at ran
  split at ran
  · cases ran
  next locked bound =>
    have lock := lockInvocation_ok bound
    have both := lock.both
    dsimp only at ran
    split at ran
    next spent =>
      obtain ⟨execution, ready, written⟩ := map_ok ran
      cases written
      refine markUnknown_effect lock both ?_ keyed
      rw [asked]
      exact ⟨_, ⟨_, _, bound⟩, spent⟩
    next left =>
      obtain ⟨execution, ready, written⟩ := map_ok ran
      cases written
      exact move_effect lock.found
        (.reconcile identity now asked (keyed _ _ lock.found) lock.invoked both.1
          (Int.not_le.mp left)) rfl rfl ⟨rfl, rfl⟩ rfl (.none _) rfl

theorem authorizeResendRows_effect {expectedRecoveryAttempt : Int} {result : ResendAuthorization}
    (asked : op = .authorizeResend identity expectedRecoveryAttempt now)
    (valid : ¬ expectedRecoveryAttempt < 1) (keyed : Keyed rows)
    (ran : authorizeResendRows cfg identity expectedRecoveryAttempt now memberships rows =
      .ok (after, result)) : Effect cfg memberships op rows after := by
  unfold authorizeResendRows at ran
  split at ran
  · cases ran
  next locked bound =>
    have lock := lockInvocation_ok bound
    have both := lock.both
    have current : locked.action.intent.recoveryAttempts = expectedRecoveryAttempt := by
      simpa using (Bool.and_eq_true_iff.mp lock.expects).2
    split at ran
    next category refused =>
      dsimp only at ran
      obtain ⟨execution, ready, written⟩ := map_ok ran
      cases written
      refine markFailed_effect lock both (.inr ⟨_, _, _, asked, rfl⟩) ?_ keyed
      rw [asked]
      exact ⟨valid, ⟨_, _, _, bound⟩, by simp [refused]⟩
    · dsimp only at ran
      obtain ⟨execution, ready, written⟩ := map_ok ran
      cases written
      exact move_effect lock.found
        (.resend identity expectedRecoveryAttempt now asked (keyed _ _ lock.found) current
          lock.invoked both.1 both.2) rfl rfl ⟨rfl, rfl⟩ rfl (.none _) rfl

/-! ## Confirming -/

theorem confirmSuccessRows_effect {confirmed : ConfirmedActionResult} {latencyMs : Int}
    {result : Unit} (asked : op = .confirmSuccess identity confirmed latencyMs now)
    (keyed : Keyed rows)
    (ran : confirmSuccessRows cfg identity confirmed latencyMs now rows = .ok (after, result)) :
    Effect cfg memberships op rows after := by
  unfold confirmSuccessRows at ran
  split at ran
  · cases ran
  next locked bound =>
    cases ran
    have lock := lockInvocation_ok bound
    have both := lock.both
    refine move_effect lock.found ?_ rfl rfl ⟨rfl, rfl⟩ rfl ((Appends.none _).push rfl _ _ _) rfl
    exact .succeed identity confirmed latencyMs now asked (keyed _ _ lock.found) lock.invoked
      both.1 both.2 rfl rfl rfl

theorem confirmFailureRows_effect {errorCategory : String} {evidence : Payload} {latencyMs : Int}
    {result : Unit} (asked : op = .confirmFailure identity errorCategory evidence latencyMs now)
    (valid : ¬ (errorCategory = "" ∨ latencyMs < 0)) (keyed : Keyed rows)
    (ran : confirmFailureRows cfg identity errorCategory evidence latencyMs now rows =
      .ok (after, result)) : Effect cfg memberships op rows after := by
  obtain ⟨locked, bound, written⟩ := map_ok ran
  cases written
  have lock := lockInvocation_ok bound
  have both := bothExecuting_iff.mp lock.expects
  refine markFailed_effect lock both (.inl ⟨_, _, _, _, _, asked, rfl, rfl⟩) ?_ keyed
  rw [asked]
  exact ⟨valid, _, _, _, bound⟩

theorem confirmOutcomeUnknownRows_effect {evidence : Payload} {latencyMs : Int} {result : Unit}
    (asked : op = .confirmOutcomeUnknown identity evidence latencyMs now)
    (valid : ¬ latencyMs < 0) (keyed : Keyed rows)
    (ran : confirmOutcomeUnknownRows cfg identity evidence latencyMs now rows =
      .ok (after, result)) : Effect cfg memberships op rows after := by
  obtain ⟨locked, bound, written⟩ := map_ok ran
  cases written
  have lock := lockInvocation_ok bound
  have both := bothExecuting_iff.mp lock.expects
  refine markUnknown_effect lock both ?_ keyed
  rw [asked]
  exact ⟨valid, _, _, _, bound⟩

end Operations
end Pathfinder
