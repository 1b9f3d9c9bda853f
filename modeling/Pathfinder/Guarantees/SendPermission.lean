import Pathfinder.Library.Parties
import Pathfinder.Lifecycle.SendPermissions
import Pathfinder.Tools.ApprovedActions

/-!
# Sends are permitted, at most once each

Any number of executors work on an action, beside every other user of the stores,
and stop wherever they are. The store counts what it permits: its account of the
action balances with the permissions of the whole history. And an executor sends
only what it has been permitted itself: its own history up to the POST is one of two.
-/
namespace Pathfinder
open KeyedTable Machines

/-! ## What an executor has done -/

/-- The own history of an executor in front of a POST: it prepared the execution and
began the send, or it prepared, reconciled, asked the portal and was authorized to
resend within the same recovery attempt. -/
inductive Licensed (identity : ActionExecutionIdentity) : Posting → List Happening → Prop
  | initial (invocationId : UUID) (preparedAt sentAt : Timestamp)
      (prepared : PreparedActionExecution) (authorization : SendAuthorization)
      (allowed : authorization.allowed = true) :
      Licensed identity (initialPosting prepared authorization.execution)
        [.served (.prepareExecution identity invocationId preparedAt)
            (.ok (.execution (.ok prepared))),
          .served (.beginSend identity sentAt) (.ok (.send authorization))]
  | resend (invocationId : UUID) (preparedAt begunAt resentAt : Timestamp)
      (prepared : PreparedActionExecution) (authorization : ReconciliationAuthorization)
      (networkAllowed : authorization.networkAllowed = true) (resend : ResendAuthorization)
      (allowed : resend.allowed = true) :
      Licensed identity (resendPosting resend.execution authorization.recoveryAttempt)
        [.served (.prepareExecution identity invocationId preparedAt)
            (.ok (.execution (.ok prepared))),
          .served (.beginReconciliation identity begunAt) (.ok (.reconciliation authorization)),
          .queried authorization,
          .served (.authorizeResend identity authorization.recoveryAttempt resentAt)
            (.ok (.resend resend))]

def Op.resends : Op → Bool
  | authorizeResend .. => true
  | _ => false

/-- What something an executor did permitted it, for the action `j` of the run `k`. -/
def Happening.grant (k j : UUID) : Happening → Option Grant
  | .served op answer => grantedFor k j op answer
  | .posted _ | .queried _ => none

def Happening.permits (k j : UUID) (grant : Grant) (happening : Happening) : Bool :=
  happening.grant k j = some grant

/-- What something permitted is of this kind. -/
def Happening.permitsAny (k j : UUID) (kind : Grant → Bool) (happening : Happening) : Bool :=
  (happening.grant k j).any kind

/-- No recovery attempt resends more often than it has begun, and so for all together. -/
structure Paired (story : List Happening) : Prop where
  numbered : ∀ k j n, story.countP (Happening.permits k j (.resend n)) ≤
    story.countP (Happening.permits k j (.reconcile n))
  total : ∀ k j, story.countP (Happening.permitsAny k j Grant.isResend) ≤
    story.countP (Happening.permitsAny k j Grant.isReconcile)

/-- The own history of an executor in each phase. Behind the POST nothing is
permitted any more. -/
def ExecutorPhase.told (identity : ActionExecutionIdentity) (story : List Happening) :
    ExecutorPhase → Prop
  | preparing => story = []
  | sending prepared => ∃ invocationId now,
    story = [.served (.prepareExecution identity invocationId now)
      (.ok (.execution (.ok prepared)))]
  | recovering => ∃ invocationId now prepared,
    story = [.served (.prepareExecution identity invocationId now)
      (.ok (.execution (.ok prepared)))]
  | inquiring authorization => authorization.networkAllowed = true ∧
    ∃ invocationId preparedAt begunAt prepared,
      story = [.served (.prepareExecution identity invocationId preparedAt)
          (.ok (.execution (.ok prepared))),
        .served (.beginReconciliation identity begunAt) (.ok (.reconciliation authorization))]
  | querying authorization _ | absent authorization => authorization.networkAllowed = true ∧
    ∃ invocationId preparedAt begunAt prepared,
      story = [.served (.prepareExecution identity invocationId preparedAt)
          (.ok (.execution (.ok prepared))),
        .served (.beginReconciliation identity begunAt) (.ok (.reconciliation authorization)),
        .queried authorization]
  | posting ready => Licensed identity ready story
  | posted .. | unanswered _ | rejected _ | confirming .. | ended _ => Paired story

section Stories
variable {identity : ActionExecutionIdentity} {story : List Happening} {phase : ExecutorPhase}

theorem paired_nil : Paired [] := ⟨fun _ _ _ => Nat.le_refl 0, fun _ _ => Nat.le_refl 0⟩

/-- What is no resend keeps the pairing. -/
theorem Paired.append (before : Paired story) {happening : Happening}
    (plain : ∀ k j n, happening.grant k j ≠ some (.resend n)) : Paired (story ++ [happening]) := by
  constructor
  · intro k j n
    have none : [happening].countP (Happening.permits k j (.resend n)) = 0 := by
      simp [Happening.permits, plain k j n]
    rw [List.countP_append, List.countP_append, none]
    exact (before.numbered k j n).trans (Nat.le_add_right _ _)
  · intro k j
    have none : [happening].countP (Happening.permitsAny k j Grant.isResend) = 0 := by
      cases given : happening.grant k j with
      | none => simp [Happening.permitsAny, given]
      | some grant =>
        cases grant with
        | resend n => exact absurd given (plain k j n)
        | _ => simp [Happening.permitsAny, given, Grant.isResend]
    rw [List.countP_append, List.countP_append, none]
    exact (before.total k j).trans (Nat.le_add_right _ _)

/-- Another operation keeps it. -/
theorem Paired.served (before : Paired story) {op : Op} {answer : Except StoreError Reply}
    (other : op.resends = false) : Paired (story ++ [.served op answer]) := by
  refine before.append fun k j n permitted => ?_
  obtain ⟨identity, now, rfl⟩ := grantedFor_resend permitted
  cases other

theorem Licensed.paired {ready : Posting} (licensed : Licensed identity ready story) :
    Paired story := by
  cases licensed with
  | initial => exact (paired_nil.served rfl).served rfl
  | resend invocationId preparedAt begunAt resentAt prepared authorization networkAllowed resend
      allowed =>
    constructor
    · intro k j n
      simp [List.countP_cons, Happening.permits, Happening.grant, grantedFor, granted,
        networkAllowed, allowed]
    · intro k j
      by_cases named : identity.runId = k ∧ identity.actionIntentId = j <;>
        simp [Happening.permitsAny, Happening.grant, grantedFor, granted,
          networkAllowed, allowed, named, Grant.isResend, Grant.isReconcile]

theorem ExecutorPhase.told_paired (told : phase.told identity story) : Paired story := by
  cases phase with
  | preparing =>
    cases told
    exact paired_nil
  | sending prepared =>
    obtain ⟨invocationId, now, rfl⟩ := told
    exact paired_nil.served rfl
  | recovering =>
    obtain ⟨invocationId, now, prepared, rfl⟩ := told
    exact paired_nil.served rfl
  | inquiring authorization =>
    obtain ⟨-, invocationId, preparedAt, begunAt, prepared, rfl⟩ := told
    exact (paired_nil.served rfl).served rfl
  | querying authorization | absent authorization =>
    obtain ⟨-, invocationId, preparedAt, begunAt, prepared, rfl⟩ := told
    exact ((paired_nil.served rfl).served rfl).append fun _ _ _ => nofun
  | posting ready => exact Licensed.paired told
  | posted | unanswered | rejected | confirming | ended => exact told

theorem ExecutorPhase.prepared_told {invocationId : UUID} {now : Timestamp}
    (execution : PreparedActionExecution) :
    (ExecutorPhase.prepared execution).told identity
      [.served (.prepareExecution identity invocationId now) (.ok (.execution (.ok execution)))] := by
  unfold ExecutorPhase.prepared
  split
  · exact paired_nil.served rfl
  · exact paired_nil.served rfl
  · exact paired_nil.served rfl
  · exact ⟨invocationId, now, execution, rfl⟩
  all_goals exact ⟨invocationId, now, rfl⟩

/-- Behind a transaction the history goes on as the phase says, whatever the answer. -/
theorem ExecutorPhase.answered_told {inputs : CallInputs} {op : Op}
    (told : phase.told identity story) (asked : phase.op identity inputs = some op)
    (answer : Except StoreError Reply) :
    (phase.answered answer).told identity (story ++ [.served op answer]) := by
  have settled := told_paired told
  cases phase with
  | preparing =>
    cases asked
    cases told
    cases answer with
    | error reason => exact settled.served rfl
    | ok reply =>
      cases reply with
      | execution outcome =>
        cases outcome with
        | error reason => exact settled.served rfl
        | ok execution => exact prepared_told execution
      | _ => exact settled.served rfl
  | sending execution =>
    cases asked
    obtain ⟨invocationId, now, rfl⟩ := told
    cases answer with
    | error reason => exact settled.served rfl
    | ok reply =>
      cases reply with
      | send authorization =>
        change (ExecutorPhase.permitted execution authorization).told identity _
        unfold ExecutorPhase.permitted
        split
        · exact settled.served rfl
        next allowed =>
          split
          · exact settled.served rfl
          · exact .initial invocationId now inputs.now execution authorization (by simpa using allowed)
      | _ => exact settled.served rfl
  | recovering =>
    cases asked
    obtain ⟨invocationId, now, prepared, rfl⟩ := told
    cases answer with
    | error reason => exact settled.served rfl
    | ok reply =>
      cases reply with
      | reconciliation authorization =>
        dsimp only [answered]
        split
        next allowed => exact ⟨allowed, invocationId, now, inputs.now, prepared, rfl⟩
        · exact settled.served rfl
      | _ => exact settled.served rfl
  | absent authorization =>
    cases asked
    obtain ⟨networkAllowed, invocationId, preparedAt, begunAt, prepared, rfl⟩ := told
    cases answer with
    | error reason =>
      refine settled.append fun k j n permitted => ?_
      rw [Happening.grant, grantedFor, granted_error] at permitted
      cases permitted
    | ok reply =>
      cases reply with
      | resend resend =>
        dsimp only [answered]
        split
        next allowed =>
          exact .resend invocationId preparedAt begunAt inputs.now prepared authorization
            networkAllowed resend allowed
        next refused =>
          refine settled.append fun k j n permitted => ?_
          simp [Happening.grant, grantedFor, granted, refused] at permitted
      | _ =>
        refine settled.append fun k j n permitted => ?_
        cases permitted
  | unanswered | rejected =>
    cases asked
    cases answer <;> exact settled.served rfl
  | confirming result returned =>
    cases asked
    cases answer <;> exact settled.served rfl
  | inquiring | querying | posting | posted | ended => cases asked

theorem ExecutorPhase.received_told (told : phase.told identity story) (digests : Digests)
    (response : Option PortalResponse) : (phase.received digests response).told identity story := by
  have settled := told_paired told
  cases phase with
  | posted sent message =>
    unfold received
    dsimp only
    split
    · unfold accepted
      dsimp only
      split
      · exact settled
      · split
        · exact settled
        · split <;> exact settled
    all_goals exact settled
  | querying authorization message =>
    unfold received
    dsimp only
    split
    · exact settled
    · exact told
    · exact settled
  | _ => exact told

theorem ExecutorPhase.late_told (told : phase.told identity story) :
    phase.late.told identity story := by
  have settled := told_paired told
  cases phase with
  | preparing | inquiring => exact settled
  | posting ready =>
    unfold late
    dsimp only
    split <;> exact settled
  | _ => exact told

end Stories

/-! ## Runs -/

section Runs
variable {cfg : Config} {before after : Deployment} {history : List (Nat × Happening)}
  {told : Option (Nat × Happening)}

/-- Every executor's own history is as its phase says; who has not started has none. -/
structure Told (deployment : Deployment) (history : List (Nat × Happening)) : Prop where
  story : ∀ i (executor : Executor), deployment.executors[i]? = some executor →
    executor.phase.told executor.identity (own i history)
  unborn : ∀ i, deployment.executors.length ≤ i → own i history = []

theorem Told.of_same (held : Told before history) (same : after.executors = before.executors) :
    Told after history := by
  constructor
  · rw [same]
    exact held.story
  · rw [same]
    exact held.unborn

/-- One executor goes on, the others stay. -/
theorem Told.enter (held : Told before history) {i : Nat} {executor : Executor}
    {phase : ExecutorPhase} (happened : Option Happening)
    (found : before.executors[i]? = some executor)
    (set : after.executors = before.executors.set i { executor with phase := phase })
    (next : phase.told executor.identity (own i history ++ happened.toList)) :
    Told after (history ++ (happened.map fun happening => (i, happening)).toList) := by
  have other (j : Nat) (different : j ≠ i) :
      own j (history ++ (happened.map fun happening => (i, happening)).toList) =
        own j history := by
    cases happened with
    | none => simp
    | some happening => simp [own_of_ne (Ne.symm different)]
  have self : own i (history ++ (happened.map fun happening => (i, happening)).toList) =
      own i history ++ happened.toList := by
    cases happened <;> simp
  constructor
  · intro j executor' there
    rw [set] at there
    by_cases same : j = i
    · subst same
      have inside : j < before.executors.length := (List.getElem?_eq_some_iff.mp found).1
      rw [List.getElem?_set_self inside] at there
      cases there
      rw [self]
      exact next
    · rw [List.getElem?_set_ne (Ne.symm same)] at there
      rw [other j same]
      exact held.story j executor' there
  · intro j outside
    rw [set, List.length_set] at outside
    have different : j ≠ i := by
      rintro rfl
      exact absurd (List.getElem?_eq_some_iff.mp found).1 (Nat.not_lt.mpr outside)
    rw [other j different]
    exact held.unborn j outside

theorem Deployment.deliver_frame (message : Nat) (facts : InsertedFacts) :
    (before.deliver cfg message facts).world = before.world ∧
      (before.deliver cfg message facts).executors = before.executors := by
  unfold Deployment.deliver
  split <;> exact ⟨rfl, rfl⟩

theorem Told.step (held : Told before history) (moves : ActionMoves cfg before told after) :
    Told after (history ++ told.toList) := by
  cases moves with
  | still => simpa using held
  | store =>
    rw [Option.toList_none, List.append_nil]
    exact held.of_same rfl
  | start identity =>
    rw [Option.toList_none, List.append_nil]
    constructor
    · intro i executor there
      rcases Nat.lt_or_ge i before.executors.length with inside | outside
      · rw [List.getElem?_append_left inside] at there
        exact held.story i executor there
      · rw [List.getElem?_append_right outside, List.getElem?_singleton] at there
        split at there
        · cases there
          exact held.unborn i outside
        · cases there
    · intro i outside
      rw [List.length_append] at outside
      exact held.unborn i (Nat.le_of_add_right_le outside)
  | deliver message facts =>
    simpa using held.of_same (Deployment.deliver_frame message facts).2
  | call i found inputs op asked =>
    exact held.enter (some _) found rfl
      (ExecutorPhase.answered_told (held.story i _ found) asked _)
  | post i found ready here =>
    have licensed := held.story i _ found
    rw [here] at licensed
    refine held.enter (some _) found rfl ?_
    exact (Licensed.paired licensed).append fun _ _ _ => nofun
  | query i found authorization here =>
    have reconciled := held.story i _ found
    rw [here] at reconciled
    obtain ⟨allowed, invocationId, preparedAt, begunAt, prepared, story⟩ := reconciled
    refine held.enter (some _) found rfl ⟨allowed, invocationId, preparedAt, begunAt, prepared, ?_⟩
    rw [story]
    rfl
  | receive i found message response arrived awaited =>
    refine held.enter none found rfl ?_
    rw [Option.toList_none, List.append_nil]
    exact ExecutorPhase.received_told (held.story i _ found) _ _
  | lose i found =>
    refine held.enter none found rfl ?_
    rw [Option.toList_none, List.append_nil]
    exact ExecutorPhase.received_told (held.story i _ found) _ _
  | late i found =>
    refine held.enter none found rfl ?_
    rw [Option.toList_none, List.append_nil]
    exact ExecutorPhase.late_told (held.story i _ found)
  | stop i found =>
    refine held.enter none found rfl ?_
    rw [Option.toList_none, List.append_nil]
    exact ExecutorPhase.told_paired (held.story i _ found)

theorem Told.paired (held : Told before history) (i : Nat) : Paired (own i history) := by
  rcases Nat.lt_or_ge i before.executors.length with inside | outside
  · exact ExecutorPhase.told_paired (held.story i _ (List.getElem?_eq_getElem inside))
  · rw [held.unborn i outside]
    exact paired_nil

/-- What the history permitted for the action `j` of the run `k`. -/
def grantsOf (k j : UUID) (history : List (Nat × Happening)) : List Grant :=
  history.filterMap fun entry => entry.2.grant k j

theorem count_grantsOf (k j : UUID) (history : List (Nat × Happening)) (grant : Grant) :
    (grantsOf k j history).count grant =
      history.countP fun entry => entry.2.permits k j grant := by
  rw [grantsOf, List.count, List.countP_filterMap]
  congr 1
  funext entry
  cases given : entry.2.grant k j with
  | none => simp [Happening.permits, given]
  | some other =>
    simp only [Happening.permits, given, Option.map_some, Option.getD_some, Option.some.injEq]
    rfl

theorem countP_grantsOf (k j : UUID) (history : List (Nat × Happening)) (kind : Grant → Bool) :
    (grantsOf k j history).countP kind =
      history.countP fun entry => entry.2.permitsAny k j kind := by
  rw [grantsOf, List.countP_filterMap]
  congr 1
  funext entry
  cases given : entry.2.grant k j <;> simp [Happening.permitsAny, given]

/-- The invariant of a run: the rows are sound, every account balances with the
history, and the history is that of its executors. -/
structure Permitting (cfg : Config) (deployment : Deployment)
    (history : List (Nat × Happening)) : Prop where
  sound : AllRuns (Sound cfg) deployment.world
  balanced : ∀ k j, Balanced (deployment.world.db.account k j) (grantsOf k j history)
  told : Told deployment history

theorem Op.asks_executes {op : Op} (plain : op.executes = false) : op.asks = false := by
  cases op <;> first | rfl | cases plain

theorem Permitting.step (held : Permitting cfg before history)
    (moves : ActionMoves cfg before told after) : Permitting cfg after (history ++ told.toList) := by
  have next := held.told.step moves
  have quiet (same : after.world = before.world)
      (silent : ∀ k j, grantsOf k j (history ++ told.toList) = grantsOf k j history) :
      Permitting cfg after (history ++ told.toList) := by
    refine ⟨by rw [same]; exact held.sound, fun k j => ?_, next⟩
    rw [silent, same]
    exact held.balanced k j
  cases moves with
  | still | start | receive | lose | late | stop => exact quiet rfl fun _ _ => by simp
  | deliver message facts =>
    exact quiet (Deployment.deliver_frame message facts).1 fun _ _ => by simp
  | post | query => exact quiet rfl fun _ _ => by simp [grantsOf, Happening.grant]
  | store op plain =>
    refine ⟨serve_sound held.sound op, fun k j => ?_, next⟩
    rw [Option.toList_none, List.append_nil]
    simpa using (held.balanced k j).step (serve_plain held.sound (Op.asks_executes plain) k j)
  | call i found inputs op asked =>
    refine ⟨serve_sound held.sound op, fun k j => ?_, next⟩
    have permitted : grantsOf k j (history ++ (some (i, Happening.served op
        (serve cfg before.world op).2)).toList) = grantsOf k j history ++
          (grantedFor k j op (serve cfg before.world op).2).toList := by
      rw [grantsOf, List.filterMap_append]
      cases given : grantedFor k j op (serve cfg before.world op).2 <;>
        simp [grantsOf, Happening.grant, given]
    rw [permitted]
    exact (held.balanced k j).step (serve_account held.sound op k j)

variable (cfg) in
theorem reached_permitting (events : List ActionEvent) :
    Permitting cfg ((actionExecutors cfg).reached events)
      ((actionExecutors cfg).history (actionExecutors cfg).start events) := by
  refine (actionExecutors cfg).reached_history ?_
    (fun before history event held => held.step (actionStep_moves cfg before event)) events
  have sound : AllRuns (Sound cfg) (stores cfg).start := start_runs _
  refine ⟨sound, fun _ _ => balanced_fresh, ?_, fun _ _ => rfl⟩
  intro i executor there
  cases there

/-- What the account of an action and the whole history agree on. -/
theorem Permitting.resends_le (held : Permitting cfg before history) (k j : UUID) :
    (grantsOf k j history).countP Grant.isResend ≤
      (grantsOf k j history).countP Grant.isReconcile := by
  rw [countP_grantsOf, countP_grantsOf]
  exact countP_le_of_own fun i => (held.told.paired i).total k j

end Runs

/-- For every interleaving of executors with each other and with every other user of
the stores: `begin_send` is allowed at most once for an action; each recovery attempt
begins at most once and resends at most as often; and the invocation counts exactly the
sends permitted so far, none before the first and at most one more than the recovery
attempts of the intent. -/
theorem send_permissions (cfg : Config) (events : List ActionEvent) (k j : UUID) :
    let deployment := (actionExecutors cfg).reached events
    let history := (actionExecutors cfg).history (actionExecutors cfg).start events
    let permitted := fun grant => history.countP fun entry => entry.2.permits k j grant
    let resends := history.countP fun entry => entry.2.permitsAny k j Grant.isResend
    permitted .send ≤ 1 ∧
      (∀ n, permitted (.resend n) ≤ permitted (.reconcile n) ∧ permitted (.reconcile n) ≤ 1) ∧
      ∀ rows action invocation, deployment.world.db.runs.get k = some rows →
        rows.actions.get j = some action → action.invocation = some invocation →
        (permitted .send = 0 → invocation.attempt = 0 ∧ resends = 0) ∧
        (permitted .send = 1 → invocation.attempt = 1 + resends) ∧
        invocation.attempt ≤ 1 + action.intent.recoveryAttempts := by
  intro deployment history permitted resends
  have held := reached_permitting cfg events
  have balanced : Balanced (deployment.world.db.account k j) (grantsOf k j history) :=
    held.balanced k j
  have counted (grant : Grant) : (grantsOf k j history).count grant = permitted grant :=
    count_grantsOf k j history grant
  have resent : (grantsOf k j history).countP Grant.isResend = resends :=
    countP_grantsOf k j history Grant.isResend
  refine ⟨(counted .send).symm ▸ balanced.once, fun n => ⟨?_, ?_⟩, ?_⟩
  · exact countP_le_of_own fun i => (held.told.paired i).numbered k j n
  · rw [← counted, balanced.numbered n]
    split
    · exact Nat.le_refl 1
    · exact Nat.zero_le 1
  · intro rows action invocation stored found invoked
    have account : deployment.world.db.account k j = action.account := by
      simp [Db.account, stored, RunRows.account, found]
    have attempt : invocation.attempt = permitted .send + resends := by
      rw [← counted, ← resent, ← balanced.attempt]
      simp [account, ActionRows.account, invoked]
    have recoveries : action.intent.recoveryAttempts =
        (grantsOf k j history).countP Grant.isReconcile := by
      rw [← balanced.recoveries]
      simp [account, ActionRows.account]
    have below : (grantsOf k j history).countP Grant.isResend ≤
      (grantsOf k j history).countP Grant.isReconcile := held.resends_le k j
    have once : permitted .send ≤ 1 := (counted .send).symm ▸ balanced.once
    have opened : 0 < resends → permitted .send = 1 := by
      rw [← resent, ← counted]
      exact balanced.opened
    omega

/-- Every POST of an executor stands at the end of its own permission, so that
each executor sends at most once and no permission is used by two. -/
theorem posts_licensed (cfg : Config) (events : List ActionEvent) (event : ActionEvent)
    (i : Nat) (ready : Posting)
    (posts : (actionExecutors cfg).answer ((actionExecutors cfg).reached events) event =
      some (i, .posted ready)) :
    ∃ executor, ((actionExecutors cfg).reached events).executors[i]? = some executor ∧
      Licensed executor.identity ready
        (own i ((actionExecutors cfg).history (actionExecutors cfg).start events)) := by
  have held := reached_permitting cfg events
  have moves := actionStep_moves cfg ((actionExecutors cfg).reached events) event
  have answered : (actionStep cfg ((actionExecutors cfg).reached events) event).2 =
      some (i, .posted ready) := posts
  rw [answered] at moves
  generalize (actionStep cfg ((actionExecutors cfg).reached events) event).1 = after at moves
  cases moves with
  | post _ found _ here =>
    have licensed := held.told.story i _ found
    rw [here] at licensed
    exact ⟨_, found, licensed⟩

/-- Action 6 is approved, and an executor has begun to send it. -/
def Sample.sendBegun : List ActionEvent :=
  (Sample.waiting ++ [Sample.approve, Sample.claim 4 101,
    .prepare (Sample.claimed 1 4 101 (some 7)) none 4]).map .store ++
    [.start Sample.identity, .call 0 ⟨9, 0, 4⟩, .call 0 ⟨0, 0, 4⟩]

theorem posts_licensed_sample :
    ∃ ready executor,
      ((actionExecutors Sample.config).reached Sample.sendBegun).executors[0]? = some executor ∧
      Licensed executor.identity ready (own 0 ((actionExecutors Sample.config).history
        (actionExecutors Sample.config).start Sample.sendBegun)) := by
  have posts : ∃ ready, (actionExecutors Sample.config).answer
      ((actionExecutors Sample.config).reached Sample.sendBegun) (.send 0) =
        some (0, .posted ready) := ⟨_, rfl⟩
  obtain ⟨ready, posts⟩ := posts
  obtain ⟨executor, found, licensed⟩ :=
    posts_licensed Sample.config Sample.sendBegun (.send 0) 0 ready posts
  exact ⟨ready, executor, found, licensed⟩

end Pathfinder
