import Pathfinder.Lifecycle.Invariants

/-!
# What the store permits an executor

Three operations permit something: `begin_send` the initial send,
`begin_reconciliation` a recovery attempt and `authorize_resend` a further send.
An account is what the rows of an action say of the permissions so far; it
balances with the permissions themselves, and every step of the stores moves it
as the permission it gives says.
-/
namespace Pathfinder
open KeyedTable Machines

inductive Grant where
  | send
  | reconcile (recoveryAttempt : Int)
  | resend (recoveryAttempt : Int)
  deriving DecidableEq, Repr

def Grant.isReconcile : Grant → Bool
  | reconcile _ => true
  | _ => false

def Grant.isResend : Grant → Bool
  | resend _ => true
  | _ => false

/-! ## Accounts -/

/-- What the rows of an action count: the attempt of its invocation, the recovery
attempts of the intent, and whether the invocation is executing. -/
structure Account where
  attempt : Int
  recoveries : Int
  executing : Bool

/-- The account of an action without an invocation, or of none. -/
def Account.fresh : Account := ⟨0, 0, false⟩

/-- How a step that permits `grant`, or nothing, moves an account. -/
inductive Account.Moves : Option Grant → Account → Account → Prop
  | keep {a b : Account} (attempt : b.attempt = a.attempt) (recoveries : b.recoveries = a.recoveries)
      (executing : b.executing = true → a.executing = true) : Moves none a b
  | send {a b : Account} (unsent : a.attempt = 0) (attempt : b.attempt = 1)
      (recoveries : b.recoveries = a.recoveries) : Moves (some .send) a b
  | reconcile {a b : Account} (attempt : b.attempt = a.attempt)
      (recoveries : b.recoveries = a.recoveries + 1)
      (executing : b.executing = true → a.executing = true) :
      Moves (some (.reconcile b.recoveries)) a b
  | resend {a b : Account} (executing : a.executing = true) (attempt : b.attempt = a.attempt + 1)
      (recoveries : b.recoveries = a.recoveries) : Moves (some (.resend a.recoveries)) a b

namespace Account.Moves
variable {a b c : Account}

theorem refl (a : Account) : Moves none a a := .keep rfl rfl id

theorem trans (first : Moves none a b) (second : Moves none b c) : Moves none a c := by
  cases first with
  | keep attempt recoveries executing =>
    cases second with
    | keep attempt' recoveries' executing' =>
      exact .keep (attempt'.trans attempt) (recoveries'.trans recoveries) (executing ∘ executing')

end Account.Moves

/-- The account agrees with the permissions: the first send is permitted once and
before any other, each recovery attempt has its number, and the attempts of the
invocation are the sends that have been permitted. -/
structure Balanced (account : Account) (grants : List Grant) : Prop where
  attempt : account.attempt = grants.count .send + grants.countP Grant.isResend
  once : grants.count .send ≤ 1
  opened : 0 < grants.countP Grant.isResend → grants.count .send = 1
  executing : account.executing = true → 1 ≤ account.attempt
  recoveries : account.recoveries = grants.countP Grant.isReconcile
  numbered : ∀ n : Int, grants.count (.reconcile n) =
    if 1 ≤ n ∧ n ≤ account.recoveries then 1 else 0

theorem balanced_fresh : Balanced .fresh [] where
  attempt := rfl
  once := Nat.zero_le 1
  opened := fun some_ => absurd some_ (Nat.lt_irrefl 0)
  executing := nofun
  recoveries := rfl
  numbered := by
    intro n
    rw [if_neg (by rintro ⟨low, high⟩; exact absurd (low.trans high) (by decide))]
    rfl

theorem Balanced.step {grant : Option Grant} {a b : Account} {grants : List Grant}
    (before : Balanced a grants) (moved : Account.Moves grant a b) :
    Balanced b (grants ++ grant.toList) := by
  have attempt := before.attempt
  have recoveries := before.recoveries
  have once := before.once
  cases moved with
  | keep attempt' recoveries' executing' =>
    rw [Option.toList_none, List.append_nil]
    exact ⟨attempt'.trans attempt, once, before.opened,
      fun now => attempt' ▸ before.executing (executing' now), recoveries'.trans recoveries,
      fun n => recoveries' ▸ before.numbered n⟩
  | send unsent attempt' recoveries' =>
    have none_yet : grants.count .send = 0 ∧ grants.countP Grant.isResend = 0 := by omega
    refine ⟨?_, ?_, ?_, fun _ => attempt'.ge, ?_, ?_⟩
    · simp [none_yet.1, none_yet.2, Grant.isResend, attempt']
    · simp [none_yet.1]
    · simp [none_yet.1]
    · simpa [Grant.isReconcile] using recoveries'.trans recoveries
    · intro n
      simpa [recoveries'] using before.numbered n
  | reconcile attempt' recoveries' executing' =>
    refine ⟨?_, ?_, ?_, fun now => attempt' ▸ before.executing (executing' now), ?_, ?_⟩
    · simpa [Grant.isResend] using attempt'.trans attempt
    · simpa using once
    · simpa [Grant.isResend] using before.opened
    · simp [Grant.isReconcile, recoveries', recoveries]
    · intro n
      rw [Option.toList_some, List.count_append, before.numbered n, List.count_singleton]
      simp only [beq_iff_eq, Grant.reconcile.injEq]
      split <;> split <;> split <;> omega
  | resend executing attempt' recoveries' =>
    have sent := before.executing executing
    have opened : grants.count .send = 1 := by
      rcases Nat.eq_zero_or_pos (grants.countP Grant.isResend) with zero | some_
      · omega
      · exact before.opened some_
    refine ⟨?_, ?_, ?_, fun _ => ?_, ?_, ?_⟩
    · simp [Grant.isResend, attempt', attempt, Int.add_assoc]
    · simpa using once
    · intro _
      simpa using opened
    · omega
    · simpa [Grant.isReconcile] using recoveries'.trans recoveries
    · intro n
      simpa [recoveries'] using before.numbered n

/-! ## The account of an action -/

def ActionRows.account (action : ActionRows) : Account where
  attempt := action.invocation.elim 0 ToolInvocation.attempt
  recoveries := action.intent.recoveryAttempts
  executing := action.invocation.any fun invocation => invocation.status == .executing

def RunRows.account (rows : RunRows) (j : UUID) : Account :=
  (rows.actions.get j).elim .fresh ActionRows.account

def Db.account (db : Db) (k j : UUID) : Account :=
  (db.runs.get k).elim .fresh fun rows => rows.account j

/-- The operations that may permit something. -/
def Op.asks : Op → Bool
  | beginSend .. | beginReconciliation .. | authorizeResend .. => true
  | _ => false

/-- What an answer permits, and for which action. -/
def granted : Op → Except StoreError Reply → Option (ActionExecutionIdentity × Grant)
  | .beginSend identity _, .ok (.send result) =>
    if result.allowed then some (identity, .send) else none
  | .beginReconciliation identity _, .ok (.reconciliation result) =>
    if result.networkAllowed then some (identity, .reconcile result.recoveryAttempt) else none
  | .authorizeResend identity expectedRecoveryAttempt _, .ok (.resend result) =>
    if result.allowed then some (identity, .resend expectedRecoveryAttempt) else none
  | _, _ => none

/-- What an answer permits for the action `j` of the run `k`. -/
def grantedFor (k j : UUID) (op : Op) (answer : Except StoreError Reply) : Option Grant :=
  (granted op answer).bind fun permission =>
    if permission.1.runId = k ∧ permission.1.actionIntentId = j then some permission.2 else none

/-- Only `authorize_resend` permits a resend. -/
theorem grantedFor_resend {k j : UUID} {n : Int} {op : Op} {answer : Except StoreError Reply}
    (permitted : grantedFor k j op answer = some (.resend n)) :
    ∃ identity now, op = .authorizeResend identity n now := by
  simp only [grantedFor, Option.bind_eq_some_iff] at permitted
  obtain ⟨permission, given, named⟩ := permitted
  unfold granted at given
  split at given
  · split at given <;> cases given
    split at named <;> cases named
  · split at given <;> cases given
    split at named <;> cases named
  · split at given <;> cases given
    split at named <;> cases named
    exact ⟨_, _, rfl⟩
  · cases given

section Stores
variable {cfg : Config} {memberships : List WorkspaceMembership} {op : Op}
  {rows after : RunRows}

/-- A move that another operation makes. -/
theorem move_account {action moved : ActionRows} (plain : op.asks = false)
    (move : ActionMove cfg memberships op rows action moved) :
    Account.Moves none action.account moved.account := by
  cases move with
  | decide | expire => exact .refl _
  | withdraw requested closes facts recovery unbegun cancelled aborts =>
    rcases aborts with same | ⟨invocation, aborted, invoked, rfl, prepared, -, failed, attempt⟩
    · exact .keep (by rw [ActionRows.account, same]; rfl) recovery (by rw [same]; exact id)
    · refine .keep ?_ recovery ?_
      · simp only [ActionRows.account, invoked, Option.elim_some, attempt]
      · simp [ActionRows.account, failed]
  | consume now invocationId requested approved inTime proposed fresh =>
    refine .keep ?_ rfl nofun
    simp [ActionRows.account, fresh, preparedInvocation]
  | send identity now asked | reconcile identity now asked
  | resend identity expectedRecoveryAttempt now asked =>
    rw [asked] at plain
    cases plain
  | succeed identity result latencyMs now asked named invoked executing sent facts attempt agrees =>
    refine .keep ?_ rfl fun _ => ?_
    · simp only [ActionRows.account, invoked, Option.elim_some, attempt]
    · simp [ActionRows.account, invoked, sent]
  | settle invoked executing sent facts recovery ended invocationFacts attempt =>
    refine .keep ?_ recovery fun _ => ?_
    · simp only [ActionRows.account, invoked, Option.elim_some, attempt]
    · simp [ActionRows.account, invoked, sent]

theorem effect_account (plain : op.asks = false) (effect : Effect cfg memberships op rows after)
    (j : UUID) : Account.Moves none (rows.account j) (after.account j) := by
  unfold RunRows.account
  cases effect.deeds j with
  | keep same =>
    rw [same]
    exact .refl _
  | move found moves stored =>
    rw [found, stored]
    exact move_account plain moves
  | propose command requestId createdAt asked named absent running sameRun unused next stored =>
    rw [absent, stored]
    exact .refl _

/-- A request of another kind keeps the account of every action. -/
theorem serve_plain {world : World} (sound : AllRuns (Sound cfg) world) (plain : op.asks = false)
    (k j : UUID) :
    Account.Moves none (world.db.account k j) ((serve cfg world op).1.db.account k j) := by
  have writes := serve_writes sound op
  unfold Db.account
  cases stored : world.db.runs.get k with
  | some rows =>
    obtain ⟨later, there, kept⟩ := writes_follow
      (P := fun later => Account.Moves none (rows.account j) (later.account j)) writes
      (fun _ _ effect before => before.trans (effect_account plain effect j)) stored (.refl _)
    rw [there]
    exact kept
  | none =>
    have kept := writes_preserve
      (P := fun other later => other = k → Account.Moves none .fresh (later.account j)) writes
      (fun _ _ _ _ before effect same => (before same).trans (effect_account plain effect j))
      (fun _ _ _ _ => .refl _)
      (fun other rows there same => by rw [same, stored] at there; cases there)
    cases there : (serve cfg world op).1.db.runs.get k with
    | none => exact .refl _
    | some later => exact kept k later there rfl

/-! ## The operations that permit -/

theorem onIdentity_ok {α : Type} {identity : ActionExecutionIdentity}
    {f : List WorkspaceMembership → RunRows → Except StoreError (RunRows × α)} {db later : Db}
    {result : α} (ran : onIdentity identity f db = .ok (later, result)) :
    ∃ rows after, db.runs.get identity.runId = some rows ∧
      f db.memberships rows = .ok (after, result) ∧ later = db.putRun identity.runId after := by
  rcases onRun_ok (transaction_ok ran).1 with ⟨-, refused, -⟩ | ⟨rows, after, found, worked, put⟩
  · cases refused
  · exact ⟨rows, after, (findRun_some found).1, worked, put⟩

/-- The rows of the action an identity names are written so. -/
structure Rewrites (identity : ActionExecutionIdentity) (rows after : RunRows)
    (grant : Option Grant) : Prop where
  moved : ∃ action moved, rows.actions.get identity.actionIntentId = some action ∧
    after.actions = rows.actions.put identity.actionIntentId moved ∧
    Account.Moves grant action.account moved.account ∧ action.intent.status.transitions ≠ []

theorem beginSendRows_account {identity : ActionExecutionIdentity} {now : Timestamp}
    {result : SendAuthorization}
    (ran : beginSendRows cfg identity now memberships rows = .ok (after, result)) :
    Rewrites identity rows after (if result.allowed then some .send else none) := by
  unfold beginSendRows at ran
  split at ran
  · cases ran
  next action request invocation bound =>
    have locked := lockInvocation_ok bound
    obtain ⟨⟨authorized, prepared⟩, unsent⟩ :
        (action.intent.status = .authorized ∧ invocation.status = .prepared) ∧
          invocation.attempt = 0 := by
      simpa using locked.expects
    have invoked : action.invocation = some invocation := locked.invoked
    have live : action.intent.status.transitions ≠ [] := by
      rw [authorized]
      decide
    dsimp only at ran
    split at ran
    · obtain ⟨execution, ready, written⟩ := map_ok ran
      cases written
      refine ⟨action, _, locked.found, rfl, .keep ?_ rfl nofun, live⟩
      simp [ActionRows.account, invoked, abortInvocation]
    · obtain ⟨execution, ready, written⟩ := map_ok ran
      cases written
      refine ⟨action, _, locked.found, rfl, ?_, live⟩
      have zero : action.account.attempt = 0 := by simp [ActionRows.account, invoked, unsent]
      exact .send zero rfl rfl

theorem beginReconciliationRows_account {identity : ActionExecutionIdentity} {maxAttempts : Int}
    {now : Timestamp} {result : ReconciliationAuthorization}
    (ran : beginReconciliationRows cfg identity maxAttempts now rows = .ok (after, result)) :
    Rewrites identity rows after
      (if result.networkAllowed then some (.reconcile result.recoveryAttempt) else none) := by
  unfold beginReconciliationRows at ran
  split at ran
  · cases ran
  next locked bound =>
    have lock := lockInvocation_ok bound
    have both := lock.both
    have live : locked.action.intent.status.transitions ≠ [] := by
      rw [both.1]
      decide
    dsimp only at ran
    split at ran
    · obtain ⟨execution, ready, written⟩ := map_ok ran
      cases written
      refine ⟨locked.action, _, lock.found, rfl, .keep ?_ rfl nofun, live⟩
      simp [ActionRows.account, lock.invoked]
    · obtain ⟨execution, ready, written⟩ := map_ok ran
      cases written
      refine ⟨locked.action, _, lock.found, rfl, ?_, live⟩
      have before : locked.action.account = ⟨locked.invocation.attempt,
          locked.action.intent.recoveryAttempts, locked.invocation.status == .executing⟩ := by
        simp [ActionRows.account, lock.invoked]
      rw [before]
      exact .reconcile (b := ⟨locked.invocation.attempt, _, _⟩) rfl rfl id

theorem authorizeResendRows_account {identity : ActionExecutionIdentity}
    {expectedRecoveryAttempt : Int} {now : Timestamp} {result : ResendAuthorization}
    (ran : authorizeResendRows cfg identity expectedRecoveryAttempt now memberships rows =
      .ok (after, result)) :
    Rewrites identity rows after
      (if result.allowed then some (.resend expectedRecoveryAttempt) else none) := by
  unfold authorizeResendRows at ran
  split at ran
  · cases ran
  next locked bound =>
    have lock := lockInvocation_ok bound
    have both := lock.both
    have current : locked.action.intent.recoveryAttempts = expectedRecoveryAttempt := by
      simpa using (Bool.and_eq_true_iff.mp lock.expects).2
    have live : locked.action.intent.status.transitions ≠ [] := by
      rw [both.1]
      decide
    split at ran
    · dsimp only at ran
      obtain ⟨execution, ready, written⟩ := map_ok ran
      cases written
      refine ⟨locked.action, _, lock.found, rfl, .keep ?_ rfl nofun, live⟩
      simp [ActionRows.account, lock.invoked]
    · dsimp only at ran
      obtain ⟨execution, ready, written⟩ := map_ok ran
      cases written
      subst current
      have sent : locked.action.account.executing = true := by
        simp [ActionRows.account, lock.invoked, both.2]
      refine ⟨locked.action, _, lock.found, rfl, .resend sent ?_ rfl, live⟩
      simp [ActionRows.account, lock.invoked]

theorem Rewrites.account {identity : ActionExecutionIdentity} {grant : Option Grant} {db : Db}
    (rewritten : Rewrites identity rows after grant)
    (stored : db.runs.get identity.runId = some rows) (k j : UUID) :
    Account.Moves (if identity.runId = k ∧ identity.actionIntentId = j then grant else none)
      (db.account k j) ((db.putRun identity.runId after).account k j) := by
  obtain ⟨action, moved, found, written, moves, -⟩ := rewritten.moved
  unfold Db.account Db.putRun
  by_cases run : identity.runId = k
  · subst run
    simp only [Table.put_get_self, stored, Option.elim_some, RunRows.account, written, true_and]
    by_cases named : identity.actionIntentId = j
    · subst named
      simp only [Table.put_get_self, found, Option.elim_some, if_true]
      exact moves
    · rw [if_neg named, Table.put_get_of_ne _ _ (Ne.symm named)]
      exact .refl _
  · rw [if_neg (fun both => run both.1)]
    simp only [Table.put_get_of_ne _ _ (Ne.symm run)]
    exact .refl _

theorem granted_plain (plain : op.asks = false) (answer : Except StoreError Reply) :
    granted op answer = none := by
  cases op <;> first | rfl | cases plain

theorem granted_error (reason : StoreError) : granted op (.error reason) = none := by
  cases op <;> rfl

variable (cfg) in
/-- An operation that may permit something fails, or writes the rows of the action its
identity names as the permission says. -/
theorem serve_asks (world : World) (asks : op.asks = true) :
    ((serve cfg world op).1.db = world.db ∧ granted op (serve cfg world op).2 = none) ∨
      ∃ identity rows later grant, world.db.runs.get identity.runId = some rows ∧
        Rewrites identity rows later grant ∧
        (serve cfg world op).1.db = world.db.putRun identity.runId later ∧
        granted op (serve cfg world op).2 = grant.map fun grant => (identity, grant) := by
  rcases serve_cases cfg world op with ⟨same, reason, refused⟩ | ⟨reply, ran, answered⟩
  · exact .inl ⟨same, by rw [refused, granted_error]⟩
  · right
    rw [answered]
    cases op with
    | beginSend identity now =>
      obtain ⟨result, begun, rfl⟩ := answers_ok ran
      obtain ⟨rows, later, stored, worked, written⟩ := onIdentity_ok begun
      refine ⟨identity, rows, later, _, stored, beginSendRows_account worked, written, ?_⟩
      simp only [granted]
      split <;> rfl
    | beginReconciliation identity now =>
      obtain ⟨result, begun, rfl⟩ := answers_ok ran
      unfold beginReconciliation at begun
      rw [if_neg (by simpa using cfg.recovery_positive)] at begun
      obtain ⟨rows, later, stored, worked, written⟩ := onIdentity_ok begun
      refine ⟨identity, rows, later, _, stored, beginReconciliationRows_account worked, written, ?_⟩
      simp only [granted]
      split <;> rfl
    | authorizeResend identity expectedRecoveryAttempt now =>
      obtain ⟨result, begun, rfl⟩ := answers_ok ran
      unfold authorizeResend at begun
      split at begun
      · cases begun
      obtain ⟨rows, later, stored, worked, written⟩ := onIdentity_ok begun
      refine ⟨identity, rows, later, _, stored, authorizeResendRows_account worked, written, ?_⟩
      simp only [granted]
      split <;> rfl
    | _ => cases asks

/-- Every request moves the account of every action as its answer permits. -/
theorem serve_account {world : World} (sound : AllRuns (Sound cfg) world) (op : Op) (k j : UUID) :
    Account.Moves (grantedFor k j op (serve cfg world op).2) (world.db.account k j)
      ((serve cfg world op).1.db.account k j) := by
  unfold grantedFor
  cases asks : op.asks with
  | false =>
    rw [granted_plain asks]
    exact serve_plain sound asks k j
  | true =>
    rcases serve_asks cfg world asks with
      ⟨same, nothing⟩ | ⟨identity, rows, later, grant, stored, rewritten, written, permitted⟩
    · rw [nothing, same]
      exact .refl _
    · have moved := rewritten.account stored k j
      rw [written, permitted]
      cases grant <;> simpa using moved

/-- The intent of the action `j` of the run `k`. -/
def Db.intends (db : Db) (k j : UUID) (intent : ActionIntent) : Prop :=
  ∃ rows, db.runs.get k = some rows ∧ ∃ action, rows.actions.get j = some action ∧
    action.intent = intent

/-- Nothing is permitted for an action that has come to its end. -/
theorem grantedFor_settled {world : World} {k j : UUID} {intent : ActionIntent}
    (held : world.db.intends k j intent) (settled : intent.status.transitions = []) (op : Op) :
    grantedFor k j op (serve cfg world op).2 = none := by
  obtain ⟨rows, stored, action, found, rfl⟩ := held
  unfold grantedFor
  cases asks : op.asks with
  | false =>
    rw [granted_plain asks]
    rfl
  | true =>
    rcases serve_asks cfg world asks with
      ⟨-, nothing⟩ | ⟨identity, rows', later, grant, stored', rewritten, -, permitted⟩
    · rw [nothing]
      rfl
    · rw [permitted]
      cases grant with
      | none => rfl
      | some grant =>
        obtain ⟨action', moved, found', written, moves, live⟩ := rewritten.moved
        refine if_neg ?_
        rintro ⟨rfl, rfl⟩
        cases stored.symm.trans stored'
        cases found.symm.trans found'
        exact live settled

/-- The intent of an action that was executed to its end does not change. -/
theorem move_ended {action moved : ActionRows}
    (move : ActionMove cfg memberships op rows action moved)
    (begun : action.intent.status.begun = true)
    (settled : action.intent.status.transitions = []) : moved.intent = action.intent := by
  cases move with
  | decide | expire | resend => rfl
  | withdraw requested closes facts recovery unbegun => cases unbegun.symm.trans begun
  | consume now invocationId requested approved inTime proposed =>
    rw [proposed] at settled
    cases settled
  | send identity now asked named requested consumed invoked authorized =>
    rw [authorized] at settled
    cases settled
  | reconcile identity now asked named invoked executing
  | succeed identity result latencyMs now asked named invoked executing
  | settle invoked executing =>
    rw [executing] at settled
    cases settled

theorem serve_ended {world : World} (sound : AllRuns (Sound cfg) world) {k j : UUID}
    {intent : ActionIntent} (held : world.db.intends k j intent)
    (begun : intent.status.begun = true) (settled : intent.status.transitions = []) (op : Op) :
    (serve cfg world op).1.db.intends k j intent := by
  obtain ⟨rows, stored, holds⟩ := held
  refine writes_follow (P := fun rows => ∃ action, rows.actions.get j = some action ∧
    action.intent = intent) (serve_writes sound op) ?_ stored holds
  rintro rows later effect ⟨action, found, holds⟩
  refine deeds_follow (P := fun action => action.intent = intent) effect.deeds ?_ found holds
  rintro action after move rfl
  exact move_ended move begun settled

end Stores
end Pathfinder
