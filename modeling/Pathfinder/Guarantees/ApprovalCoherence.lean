import Pathfinder.Lifecycle.Commits

/-!
# The approval request and its decision

An approval request has at most one decision, which goes with its status as the
resume path expects. Its version counts the changes of its status, and a request
that comes too late for it leaves it alone.
-/
namespace Pathfinder
open KeyedTable Machines

/-! ## Status and decision -/

/-- The request of an action agrees with the decision rows. -/
structure Coherent (action : ActionRows) (request : ApprovalRequest) : Prop where
  requested : action.request = some request
  single : action.decisions.length ≤ 1
  names : ∀ decision ∈ action.decisions, decision.approvalRequestId = request.id
  allowed : action.decisions.head?.map ApprovalDecision.decision ∈
    request.status.allowedDecisions

section Coherence
variable {cfg : Config} {memberships : List WorkspaceMembership} {op : Op} {rows : RunRows}
  {action after : ActionRows}

theorem coherent_proposed (facts : ProposalFacts) (requestId : UUID) (createdAt : Timestamp) :
    Coherent (proposedRows facts requestId createdAt) (pendingRequest facts requestId createdAt) :=
  ⟨rfl, Nat.zero_le 1, nofun, List.mem_cons_self⟩

/-- Whatever was allowed of an open request is allowed once it has expired. -/
theorem allowed_expired {status : ApprovalStatus} {decision : Option Decision}
    (due : status.open? = true) (allowed : decision ∈ status.allowedDecisions) :
    decision ∈ ApprovalStatus.expired.allowedDecisions := by
  cases status <;> simp_all [ApprovalStatus.open?, ApprovalStatus.allowedDecisions]

theorem coherent_move (moved : ActionMove cfg memberships op rows action after)
    (before : ∃ request, Coherent action request) : ∃ request, Coherent after request := by
  obtain ⟨held, requested, single, names, allowed⟩ := before
  cases moved with
  | @decide request _ command decisionId asked named requested' pending undecided =>
    cases requested.symm.trans requested'
    refine ⟨_, rfl, Nat.le_refl 1, ?_, ?_⟩
    · intro decision member
      rw [List.mem_singleton.mp member]
      rfl
    · cases decides : command.decision <;>
        simp [decisionOf, decides, Decision.target, ApprovalStatus.allowedDecisions]
  | @expire request closed requested' due facts expired =>
    cases requested.symm.trans requested'
    have same : closed.facts.id = held.facts.id := congrArg ApprovalRequest.id facts
    refine ⟨closed, rfl, single, fun decision member => (names decision member).trans same.symm, ?_⟩
    rw [expired]
    exact allowed_expired due allowed
  | @withdraw request closed _ _ requested' closes =>
    cases requested.symm.trans requested'
    rcases closes with ⟨-, rfl⟩ | ⟨due, facts, expired, -⟩
    · exact ⟨closed, rfl, single, names, allowed⟩
    · have same : closed.facts.id = held.facts.id := congrArg ApprovalRequest.id facts
      refine ⟨closed, rfl, single, fun decision member => (names decision member).trans same.symm,
        ?_⟩
      rw [expired]
      exact allowed_expired due allowed
  | @consume request now invocationId requested' approved =>
    cases requested.symm.trans requested'
    rw [approved] at allowed
    exact ⟨_, rfl, single, names, allowed⟩
  | send | reconcile | resend | succeed | settle =>
    exact ⟨held, requested, single, names, allowed⟩

/-- The request of every stored action is coherent. -/
theorem reached_coherent (ops : List Op) {runId k : UUID} {action : ActionRows}
    (stored : ((stores cfg).reached ops).action runId k = some action) :
    ∃ request, Coherent action request := by
  have all : AllRuns (fun _ rows => ∀ k action, rows.actions.get k = some action →
      ∃ request, Coherent action request) ((stores cfg).reached ops) := by
    refine reached_rows ?_ ?_ ops
    · intro memberships op runId rows later _ effect before
      exact deeds_preserve effect.deeds (fun _ _ _ moved held => coherent_move moved held)
        (fun _ _ _ _ _ _ => ⟨_, coherent_proposed _ _ _⟩) before
    · intro create facts _ k action found
      cases found
  obtain ⟨rows, there, found⟩ := Option.bind_eq_some_iff.mp stored
  exact all runId rows there k action found

end Coherence

/-! ## The version of a request -/

/-- The approval request of an action of a run. -/
def World.request (world : World) (runId k : UUID) : Option ApprovalRequest :=
  (world.action runId k).bind ActionRows.request

/-- The status of that request. -/
def World.requestStatus (runId k : UUID) (world : World) : Option ApprovalStatus :=
  (world.request runId k).map ApprovalRequest.status

section Versions
variable {cfg : Config} {memberships : List WorkspaceMembership} {op : Op}

/-- The request as it was, or with another status and the next version. -/
def Bumps (request later : Option ApprovalRequest) : Prop :=
  later = request ∨ ∃ before after, request = some before ∧ later = some after ∧
    after.status ≠ before.status ∧ after.version = before.version + 1

theorem open_ne_expired {status : ApprovalStatus} (due : status.open? = true) :
    ApprovalStatus.expired ≠ status := by
  rintro rfl
  cases due

theorem bumps_move {rows : RunRows} {action after : ActionRows}
    (moved : ActionMove cfg memberships op rows action after) :
    Bumps action.request after.request := by
  cases moved with
  | decide command decisionId asked named requested pending =>
    refine .inr ⟨_, _, requested, rfl, ?_, rfl⟩
    rw [pending]
    cases command.decision <;> exact nofun
  | expire requested due facts expired version =>
    exact .inr ⟨_, _, requested, rfl, expired ▸ open_ne_expired due, version⟩
  | withdraw requested closes =>
    rcases closes with ⟨-, rfl⟩ | ⟨due, -, expired, version⟩
    · exact .inl requested.symm
    · exact .inr ⟨_, _, requested, rfl, expired ▸ open_ne_expired due, version⟩
  | consume now invocationId requested approved =>
    refine .inr ⟨_, _, requested, rfl, ?_, rfl⟩
    rw [approved]
    exact nofun
  | send | reconcile | resend | succeed | settle => exact .inl rfl

theorem bumps_step {before after : Option ActionRows}
    (step : ActionStep cfg memberships op before after) :
    Bumps (before.bind ActionRows.request) (after.bind ActionRows.request) ∨
      (before = none ∧ ∃ request, after.bind ActionRows.request = some request ∧
        request.version = 1) := by
  cases step with
  | same => exact .inl (.inl rfl)
  | moved rows unswept moves => exact .inl (bumps_move moves)
  | expired asked left =>
    refine .inl ?_
    rcases left with rfl | ⟨request, requested, due, rfl⟩
    · exact .inl rfl
    · exact .inr ⟨request, _, requested, rfl, open_ne_expired due, rfl⟩
  | proposed command requestId createdAt => exact .inr ⟨rfl, _, rfl, rfl⟩

/-- The version of a request counts the changes of its status; before it is
stored there were none. -/
theorem reached_version (ops : List Op) (runId k : UUID) :
    (((stores cfg).reached ops).request runId k = none →
      (stores cfg).changes (World.requestStatus runId k) (stores cfg).start ops = 0) ∧
    ∀ request, ((stores cfg).reached ops).request runId k = some request →
      request.version =
        1 + ((stores cfg).changes (World.requestStatus runId k) (stores cfg).start ops : Nat) := by
  induction ops using List.reverseRecOn with
  | nil =>
    have none : ((stores cfg).reached []).request runId k = none := rfl
    refine ⟨fun _ => rfl, fun request stored => ?_⟩
    rw [none] at stored
    cases stored
  | append_singleton ops op ih =>
    obtain ⟨unstored, counted⟩ := ih
    have snoc := (stores cfg).changes_snoc (World.requestStatus runId k) (stores cfg).start ops op
    have view (world : World) {request : Option ApprovalRequest}
        (is : world.request runId k = request) :
        world.requestStatus runId k = request.map ApprovalRequest.status := congrArg _ is
    change _ = _ + (Machine.changed (World.requestStatus runId k ((stores cfg).reached ops))
      (World.requestStatus runId k ((stores cfg).reached (ops ++ [op])))).toNat at snoc
    rw [snoc]
    rcases bumps_step (reached_action cfg ops op runId k) with
      (same | ⟨before, after, here, there, differs, bumped⟩) | ⟨absent, fresh, there, first⟩
    · -- the status is as it was
      have still : World.requestStatus runId k ((stores cfg).reached (ops ++ [op])) =
          World.requestStatus runId k ((stores cfg).reached ops) :=
        congrArg (Option.map ApprovalRequest.status) same
      have unchanged (status : Option ApprovalStatus) :
          (Machine.changed status status).toNat = 0 := by
        simp [Machine.changed]
      have kept : ((stores cfg).reached (ops ++ [op])).request runId k =
          ((stores cfg).reached ops).request runId k := same
      rw [still, unchanged, Nat.add_zero, kept]
      exact ⟨unstored, counted⟩
    · have counts := counted before here
      rw [view _ here, view _ there]
      have moved : Machine.changed (some before.status) (some after.status) = true := by
        simpa [Machine.changed] using differs.symm
      refine ⟨fun unstored => ?_, fun request stored => ?_⟩
      · rw [World.request, there] at unstored
        cases unstored
      · cases there.symm.trans stored
        simp only [Option.map_some, moved, Bool.toNat_true]
        omega
    · have missing : ((stores cfg).reached ops).request runId k = none := by
        rw [World.request, absent, Option.bind_none]
      have zero := unstored missing
      rw [view _ missing, zero]
      refine ⟨fun unstored => ?_, fun request stored => ?_⟩
      · rw [World.request, there] at unstored
        cases unstored
      · cases there.symm.trans stored
        simpa [Machine.changed] using first

end Versions

/-! ## Coming too late -/

section Races
variable {cfg : Config} {memberships : List WorkspaceMembership} {op : Op}
  {rows later : RunRows} {action : ActionRows} {request : ApprovalRequest} {k : UUID}

/-- A request that is closed stays as it is, and so does its decision. -/
theorem closed_step {after : Option ActionRows}
    (step : ActionStep cfg memberships op (some action) after)
    (requested : action.request = some request) (closed : request.status.open? = false) :
    ∃ kept, after = some kept ∧ kept.request = some request ∧
      kept.decisions = action.decisions := by
  -- a move that asks for an open request is none
  have shut {asked : ApprovalRequest} (there : action.request = some asked)
      (due : asked.status.open? = true) : False := by
    cases requested.symm.trans there
    rw [closed] at due
    cases due
  cases step with
  | same => exact ⟨action, rfl, requested, rfl⟩
  | moved rows unswept moves =>
    refine ⟨_, rfl, ?_⟩
    cases moves with
    | decide command decisionId asked named there pending =>
      exact (shut there (by rw [pending]; rfl)).elim
    | expire there due => exact (shut there due).elim
    | withdraw there closes =>
      rcases closes with ⟨-, rfl⟩ | ⟨due, -⟩
      · exact ⟨there.symm.trans requested, rfl⟩
      · exact (shut there due).elim
    | consume now invocationId there approved => exact (shut there (by rw [approved]; rfl)).elim
    | send | reconcile | resend | succeed | settle => exact ⟨requested, rfl⟩
  | expired asked left =>
    rcases left with rfl | ⟨other, there, due, rfl⟩
    · exact ⟨_, rfl, requested, rfl⟩
    · exact (shut there due).elim

/-- A decision is made on a pending request, in time and of the expected version. -/
theorem decideRows_wins {command : ApprovalDecisionCommand} {role : WorkspaceRole}
    {decisionId : UUID} {result : ApprovalDecisionRecord}
    (ran : decideRows cfg command role decisionId rows = .ok (later, result)) :
    ∃ action request, rows.actions.get command.actionIntentId = some action ∧
      action.request = some request ∧ (later = rows ∨ (request.status = .pending ∧
        command.now < request.expiresAt ∧ request.version = command.expectedVersion)) := by
  unfold decideRows at ran
  split at ran
  · cases ran
  next action found =>
    split at ran
    · cases ran
    next request requested =>
      refine ⟨action, request, found, requested, ?_⟩
      split at ran
      · split at ran
        · cases ran
        cases ran
        exact .inl rfl
      · split at ran
        · cases ran
        split at ran
        · cases ran
        unfold recordDecision at ran
        split at ran
        · cases ran
        next pending =>
          split at ran
          · cases ran
          next inTime =>
            split at ran
            · cases ran
            next current =>
              exact .inr ⟨not_not.mp pending, Int.not_le.mp inTime, not_not.mp current⟩

/-- An action is cancelled for the status its reason names, before it has begun. -/
theorem cancelActionRows_wins {command : CancelActionCommand} {changed : Bool}
    (ran : cancelActionRows cfg command rows = .ok (later, changed)) :
    ∃ action request, rows.actions.get command.actionIntentId = some action ∧
      action.request = some request ∧ (later = rows ∨
        (request.status = command.reason.expected ∧ action.intent.status.waiting = true)) := by
  unfold cancelActionRows at ran
  split at ran
  · cases ran
  next action found =>
    split at ran
    · cases ran
    next request requested =>
      have requested : action.request = some request := by
        simp only [Option.filter_eq_some_iff] at requested
        exact requested.1
      refine ⟨action, request, found, requested, ?_⟩
      split at ran
      · cases ran
      dsimp only at ran
      split at ran
      · cases ran
      next expected =>
        split at ran
        · split at ran
          · cases ran
          cases ran
          exact .inl rfl
        · split at ran
          · cases ran
          next waiting => exact .inr ⟨not_not.mp expected, by simpa using waiting⟩

theorem putRun_same {db : Db} {runId : UUID} (stored : db.runs.get runId = some rows) :
    db.putRun runId rows = db := by
  unfold Db.putRun
  rw [Table.put_self _ stored]

/-- A decision that comes too late changes nothing. -/
theorem decide_lost {ops : List Op} {runId : UUID}
    (stored : ((stores cfg).reached ops).action runId k = some action)
    (requested : action.request = some request) (command : ApprovalDecisionCommand)
    (decisionId : UUID) (named : command.actionIntentId = k)
    (lost : request.status ≠ .pending ∨ request.expiresAt ≤ command.now ∨
      request.version ≠ command.expectedVersion) :
    ((stores cfg).reached (ops ++ [.decide command decisionId])).db =
      ((stores cfg).reached ops).db := by
  rw [Machine.reached_snoc]
  rcases serve_db cfg ((stores cfg).reached ops) (.decide command decisionId) with
    same | ⟨reply, ran, -⟩
  · exact same
  · obtain ⟨result, ran, -⟩ := answers_ok ran
    obtain ⟨membership, other, rows, later, -, -, there, decided, written⟩ := decideApproval_ok ran
    obtain ⟨found, asked, located, held, outcome⟩ := decideRows_wins decided
    have elsewhere : ((stores cfg).reached ops).action other k = some found := by
      rw [World.action, there, Option.bind_some, ← named, located]
    have here : runId = other := reached_action_run ops (by rw [stored]; rfl) (by rw [elsewhere]; rfl)
    subst here
    cases stored.symm.trans elsewhere
    cases requested.symm.trans held
    change (serve cfg ((stores cfg).reached ops) (.decide command decisionId)).1.db = _
    rw [written]
    rcases outcome with rfl | ⟨pending, inTime, current⟩
    · exact putRun_same there
    · rcases lost with lost | late | stale
      · exact absurd pending lost
      · exact absurd late (Int.not_le.mpr inTime)
      · exact absurd current stale

/-- A cancellation of the action that comes too late changes nothing. -/
theorem cancelAction_lost {ops : List Op} {runId : UUID}
    (stored : ((stores cfg).reached ops).action runId k = some action)
    (requested : action.request = some request) (command : CancelActionCommand)
    (named : command.actionIntentId = k)
    (lost : request.status ≠ command.reason.expected ∨ action.intent.status.waiting = false) :
    ((stores cfg).reached (ops ++ [.cancelAction command])).db =
      ((stores cfg).reached ops).db := by
  rw [Machine.reached_snoc]
  rcases serve_db cfg ((stores cfg).reached ops) (.cancelAction command) with
    same | ⟨reply, ran, -⟩
  · exact same
  · obtain ⟨result, ran, -⟩ := answers_ok ran
    change (serve cfg ((stores cfg).reached ops) (.cancelAction command)).1.db = _
    obtain ⟨rows, later, there, cancelled, written⟩ := onTenantRun_ok ran
    obtain ⟨found, asked, located, held, outcome⟩ := cancelActionRows_wins cancelled
    have elsewhere : ((stores cfg).reached ops).action command.runId k = some found := by
      rw [World.action, there, Option.bind_some, ← named, located]
    have here : runId = command.runId :=
      reached_action_run ops (by rw [stored]; rfl) (by rw [elsewhere]; rfl)
    subst here
    cases stored.symm.trans elsewhere
    cases requested.symm.trans held
    rw [written]
    rcases outcome with rfl | ⟨expected, waiting⟩
    · exact putRun_same there
    · rcases lost with lost | begun
      · exact absurd expected lost
      · rw [begun] at waiting
        cases waiting

/-- The run no longer waits, or its requests are closed. -/
def SweptOver (rows : RunRows) : Prop :=
  rows.run.status ≠ .waitingApproval ∨ ∀ k action request,
    rows.actions.get k = some action → action.request = some request →
    request.status.open? = false

theorem sweepRows_lost {now : Timestamp} {outcome : Swept} (lost : SweptOver rows)
    (opened : ∀ action request, rows.actions.get k = some action →
      action.request = some request → request.status.open? = true)
    (ran : sweepRows k now rows = .ok (later, outcome)) : later = rows := by
  unfold sweepRows at ran
  split at ran
  · cases ran
    rfl
  next action request bound =>
    split at ran
    · cases ran
      rfl
    next waiting =>
      obtain ⟨found, requested⟩ := bound_request bound
      rcases lost with idle | closed
      · exact absurd idle waiting
      · have shut := closed k action request found requested
        rw [opened action request found requested] at shut
        cases shut

/-- A sweep that comes too late for a run passes it over. -/
theorem turns_lost {now : Timestamp} {before after : Table UUID RunRows} {runId : UUID}
    (turns : Relation.ReflTransGen (Turn now) before after)
    (stored : before.get runId = some rows) (lost : SweptOver rows) :
    after.get runId = some rows := by
  induction turns with
  | refl => exact stored
  | tail _ turn ih =>
    cases turn with
    | expire other k found opened swept =>
      by_cases same : runId = other
      · subst same
        cases found.symm.trans ih
        rw [Table.put_get_self, sweepRows_lost lost opened swept]
      · exact (Table.put_get_of_ne _ _ same).trans ih

theorem sweep_lost {ops : List Op} {runId : UUID}
    (stored : ((stores cfg).reached ops).db.runs.get runId = some rows) (lost : SweptOver rows)
    (locked : UUID → Bool) (now : Timestamp) (limit : Nat) :
    ((stores cfg).reached (ops ++ [.sweep locked now limit])).db.runs.get runId = some rows := by
  rw [Machine.reached_snoc]
  rcases serve_db cfg ((stores cfg).reached ops) (.sweep locked now limit) with
    same | ⟨reply, ran, -⟩
  · exact (congrArg (fun db => db.runs.get runId) same).trans stored
  · obtain ⟨result, ran, -⟩ := answers_ok ran
    exact turns_lost (sweepDueApprovalRequests_turns ran) stored lost

/-- A cancellation of a run that does not wait leaves its actions alone. -/
theorem cancelRunRows_lost {tenant : TenantContext} {allowOtherCreator : Bool} {now : Timestamp}
    {result : RunCancellation} (idle : rows.run.status ≠ .waitingApproval)
    (ran : cancelRunRows tenant allowOtherCreator now rows = .ok (later, result)) :
    later.actions = rows.actions := by
  unfold cancelRunRows at ran
  split at ran
  · cases ran
  split at ran
  · cases ran
  obtain ⟨closed, applied, written⟩ := map_ok ran
  cases written
  unfold applyCancellation at applied
  split at applied
  next waiting => exact absurd waiting idle
  · unfold cancelQueuedRun at applied
    split at applied
    · cases applied
    cases applied
    rfl
  · split at applied
    · cases applied
      rfl
    · cases applied
      rfl
  all_goals
    cases applied
    rfl

theorem cancelRun_lost {ops : List Op} {runId : UUID}
    (stored : ((stores cfg).reached ops).db.runs.get runId = some rows)
    (idle : rows.run.status ≠ .waitingApproval) (tenant : TenantContext) (target : UUID)
    (allowOtherCreator : Bool) (now : Timestamp) :
    ((stores cfg).reached (ops ++ [.cancelRun tenant target allowOtherCreator now])).action runId k =
      rows.actions.get k := by
  rw [Machine.reached_snoc]
  have here : ((stores cfg).reached ops).action runId k = rows.actions.get k := by
    rw [World.action, stored, Option.bind_some]
  rcases serve_db cfg ((stores cfg).reached ops) (.cancelRun tenant target allowOtherCreator now)
    with same | ⟨reply, ran, -⟩
  · exact (congrArg (fun db => (db.runs.get runId).bind fun rows => rows.actions.get k) same).trans
      here
  · obtain ⟨result, ran, -⟩ := answers_ok ran
    unfold cancelRun at ran
    split at ran
    · cases ran
    have ran := (transaction_ok ran).1
    split at ran
    · cases ran
    change World.action (serve cfg ((stores cfg).reached ops) _).1 runId k = _
    rcases onRun_ok ran with ⟨-, -, same⟩ | ⟨other, later, found, cancelled, written⟩
    · rw [World.action, same, ← World.action]
      exact here
    · obtain ⟨there, -⟩ := findRun_some found
      rw [World.action, written]
      by_cases same : runId = target
      · subst same
        cases stored.symm.trans there
        simp [Db.putRun, cancelRunRows_lost idle cancelled]
      · have still : (((stores cfg).reached ops).db.putRun target later).runs.get runId =
            some rows := (Table.put_get_of_ne _ _ same).trans stored
        rw [still, Option.bind_some]

end Races

/-- The resume path finds the decision of every request it can bind. -/
theorem resolveApprovalResume_agrees (cfg : Config) (ops : List Op) {tenant : TenantContext}
    {runId k : UUID} {rows : RunRows} {action : ActionRows} {request : ApprovalRequest}
    (current : requireCurrentTenant ((stores cfg).reached ops).db.memberships tenant = .ok ())
    (located : ((stores cfg).reached ops).db.findApproval tenant.workspaceId k = some (runId, rows))
    (found : rows.actions.get k = some action) (requested : action.request = some request)
    (bound : validateExactApprovalBinding cfg.digests action.intent request = .ok ()) :
    resolveApprovalResume cfg tenant request.runId k request.id ((stores cfg).reached ops).db =
      .ok { approvalRequest := request, actionIntentId := action.intent.id,
            decision := action.decisions.head?.map ApprovalDecision.decision } := by
  have here : ((stores cfg).reached ops).action runId k = some action := by
    rw [World.action, (Table.find?_some located).1, Option.bind_some, found]
  obtain ⟨held, coherent⟩ := reached_coherent ops here
  cases requested.symm.trans coherent.requested
  have single : ¬ 1 < action.decisions.length := Nat.not_lt.mpr coherent.single
  simp [resolveApprovalResume, current, located, found, requested, bound, single,
    coherent.allowed]

/-- In every reachable state an approval request has at most one decision, of the
kind its status allows, and its version counts the changes of its status. A
decision, a cancellation or a sweep that comes too late for it changes nothing,
and once it is closed nothing changes it. Whoever resumes on it finds its decision. -/
theorem approval_requests_coherent (cfg : Config) (ops : List Op) (runId k : UUID)
    (rows : RunRows) (action : ActionRows) (request : ApprovalRequest)
    (stored : ((stores cfg).reached ops).db.runs.get runId = some rows)
    (found : rows.actions.get k = some action) (requested : action.request = some request) :
    (action.decisions.length ≤ 1 ∧
      (∀ decision ∈ action.decisions, decision.approvalRequestId = request.id) ∧
      action.decisions.head?.map ApprovalDecision.decision ∈ request.status.allowedDecisions) ∧
    request.version =
      1 + ((stores cfg).changes (World.requestStatus runId k) (stores cfg).start ops : Nat) ∧
    (∀ command decisionId, command.actionIntentId = k →
      (request.status ≠ .pending ∨ request.expiresAt ≤ command.now ∨
        request.version ≠ command.expectedVersion) →
      ((stores cfg).reached (ops ++ [.decide command decisionId])).db =
        ((stores cfg).reached ops).db) ∧
    (∀ command, command.actionIntentId = k →
      (request.status ≠ command.reason.expected ∨ action.intent.status.waiting = false) →
      ((stores cfg).reached (ops ++ [.cancelAction command])).db =
        ((stores cfg).reached ops).db) ∧
    (SweptOver rows → ∀ locked now limit,
      ((stores cfg).reached (ops ++ [.sweep locked now limit])).db.runs.get runId = some rows) ∧
    (rows.run.status ≠ .waitingApproval → ∀ tenant target allowOtherCreator now,
      ((stores cfg).reached
        (ops ++ [.cancelRun tenant target allowOtherCreator now])).action runId k =
        some action) ∧
    (request.status.open? = false → ∀ op, ∃ kept,
      ((stores cfg).reached (ops ++ [op])).action runId k = some kept ∧
        kept.request = some request ∧ kept.decisions = action.decisions) ∧
    (∀ tenant, requireCurrentTenant ((stores cfg).reached ops).db.memberships tenant = .ok () →
      ((stores cfg).reached ops).db.findApproval tenant.workspaceId k = some (runId, rows) →
      validateExactApprovalBinding cfg.digests action.intent request = .ok () →
      resolveApprovalResume cfg tenant request.runId k request.id ((stores cfg).reached ops).db =
        .ok { approvalRequest := request, actionIntentId := action.intent.id,
              decision := action.decisions.head?.map ApprovalDecision.decision }) := by
  have here : ((stores cfg).reached ops).action runId k = some action := by
    rw [World.action, stored, Option.bind_some, found]
  obtain ⟨held, coherent⟩ := reached_coherent ops here
  cases requested.symm.trans coherent.requested
  refine ⟨⟨coherent.single, coherent.names, coherent.allowed⟩, ?_, ?_, ?_, ?_, ?_, ?_, ?_⟩
  · have asked : ((stores cfg).reached ops).request runId k = some request := by
      rw [World.request, here, Option.bind_some, requested]
    exact (reached_version ops runId k).2 request asked
  · exact fun command decisionId named lost => decide_lost here requested command decisionId named lost
  · exact fun command named lost => cancelAction_lost here requested command named lost
  · exact fun lost locked now limit => sweep_lost stored lost locked now limit
  · intro idle tenant target allowOtherCreator now
    exact (cancelRun_lost stored idle tenant target allowOtherCreator now).trans found
  · intro closed op
    have step := reached_action cfg ops op runId k
    rw [here] at step
    exact closed_step step requested closed
  · exact fun tenant current located bound =>
      resolveApprovalResume_agrees cfg ops current located found requested bound

/-- The request of action 6 was approved once: its version is 2. -/
theorem approval_requests_coherent_approved :
    ∃ rows action request,
      ((stores Sample.config).reached (Sample.waiting ++ [Sample.approve])).db.runs.get 3 =
        some rows ∧ rows.actions.get 6 = some action ∧ action.request = some request ∧
      request.status = .approved ∧ request.version = 2 ∧
      request.version = 1 + ((stores Sample.config).changes (World.requestStatus 3 6)
        (stores Sample.config).start (Sample.waiting ++ [Sample.approve]) : Nat) := by
  have reached : (((stores Sample.config).reached (Sample.waiting ++ [Sample.approve])).request
      3 6).map (fun request => (request.status, request.version)) = some (.approved, 2) := by
    decide +kernel
  obtain ⟨request, asked, is⟩ := Option.map_eq_some_iff.mp reached
  obtain ⟨approved, version⟩ := Prod.mk.inj is
  obtain ⟨action, stored, requested⟩ := Option.bind_eq_some_iff.mp asked
  obtain ⟨rows, stored, found⟩ := Option.bind_eq_some_iff.mp stored
  exact ⟨rows, action, request, stored, found, requested, approved, version,
    (approval_requests_coherent Sample.config (Sample.waiting ++ [Sample.approve]) 3 6 rows action
      request stored found requested).2.1⟩

end Pathfinder
