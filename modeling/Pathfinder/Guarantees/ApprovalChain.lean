import Pathfinder.Lifecycle.Invariants

/-!
# The approval behind an execution

An action is executed only after its own request was consumed in time, on one
timely approval that a decision step accepted; and nothing the reviewer saw has
changed since the proposal.
-/
namespace Pathfinder
open KeyedTable Machines

/-- The one decision on the request is an approval made before the expiry. -/
def Granted (request : ApprovalRequest) (decisions : List ApprovalDecision) : Prop :=
  ∃ decision, decisions = [decision] ∧ decision.approvalRequestId = request.id ∧
    decision.decision = .approve ∧ decision.decidedAt < request.expiresAt

/-- How the status of an intent and that of its request go together. -/
structure Chained (action : ActionRows) (request : ApprovalRequest) : Prop where
  requested : action.request = some request
  opened : request.status.open? = true → action.intent.status = .proposed
  authorized : action.intent.status ≠ .proposed → action.intent.status ≠ .cancelled →
    request.status = .consumed
  granted : request.status = .approved ∨ request.status = .consumed →
    Granted request action.decisions
  consumed : request.status = .consumed →
    ∃ consumedAt, request.consumedAt = some consumedAt ∧ consumedAt < request.expiresAt

/-- The request of an action has been turned down or the intent given up: it was
rejected, expired, superseded or cancelled. -/
def Withdrawn (action : ActionRows) : Prop :=
  action.intent.status = .cancelled ∨ ∃ request, action.request = some request ∧
    (request.status = .rejected ∨ request.status = .expired)

section Chain
variable {cfg : Config} {memberships : List WorkspaceMembership} {op : Op} {rows : RunRows}
  {action after : ActionRows}

theorem chained_proposed (facts : ProposalFacts) (requestId : UUID) (createdAt : Timestamp) :
    Chained (proposedRows facts requestId createdAt)
      (pendingRequest facts requestId createdAt) where
  requested := rfl
  opened := fun _ => rfl
  authorized := fun moved => absurd rfl moved
  granted := by simp [pendingRequest]
  consumed := nofun

/-- An action whose request and decisions stay, and whose intent is past the proposal. -/
theorem chained_executing {request : ApprovalRequest} (before : Chained action request)
    (executing : action.intent.status = .executing) (requested : after.request = action.request)
    (decisions : after.decisions = action.decisions) : Chained after request := by
  have consumed : request.status = .consumed := by
    refine before.authorized ?_ ?_ <;> rw [executing] <;> exact nofun
  refine ⟨requested.trans before.requested, ?_, fun _ _ => consumed, ?_, before.consumed⟩
  · rw [consumed]
    exact nofun
  · rw [decisions]
    exact before.granted

theorem chained_move (moved : ActionMove cfg memberships op rows action after)
    (before : ∃ request, Chained action request) : ∃ request, Chained after request := by
  obtain ⟨request, before⟩ := before
  cases moved with
  | decide command decisionId asked named requested pending undecided inTime =>
    cases before.requested.symm.trans requested
    have proposed := before.opened (by rw [pending]; rfl)
    refine ⟨_, rfl, fun _ => proposed, fun other => absurd proposed other, ?_, ?_⟩
    · intro decided
      have approve : command.decision = .approve := by
        cases choice : command.decision with
        | approve => rfl
        | reject =>
          rw [choice] at decided
          rcases decided with decided | decided <;> cases decided
      exact ⟨_, rfl, rfl, approve, inTime⟩
    · intro consumed
      cases choice : command.decision <;> rw [choice] at consumed <;> cases consumed
  | expire requested due facts expired =>
    cases before.requested.symm.trans requested
    have proposed := before.opened due
    refine ⟨_, rfl, ?_, fun other => absurd proposed other, ?_, ?_⟩ <;> rw [expired]
    · exact nofun
    · exact fun granted => by rcases granted with granted | granted <;> cases granted
    · exact nofun
  | withdraw requested closes facts recovery unbegun cancelled =>
    cases before.requested.symm.trans requested
    rcases closes with ⟨shut, rfl⟩ | ⟨-, -, expired, -⟩
    · refine ⟨_, rfl, ?_, fun _ other => absurd cancelled other, before.granted, before.consumed⟩
      rw [shut]
      exact nofun
    · refine ⟨_, rfl, ?_, fun _ other => absurd cancelled other, ?_, ?_⟩ <;> rw [expired]
      · exact nofun
      · exact fun granted => by rcases granted with granted | granted <;> cases granted
      · exact nofun
  | consume now invocationId requested approved inTime =>
    cases before.requested.symm.trans requested
    obtain ⟨decision, granted⟩ := before.granted (.inl approved)
    exact ⟨_, rfl, nofun, fun _ _ => rfl, fun _ => ⟨decision, granted⟩, fun _ => ⟨now, rfl, inTime⟩⟩
  | send identity now asked named requested consumed =>
    cases before.requested.symm.trans requested
    refine ⟨_, requested, ?_, fun _ _ => consumed, before.granted, before.consumed⟩
    rw [consumed]
    exact nofun
  | reconcile _ _ _ _ _ executing | resend _ _ _ _ _ _ _ executing
  | succeed _ _ _ _ _ _ _ executing | settle _ executing =>
    exact ⟨request, chained_executing before executing rfl rfl⟩

/-- What is withdrawn stays withdrawn. -/
theorem withdrawn_move (moved : ActionMove cfg memberships op rows action after)
    (before : Withdrawn action) : Withdrawn after := by
  have requestStands {status : ApprovalStatus} {request : ApprovalRequest}
      (requested : action.request = some request) (status_eq : request.status = status)
      (standing : status ≠ .rejected ∧ status ≠ .expired) : action.intent.status = .cancelled := by
    rcases before with cancelled | ⟨other, requestedToo, turnedDown⟩
    · exact cancelled
    · cases requested.symm.trans requestedToo
      rw [status_eq] at turnedDown
      rcases turnedDown with rejected | expired
      · exact absurd rejected standing.1
      · exact absurd expired standing.2
  have intentStands (executing : action.intent.status = .executing) :
      ∃ request, action.request = some request ∧
        (request.status = .rejected ∨ request.status = .expired) := by
    rcases before with cancelled | turnedDown
    · rw [executing] at cancelled
      cases cancelled
    · exact turnedDown
  cases moved with
  | decide command decisionId asked named requested pending =>
    exact .inl (requestStands requested pending ⟨nofun, nofun⟩)
  | expire requested due facts expired => exact .inr ⟨_, rfl, .inr expired⟩
  | withdraw requested closes facts recovery unbegun cancelled => exact .inl cancelled
  | consume now invocationId requested approved inTime proposed =>
    have cancelled := requestStands requested approved ⟨nofun, nofun⟩
    rw [proposed] at cancelled
    cases cancelled
  | send identity now asked named requested consumed invoked authorized =>
    have cancelled := requestStands requested consumed ⟨nofun, nofun⟩
    rw [authorized] at cancelled
    cases cancelled
  | reconcile _ _ _ _ _ executing | resend _ _ _ _ _ _ _ executing
  | succeed _ _ _ _ _ _ _ executing | settle _ executing =>
    exact .inr (intentStands executing)

/-- What is executed has not been withdrawn. -/
theorem begun_unwithdrawn {request : ApprovalRequest} (chained : Chained action request)
    (begun : action.intent.status.begun = true) :
    request.status = .consumed ∧ ¬ Withdrawn action := by
  have consumed : request.status = .consumed := by
    refine chained.authorized ?_ ?_ <;> intro status <;> rw [status] at begun <;> cases begun
  refine ⟨consumed, ?_⟩
  rintro (cancelled | ⟨other, requested, turnedDown⟩)
  · rw [cancelled] at begun
    cases begun
  · cases chained.requested.symm.trans requested
    rw [consumed] at turnedDown
    rcases turnedDown with status | status <;> cases status

end Chain

/-! ## The exact binding -/

/-- The check reads only what no store rewrites. -/
theorem validateExactApprovalBinding_facts (digests : Digests) (intent : ActionIntent)
    (request : ApprovalRequest) :
    validateExactApprovalBinding digests intent.facts request.facts =
      validateExactApprovalBinding digests intent request := rfl

/-- A proposal passes its own check. -/
theorem validateExactApprovalBinding_proposed (digests : Digests)
    (command : PrepareActionCommand) (requestId : UUID) (createdAt : Timestamp) :
    validateExactApprovalBinding digests (proposedIntent (deriveFacts digests command))
      (pendingRequest (deriveFacts digests command) requestId createdAt) = .ok () := by
  have agree : bindingFactsAgree (proposedIntent (deriveFacts digests command))
      (pendingRequest (deriveFacts digests command) requestId createdAt) = true := by
    simp [bindingFactsAgree, proposedIntent, pendingRequest, deriveFacts, command.key_supported,
      command.revision_bounds.1]
  have args : SubmitApplicationArgs.validate
      (proposedIntent (deriveFacts digests command)).argsSnapshot = some command.args :=
    dif_pos command.args.validated
  simp only [validateExactApprovalBinding, agree, args, Bool.not_true, Bool.false_eq_true,
    if_false]
  simp [proposedIntent, pendingRequest, deriveFacts, approvalBindingOf]

/-! ## Where the rows come from -/

/-- A decision step of the run accepted the decision, from an active member of
the workspace who may review. -/
def AcceptedDecision (cfg : Config) (ops : List Op) (actionIntentId : UUID)
    (decision : ApprovalDecision) : Prop :=
  ∃ before after command decisionId membership reply,
    ops = before ++ .decide command decisionId :: after ∧
    (stores cfg).answer ((stores cfg).reached before) (.decide command decisionId) = .ok reply ∧
    command.actionIntentId = actionIntentId ∧
    decision = decisionOf command decision.approvalRequestId decisionId ∧
    findMembership ((stores cfg).reached before).db.memberships command.tenant.workspaceId
      command.tenant.actorUserId = some membership ∧
    membership.revokedAt = none ∧ (membership.role = .reviewer ∨ membership.role = .admin)

/-- A request of the run proposed the action, which was not stored before, with
the facts the intent and its approval request carry. -/
def ProposedAs (cfg : Config) (ops : List Op) (runId actionIntentId : UUID)
    (action : ActionRows) : Prop :=
  ∃ before op after command requestId createdAt, ops = before ++ op :: after ∧
    op.proposes command requestId createdAt ∧ command.actionProposalId = actionIntentId ∧
    (∀ rows, ((stores cfg).reached before).db.runs.get runId = some rows →
      rows.actions.get actionIntentId = none) ∧
    action.intent.facts = proposedIntent (deriveFacts cfg.digests command) ∧
    action.request.map ApprovalRequest.facts =
      some (pendingRequest (deriveFacts cfg.digests command) requestId createdAt)

section Origins
variable {cfg : Config} {ops : List Op} {runId actionIntentId : UUID} {rows : RunRows}
  {action : ActionRows}

theorem reached_chained (stored : ((stores cfg).reached ops).db.runs.get runId = some rows)
    (found : rows.actions.get actionIntentId = some action) :
    ∃ request, Chained action request :=
  reached_actions (P := fun _ _ _ action => ∃ request, Chained action request)
    (fun _ _ _ _ _ before => before)
    (fun _ _ _ _ _ _ _ _ _ moved before => chained_move moved before)
    (fun _ _ _ _ requestId createdAt _ _ => ⟨_, chained_proposed _ requestId createdAt⟩)
    ops stored found

theorem reached_proposed (stored : ((stores cfg).reached ops).db.runs.get runId = some rows)
    (found : rows.actions.get actionIntentId = some action) :
    ProposedAs cfg ops runId actionIntentId action := by
  refine reached_actions (P := ProposedAs cfg) ?_ ?_ ?_ ops stored found
  · rintro ops op k j action ⟨before, asked, after, command, requestId, createdAt, rfl, origin⟩
    exact ⟨before, asked, after ++ [op], command, requestId, createdAt, by simp, origin⟩
  · rintro ops op k j rows action later reply answered moved
      ⟨before, asked, after, command, requestId, createdAt, split, proposes, key, absent, intent,
        request⟩
    exact ⟨before, asked, after, command, requestId, createdAt, split, proposes, key, absent,
      moved.facts.1.trans intent, moved.facts.2.trans request⟩
  · intro ops op k command requestId createdAt asked absent
    exact ⟨ops, op, [], command, requestId, createdAt, rfl, asked, rfl, absent, rfl, rfl⟩

theorem reached_accepted (stored : ((stores cfg).reached ops).db.runs.get runId = some rows)
    (found : rows.actions.get actionIntentId = some action) :
    ∀ decision ∈ action.decisions, AcceptedDecision cfg ops actionIntentId decision := by
  refine (reached_actions (P := fun ops _ j action => action.intent.id = j ∧
    ∀ decision ∈ action.decisions, AcceptedDecision cfg ops j decision) ?_ ?_ ?_ ops stored
    found).2
  · rintro ops op k j action ⟨keyed, accepted⟩
    refine ⟨keyed, fun decision member => ?_⟩
    obtain ⟨before, after, command, decisionId, membership, reply, rfl, facts⟩ :=
      accepted decision member
    exact ⟨before, after ++ [op], command, decisionId, membership, reply, by simp, facts⟩
  · rintro ops op k j rows action later reply answered moved ⟨keyed, accepted⟩
    refine ⟨(congrArg ActionIntent.id moved.facts.1).trans keyed, ?_⟩
    cases moved with
    | decide command decisionId asked named requested pending undecided inTime member active
        eligible =>
      intro decision decided
      rw [List.mem_singleton] at decided
      subst decided asked
      exact ⟨ops, [], command, decisionId, _, reply, rfl, answered, named.symm.trans keyed, rfl,
        member, active, eligible⟩
    | expire | withdraw | consume | send | reconcile | resend | succeed | settle => exact accepted
  · intro ops op k command requestId createdAt asked absent
    exact ⟨rfl, nofun⟩

end Origins

/-- In every reachable state, an action whose execution has begun has its request
consumed before the expiry, on one decision, an approval made before the expiry
by a reviewer a decision step accepted; the two rows pass the exact binding check
and carry the facts they were proposed with, as in every earlier state; and in
none of those was the request rejected or expired or the intent given up. -/
theorem approval_chain (cfg : Config) (ops : List Op) (runId actionIntentId : UUID)
    (rows : RunRows) (action : ActionRows)
    (stored : ((stores cfg).reached ops).db.runs.get runId = some rows)
    (found : rows.actions.get actionIntentId = some action)
    (begun : action.intent.status.begun = true) :
    ∃ request decision consumedAt, action.request = some request ∧
      request.status = .consumed ∧ request.consumedAt = some consumedAt ∧
      consumedAt < request.expiresAt ∧
      action.decisions = [decision] ∧ decision.approvalRequestId = request.id ∧
      decision.decision = .approve ∧ decision.decidedAt < request.expiresAt ∧
      AcceptedDecision cfg ops actionIntentId decision ∧
      validateExactApprovalBinding cfg.digests action.intent request = .ok () ∧
      ProposedAs cfg ops runId actionIntentId action ∧
      ∀ before after, ops = before ++ after → ∀ earlier first,
        ((stores cfg).reached before).db.runs.get runId = some earlier →
        earlier.actions.get actionIntentId = some first →
        first.intent.facts = action.intent.facts ∧
          first.request.map ApprovalRequest.facts = some request.facts ∧ ¬ Withdrawn first := by
  obtain ⟨request, chained⟩ := reached_chained stored found
  obtain ⟨consumed, unwithdrawn⟩ := begun_unwithdrawn chained begun
  obtain ⟨decision, decisions, bound, approve, inTime⟩ := chained.granted (.inr consumed)
  obtain ⟨consumedAt, consumption, ahead⟩ := chained.consumed consumed
  have accepted := reached_accepted stored found decision (by simp [decisions])
  have proposed := reached_proposed stored found
  have valid : validateExactApprovalBinding cfg.digests action.intent request = .ok () := by
    obtain ⟨_, _, _, command, requestId, createdAt, _, _, _, _, intent, requestFacts⟩ := proposed
    rw [chained.requested] at requestFacts
    rw [← validateExactApprovalBinding_facts, intent, Option.some.inj requestFacts,
      validateExactApprovalBinding_proposed]
  refine ⟨request, decision, consumedAt, chained.requested, consumed, consumption, ahead,
    decisions, bound, approve, inTime, accepted, valid, proposed, ?_⟩
  rintro before after rfl earlier first storedBefore foundBefore
  obtain ⟨later, moved, there, kept, path⟩ := reached_path storedBefore foundBefore
  cases stored.symm.trans there
  cases found.symm.trans kept
  obtain ⟨intent, requestFacts⟩ := moves_facts path
  refine ⟨intent.symm, ?_, fun withdrawn => unwithdrawn ?_⟩
  · rw [← requestFacts, chained.requested]
    rfl
  · exact moves_preserve (fun _ _ _ _ _ moved before => withdrawn_move moved before) path withdrawn

/-- The send of action 6 has begun on the reviewer's approval of request 7. -/
theorem approval_chain_executing :
    ∃ rows action request decision,
      ((stores Sample.config).reached Sample.executing).db.runs.get 3 = some rows ∧
      rows.actions.get 6 = some action ∧ action.intent.status = .executing ∧
      action.request = some request ∧ request.status = .consumed ∧
      action.decisions = [decision] ∧
      AcceptedDecision Sample.config Sample.executing 6 decision := by
  have reached : (((stores Sample.config).reached Sample.executing).db.runs.get 3).any
      (fun rows => (rows.actions.get 6).any fun action =>
        action.intent.status == .executing) = true := by
    decide +kernel
  obtain ⟨rows, stored, executing⟩ := (Option.any_eq_true _ _).mp reached
  obtain ⟨action, found, executing⟩ := (Option.any_eq_true _ _).mp executing
  obtain executing : action.intent.status = .executing := by simpa using executing
  obtain ⟨request, decision, consumedAt, requested, consumed, -, -, decisions, -, -, -, accepted,
    -⟩ := approval_chain Sample.config Sample.executing 3 6 rows action stored found
      (by rw [executing]; rfl)
  exact ⟨rows, action, request, decision, stored, found, executing, requested, consumed, decisions,
    accepted⟩

end Pathfinder
