import Pathfinder.Guarantees.SendPermission

/-!
# The portal and the intents agree

Requests to the portal may be delivered at any later time, again or never, and their
responses lost. Whatever the interleaving, the portal stores at most one submission
for an action, an intent that succeeded has one with the reference and the digest it
recorded, and that digest is the one of the request that was approved. A failure
that is recorded because a query found nothing is final for the store, which permits
nothing afterwards; what was permitted before may still arrive.
-/
namespace Pathfinder
open KeyedTable Machines

/-! ## The approved request -/

/-- The request the columns of an intent stand for. -/
def ActionIntent.submissionRequest (intent : ActionIntent) : Option MockSubmissionRequest :=
  (SubmitApplicationArgs.validate intent.argsSnapshot).map fun args =>
    { workspaceId := intent.workspaceId
      originatingActorUserId := intent.originatingActorUserId
      runId := intent.runId
      actionIntentId := intent.id
      payload := args }

theorem submissionRequest_facts {first second : ActionIntent} (same : first.facts = second.facts) :
    first.submissionRequest = second.submissionRequest := by
  have facts (intent : ActionIntent) : intent.facts.submissionRequest = intent.submissionRequest :=
    rfl
  rw [← facts first, ← facts second, same]

/-- An execution stands for the request of its intent, before and after the operation. -/
theorem prepared_request {stored intent : ActionIntent} {request : ApprovalRequest}
    {invocation : ToolInvocation} {execution : PreparedActionExecution}
    (ready : prepared intent request invocation = .ok execution)
    (same : stored.facts = intent.facts) :
    stored.submissionRequest = some (approvedRequest execution) := by
  rw [submissionRequest_facts same]
  unfold prepared at ready
  split at ready
  · cases ready
  next args valid =>
    split at ready
    · cases ready
    cases ready
    simp [ActionIntent.submissionRequest, valid, approvedRequest]

theorem prepared_key {stored intent : ActionIntent} {request : ApprovalRequest}
    {invocation : ToolInvocation} {execution : PreparedActionExecution}
    (ready : prepared intent request invocation = .ok execution)
    (same : stored.facts = intent.facts) : execution.idempotencyKey = stored.idempotencyKey := by
  have key : stored.facts.idempotencyKey = intent.facts.idempotencyKey :=
    congrArg ActionIntent.idempotencyKey same
  refine Eq.trans ?_ key.symm
  unfold prepared at ready
  split at ready
  · cases ready
  split at ready
  · cases ready
  cases ready
  rfl

/-- Among the rows of a run the intent an identity names stands for this request. -/
def RunRows.approved (rows : RunRows) (identity : ActionExecutionIdentity)
    (request : MockSubmissionRequest) : Prop :=
  ∃ action, rows.actions.get identity.actionIntentId = some action ∧
    action.intent.submissionRequest = some request

def Db.approved (db : Db) (identity : ActionExecutionIdentity) (request : MockSubmissionRequest) :
    Prop :=
  ∃ rows, db.runs.get identity.runId = some rows ∧ rows.approved identity request

section Approved
variable {cfg : Config} {memberships : List WorkspaceMembership} {rows after : RunRows}
  {identity : ActionExecutionIdentity} {now : Timestamp}

theorem prepareExecutionRows_approved {invocationId : UUID} {execution : PreparedActionExecution}
    (ran : prepareExecutionRows cfg identity invocationId now memberships rows =
      .ok (after, .ok execution)) : rows.approved identity (approvedRequest execution) := by
  unfold prepareExecutionRows at ran
  split at ran
  · cases ran
  next action request bound =>
    obtain ⟨found, requested⟩ := lockBoundRows_ok bound
    refine ⟨action, found, ?_⟩
    split at ran
    · obtain ⟨execution', ready, written⟩ := map_ok ran
      cases written
      unfold prepareBegun at ready
      split at ready
      · cases ready
      split at ready
      · cases ready
      split at ready
      · cases ready
      · exact prepared_request ready rfl
    · split at ran
      · obtain ⟨closed, revoked, written⟩ := map_ok ran
        cases written
      · split at ran
        · cases ran
        split at ran
        · cases ran
        split at ran
        · split at ran
          · cases ran
          split at ran
          · cases ran
          obtain ⟨execution', ready, written⟩ := map_ok ran
          cases written
          exact prepared_request ready rfl
        · unfold consumeApproval at ran
          split at ran
          · cases ran
          split at ran
          · cases ran
          split at ran
          · cases ran
          split at ran
          · cases ran
          dsimp only at ran
          split at ran
          · cases ran
          next ready =>
            cases ran
            exact prepared_request ready rfl

theorem beginReconciliationRows_approved {maxAttempts : Int} {result : ReconciliationAuthorization}
    (ran : beginReconciliationRows cfg identity maxAttempts now rows = .ok (after, result)) :
    rows.approved identity (approvedRequest result.execution) := by
  unfold beginReconciliationRows at ran
  split at ran
  · cases ran
  next locked bound =>
    have lock := lockInvocation_ok bound
    refine ⟨locked.action, lock.found, ?_⟩
    dsimp only at ran
    split at ran <;>
    · obtain ⟨execution, ready, written⟩ := map_ok ran
      cases written
      exact prepared_request ready rfl

theorem authorizeResendRows_approved {expectedRecoveryAttempt : Int} {result : ResendAuthorization}
    (ran : authorizeResendRows cfg identity expectedRecoveryAttempt now memberships rows =
      .ok (after, result)) : rows.approved identity (approvedRequest result.execution) := by
  unfold authorizeResendRows at ran
  split at ran
  · cases ran
  next locked bound =>
    have lock := lockInvocation_ok bound
    refine ⟨locked.action, lock.found, ?_⟩
    split at ran <;>
    · dsimp only at ran
      obtain ⟨execution, ready, written⟩ := map_ok ran
      cases written
      exact prepared_request ready rfl

variable {world : World} {request : MockSubmissionRequest}

/-- No request rewrites what an intent stands for. -/
theorem serve_approved (sound : AllRuns (Sound cfg) world) (op : Op)
    (held : world.db.approved identity request) :
    (serve cfg world op).1.db.approved identity request := by
  obtain ⟨rows, stored, approved⟩ := held
  refine writes_follow (P := fun rows => rows.approved identity request) (serve_writes sound op) ?_
    stored approved
  rintro rows later effect ⟨action, found, stands⟩
  obtain ⟨kept, there, facts, -⟩ := deeds_keep effect.deeds found
  exact ⟨kept, there, (submissionRequest_facts facts).trans stands⟩

theorem prepareExecution_approved {invocationId : UUID} {execution : PreparedActionExecution}
    (answered : (serve cfg world (.prepareExecution identity invocationId now)).2 =
      .ok (.execution (.ok execution))) : world.db.approved identity (approvedRequest execution) := by
  obtain ⟨outcome, begun, same⟩ := answers_ok (serve_ran answered)
  cases same
  obtain ⟨rows, later, stored, worked, -⟩ := onIdentity_ok begun
  exact ⟨rows, stored, prepareExecutionRows_approved worked⟩

/-- The rows a reconciliation that has begun found and left. -/
theorem beginReconciliation_ran {result : ReconciliationAuthorization}
    (answered : (serve cfg world (.beginReconciliation identity now)).2 =
      .ok (.reconciliation result)) :
    ∃ rows later, world.db.runs.get identity.runId = some rows ∧
      beginReconciliationRows cfg identity cfg.actionRecoveryMaxAttempts now rows =
        .ok (later, result) := by
  obtain ⟨result', begun, same⟩ := answers_ok (serve_ran answered)
  cases same
  unfold beginReconciliation at begun
  split at begun
  · cases begun
  obtain ⟨rows, later, stored, worked, -⟩ := onIdentity_ok begun
  exact ⟨rows, later, stored, worked⟩

theorem beginReconciliation_approved {result : ReconciliationAuthorization}
    (answered : (serve cfg world (.beginReconciliation identity now)).2 =
      .ok (.reconciliation result)) :
    world.db.approved identity (approvedRequest result.execution) := by
  obtain ⟨rows, later, stored, worked⟩ := beginReconciliation_ran answered
  exact ⟨rows, stored, beginReconciliationRows_approved worked⟩

/-- The rows an answered request for a resend found and left. -/
theorem authorizeResend_ran {expectedRecoveryAttempt : Int} {result : ResendAuthorization}
    (answered : (serve cfg world (.authorizeResend identity expectedRecoveryAttempt now)).2 =
      .ok (.resend result)) :
    ∃ rows later, world.db.runs.get identity.runId = some rows ∧
      authorizeResendRows cfg identity expectedRecoveryAttempt now world.db.memberships rows =
        .ok (later, result) ∧
      (serve cfg world (.authorizeResend identity expectedRecoveryAttempt now)).1.db =
        world.db.putRun identity.runId later := by
  obtain ⟨result', begun, same⟩ := answers_ok (serve_ran answered)
  cases same
  unfold authorizeResend at begun
  split at begun
  · cases begun
  exact onIdentity_ok begun

theorem authorizeResend_approved {expectedRecoveryAttempt : Int} {result : ResendAuthorization}
    (answered : (serve cfg world (.authorizeResend identity expectedRecoveryAttempt now)).2 =
      .ok (.resend result)) : world.db.approved identity (approvedRequest result.execution) := by
  obtain ⟨rows, later, stored, worked, -⟩ := authorizeResend_ran answered
  exact ⟨rows, stored, authorizeResendRows_approved worked⟩

end Approved

/-! ## What an executor knows of the portal -/

/-- The portal stores a submission for the intent of a request, with this reference
and the digest of the request. -/
def Submitted (digests : Digests) (submissions : MockSubmissions)
    (request : MockSubmissionRequest) (externalRef : String) : Prop :=
  ∃ record, submissions.get request.actionIntentId = some record ∧
    record.externalRef = externalRef ∧ record.payloadDigest = digests.submission request

/-- What each phase knows: the executions it carries stand for the approved request,
and what it confirms is stored. -/
def ExecutorPhase.agrees (digests : Digests) (db : Db) (submissions : MockSubmissions)
    (identity : ActionExecutionIdentity) : ExecutorPhase → Prop
  | preparing | recovering | unanswered _ | rejected _ | ended _ => True
  | sending execution => db.approved identity (approvedRequest execution)
  | inquiring authorization | querying authorization _ | absent authorization =>
    db.approved identity (approvedRequest authorization.execution)
  | posting ready | posted ready _ =>
    ready.request = approvedRequest ready.execution ∧ db.approved identity ready.request
  | confirming result _ => ∃ request source, db.approved identity request ∧
    result.digestAndSource = some (digests.submission request, source) ∧
    Submitted digests submissions request result.externalRef

section Phases
variable {digests : Digests} {db after : Db} {submissions later : MockSubmissions}
  {identity : ActionExecutionIdentity} {phase : ExecutorPhase}

theorem ExecutorPhase.agrees_mono (held : phase.agrees digests db submissions identity)
    (approved : ∀ request, db.approved identity request → after.approved identity request)
    (kept : ∀ key record, submissions.get key = some record → later.get key = some record) :
    phase.agrees digests after later identity := by
  cases phase with
  | preparing | recovering | unanswered | rejected | ended => trivial
  | sending | inquiring | querying | absent => exact approved _ held
  | posting | posted => exact ⟨held.1, approved _ held.2⟩
  | confirming result returned =>
    obtain ⟨request, source, stands, digest, record, stored, agreed⟩ := held
    exact ⟨request, source, approved request stands, digest, record, kept _ _ stored, agreed⟩

theorem ExecutorPhase.late_agrees (held : phase.agrees digests db submissions identity) :
    phase.late.agrees digests db submissions identity := by
  cases phase with
  | preparing | inquiring => trivial
  | posting ready =>
    unfold late
    dsimp only
    split <;> trivial
  | _ => exact held

/-- A response that answers a request is a stored submission for its intent. -/
theorem submitted_of_answer {request : MockSubmissionRequest} {key : UUID}
    {record : MockSubmissionRecord} (sound : PortalSound digests submissions)
    (stored : submissions.get record.idempotencyKey = some record)
    (answers : answersRequest digests request key record = true) :
    Submitted digests submissions request record.externalRef := by
  simp only [answersRequest, Bool.and_eq_true, beq_iff_eq] at answers
  obtain ⟨⟨⟨-, intent⟩, -⟩, digest⟩ := answers
  have under := sound _ _ stored
  refine ⟨record, ?_, rfl, digest⟩
  rw [← intent, under.intent]
  exact stored

theorem ExecutorPhase.accepted_agrees {ready : Posting} {externalRef : String}
    (posted : ready.request = approvedRequest ready.execution ∧ db.approved identity ready.request)
    (submitted : Submitted digests submissions ready.request externalRef) :
    (accepted digests ready externalRef).agrees digests db submissions identity := by
  obtain ⟨same, approved⟩ := posted
  unfold accepted
  dsimp only
  split
  · exact ⟨ready.request, _, approved, by rw [same], submitted⟩
  · split
    · trivial
    · split
      · exact ⟨ready.request, _, approved, by rw [same], submitted⟩
      · trivial

theorem ExecutorPhase.received_agrees (held : phase.agrees digests db submissions identity)
    (sound : PortalSound digests submissions) (response : Option PortalResponse)
    (stored : ∀ record created, response = some (.submission record created) →
      submissions.get record.idempotencyKey = some record) :
    (phase.received digests response).agrees digests db submissions identity := by
  cases phase with
  | posted ready message =>
    unfold received readSubmitted
    dsimp only
    cases response with
    | none => trivial
    | some response =>
      cases response with
      | submission record created =>
        by_cases answers : answersRequest digests ready.request ready.idempotencyKey record = true
        · simp only [answers, if_true]
          exact accepted_agrees held (submitted_of_answer sound (stored _ _ rfl) answers)
        · simp only [answers]
          trivial
      | _ => trivial
  | querying authorization message =>
    unfold received readFound
    dsimp only
    cases response with
    | none => trivial
    | some response =>
      cases response with
      | submission record created =>
        by_cases answers : answersRequest digests (approvedRequest authorization.execution)
            authorization.execution.idempotencyKey record = true
        · simp only [answers, if_true]
          have submitted := submitted_of_answer sound (stored _ _ rfl) answers
          simp only [answersRequest, Bool.and_eq_true, beq_iff_eq] at answers
          exact ⟨_, _, held, by rw [answers.2], submitted⟩
        · simp only [answers]
          trivial
      | notFound => exact held
      | _ => trivial
  | _ => exact held

theorem approvedRequest_sameFacts {first second : PreparedActionExecution}
    (same : ExecutorPhase.sameFacts first second = true) :
    approvedRequest second = approvedRequest first := by
  simp only [ExecutorPhase.sameFacts, Bool.and_eq_true, beq_iff_eq] at same
  simp [approvedRequest, same]

/-- What an operation answers stands for the approved request, and so does what the
executor goes on with. -/
theorem ExecutorPhase.answered_agrees {cfg : Config} {world : World} {inputs : CallInputs}
    {op : Op} (sound : AllRuns (Sound cfg) world)
    (held : phase.agrees digests world.db submissions identity)
    (asked : phase.op identity inputs = some op) :
    (phase.answered (serve cfg world op).2).agrees digests (serve cfg world op).1.db submissions
      identity := by
  have kept (request : MockSubmissionRequest) (approved : world.db.approved identity request) :
      (serve cfg world op).1.db.approved identity request := serve_approved sound op approved
  cases phase with
  | preparing =>
    cases asked
    cases answered : (serve cfg world (.prepareExecution identity inputs.invocationId
        inputs.now)).2 with
    | error reason => trivial
    | ok reply =>
      cases reply with
      | execution outcome =>
        cases outcome with
        | error reason => trivial
        | ok execution =>
          change (ExecutorPhase.prepared execution).agrees digests _ submissions identity
          unfold ExecutorPhase.prepared
          split
          · trivial
          · trivial
          · trivial
          · trivial
          all_goals exact kept _ (prepareExecution_approved answered)
      | _ => trivial
  | sending execution =>
    cases asked
    cases answered : (serve cfg world (.beginSend identity inputs.now)).2 with
    | error reason => trivial
    | ok reply =>
      cases reply with
      | send authorization =>
        change (ExecutorPhase.permitted execution authorization).agrees digests _ submissions
          identity
        unfold ExecutorPhase.permitted
        split
        · trivial
        · split
          · trivial
          next same =>
            have same : ExecutorPhase.sameFacts authorization.execution execution = true := by
              simpa using same
            exact ⟨approvedRequest_sameFacts same, kept _ held⟩
      | _ => trivial
  | recovering =>
    cases asked
    cases answered : (serve cfg world (.beginReconciliation identity inputs.now)).2 with
    | error reason => trivial
    | ok reply =>
      cases reply with
      | reconciliation authorization =>
        dsimp only [ExecutorPhase.answered]
        split
        · exact kept _ (beginReconciliation_approved answered)
        · trivial
      | _ => trivial
  | absent authorization =>
    cases asked
    cases answered : (serve cfg world (.authorizeResend identity authorization.recoveryAttempt
        inputs.now)).2 with
    | error reason => trivial
    | ok reply =>
      cases reply with
      | resend resend =>
        dsimp only [ExecutorPhase.answered]
        split
        · exact ⟨rfl, kept _ (authorizeResend_approved answered)⟩
        · trivial
      | _ => trivial
  | unanswered | rejected =>
    cases asked
    cases (serve cfg world _).2 <;> trivial
  | confirming result returned =>
    cases asked
    cases (serve cfg world _).2 <;> trivial
  | inquiring | querying | posting | posted | ended => cases asked

end Phases

/-! ## Intents that succeeded -/

/-- The intent has recorded a submission the portal stores for its request. -/
def RecordsSubmission (digests : Digests) (submissions : MockSubmissions)
    (intent : ActionIntent) : Prop :=
  ∃ request externalRef evidence, intent.submissionRequest = some request ∧
    intent.result = some externalRef ∧ intent.evidence = some evidence ∧
    ("payload_digest", .str (digests.submission request)) ∈ evidence ∧
    Submitted digests submissions request externalRef

/-- The actions of a run that succeeded have. -/
def RunRows.submitted (digests : Digests) (submissions : MockSubmissions) (rows : RunRows) : Prop :=
  ∀ j action, rows.actions.get j = some action → action.intent.status = .succeeded →
    RecordsSubmission digests submissions action.intent

section Success
variable {cfg : Config} {memberships : List WorkspaceMembership} {op : Op} {rows after : RunRows}
  {world : World} {submissions : MockSubmissions}

def Op.confirms : Op → Bool
  | confirmSuccess .. => true
  | _ => false

theorem move_succeeds {action moved : ActionRows} {P : ActionIntent → Prop}
    (plain : op.confirms = false) (move : ActionMove cfg memberships op rows action moved)
    (before : action.intent.status = .succeeded → P action.intent)
    (now : moved.intent.status = .succeeded) : P moved.intent := by
  cases move with
  | decide | expire => exact before now
  | withdraw requested closes facts recovery unbegun cancelled => cases now.symm.trans cancelled
  | consume | send => cases now
  | reconcile identity now' asked named invoked executing => cases now.symm.trans executing
  | resend identity expectedRecoveryAttempt now' asked named current invoked executing =>
    cases now.symm.trans executing
  | succeed identity result latencyMs now' asked =>
    rw [asked] at plain
    cases plain
  | settle invoked executing sent facts recovery ended =>
    rw [now] at ended
    cases ended

/-- A request that does not confirm a success makes none. -/
theorem serve_unconfirming (sound : AllRuns (Sound cfg) world) (plain : op.confirms = false)
    (before : AllRuns (fun _ rows => rows.submitted cfg.digests submissions) world) :
    AllRuns (fun _ rows => rows.submitted cfg.digests submissions) (serve cfg world op).1 := by
  refine writes_preserve (serve_writes sound op) ?_ ?_ before
  · intro k rows later origin held effect
    refine deeds_preserve (P := fun _ action => action.intent.status = .succeeded →
      RecordsSubmission cfg.digests submissions action.intent) effect.deeds ?_ ?_ held
    · intro j action moved move before
      exact move_succeeds plain move before
    · intro command requestId createdAt _ _ _ succeeded
      cases succeeded
  · intro create facts executable j action found
    cases found

/-- A success is confirmed with what the portal stores. -/
theorem serve_confirming {identity : ActionExecutionIdentity} {result : ConfirmedActionResult}
    {latencyMs : Int} {now : Timestamp} {returned : Except ApprovedActionFailure Text}
    (knows : (ExecutorPhase.confirming result returned).agrees cfg.digests world.db submissions
      identity)
    (before : AllRuns (fun _ rows => rows.submitted cfg.digests submissions) world) :
    AllRuns (fun _ rows => rows.submitted cfg.digests submissions)
      (serve cfg world (.confirmSuccess identity result latencyMs now)).1 := by
  rcases serve_db cfg world (.confirmSuccess identity result latencyMs now) with
    same | ⟨reply, ran, -⟩
  · rw [AllRuns, same]
    exact before
  · dsimp only [Op.body] at ran
    obtain ⟨done, begun, -⟩ := answers_ok ran
    unfold confirmSuccess at begun
    split at begun
    · cases begun
    obtain ⟨rows, later, stored, worked, written⟩ := onIdentity_ok begun
    rw [AllRuns, written]
    refine Table.forall_put before ?_
    unfold confirmSuccessRows at worked
    split at worked
    · cases worked
    next locked bound =>
      cases worked
      have lock := lockInvocation_ok bound
      obtain ⟨request, source, ⟨rows', stored', action, found, stands⟩, digest, submitted⟩ := knows
      cases stored.symm.trans stored'
      cases lock.found.symm.trans found
      refine Table.forall_put (before _ _ stored) ?_
      intro _
      refine ⟨request, result.externalRef, _, ?_, rfl, rfl, ?_, submitted⟩
      · exact (submissionRequest_facts rfl).trans stands
      · simp [successEvidence, digest]

end Success

/-! ## Runs -/

/-- The invariant of a run: the portal is sound, a submission in a response is
stored, every executor agrees with both and every success is submitted. -/
structure Agreeing (cfg : Config) (deployment : Deployment) : Prop where
  sound : AllRuns (Sound cfg) deployment.world
  portal : PortalSound cfg.digests deployment.submissions
  responses : ∀ message record created,
    (message, PortalResponse.submission record created) ∈ deployment.responses →
      deployment.submissions.get record.idempotencyKey = some record
  phases : ∀ executor ∈ deployment.executors,
    executor.phase.agrees cfg.digests deployment.world.db deployment.submissions executor.identity
  succeeded : AllRuns (fun _ rows => rows.submitted cfg.digests deployment.submissions)
    deployment.world

section Runs
variable {cfg : Config} {before after : Deployment} {told : Option (Nat × Happening)}

/-- One executor goes on within its knowledge. -/
theorem Agreeing.enter (held : Agreeing cfg before) (i : Nat) {executor : Executor}
    {phase : ExecutorPhase}
    (next : phase.agrees cfg.digests before.world.db before.submissions executor.identity) :
    Agreeing cfg (before.enter i executor phase) := by
  refine ⟨held.sound, held.portal, held.responses, ?_, held.succeeded⟩
  intro other member
  rcases List.mem_or_eq_of_mem_set member with member | rfl
  · exact held.phases other member
  · exact next

theorem Agreeing.post (held : Agreeing cfg before) (message : PortalMessage) :
    Agreeing cfg (before.post message) :=
  ⟨held.sound, held.portal, held.responses, held.phases, held.succeeded⟩

theorem RecordsSubmission.mono {digests : Digests} {submissions later : MockSubmissions}
    {intent : ActionIntent} (records : RecordsSubmission digests submissions intent)
    (kept : ∀ key record, submissions.get key = some record → later.get key = some record) :
    RecordsSubmission digests later intent := by
  obtain ⟨request, externalRef, evidence, stands, result, recorded, digest, record, stored, agreed⟩ :=
    records
  exact ⟨request, externalRef, evidence, stands, result, recorded, digest, record,
    kept _ _ stored, agreed⟩

/-- A request arrives at the portal, and its response is under way. -/
theorem Agreeing.deliver (held : Agreeing cfg before) (message : Nat) (facts : InsertedFacts) :
    Agreeing cfg (before.deliver cfg message facts) := by
  unfold Deployment.deliver
  split
  · exact held
  next idempotencyKey _ =>
    refine ⟨held.sound, held.portal, ?_, held.phases, held.succeeded⟩
    intro other record created member
    rcases List.mem_append.mp member with member | member
    · exact held.responses other record created member
    · unfold getMockApplication at member
      split at member
      next stored =>
        cases List.mem_singleton.mp member
        rw [(held.portal _ _ stored).keyed]
        exact stored
      · cases List.mem_singleton.mp member
  next request idempotencyKey _ =>
    have sound : PortalSound cfg.digests (submitMockApplication cfg.digests before.submissions
        request idempotencyKey facts).1 := submitMockApplication_sound held.portal
    have kept (key : UUID) (record : MockSubmissionRecord)
        (stored : before.submissions.get key = some record) :
        (submitMockApplication cfg.digests before.submissions request idempotencyKey
          facts).1.get key = some record := submitMockApplication_keeps stored
    refine ⟨held.sound, sound, ?_, ?_, ?_⟩
    · intro other record created member
      rcases List.mem_append.mp member with member | member
      · exact kept _ _ (held.responses other record created member)
      · have same := (Prod.mk.inj (List.mem_singleton.mp member)).2
        have stored := submitMockApplication_stored same.symm
        rw [(sound _ _ stored).keyed]
        exact stored
    · exact fun executor member => ExecutorPhase.agrees_mono (held.phases executor member)
        (fun _ => id) kept
    · intro k rows stored j action found succeeded
      exact (held.succeeded k rows stored j action found succeeded).mono kept

/-- A request to the stores. -/
theorem Agreeing.request (held : Agreeing cfg before) (op : Op)
    (succeeded : AllRuns (fun _ rows => rows.submitted cfg.digests before.submissions)
      (serve cfg before.world op).1) :
    Agreeing cfg { before with world := (serve cfg before.world op).1 } := by
  refine ⟨serve_sound held.sound op, held.portal, held.responses, ?_, succeeded⟩
  intro executor member
  exact ExecutorPhase.agrees_mono (held.phases executor member)
    (fun _ approved => serve_approved held.sound op approved) (fun _ _ => id)

theorem Agreeing.step (held : Agreeing cfg before) (moves : ActionMoves cfg before told after) :
    Agreeing cfg after := by
  cases moves with
  | still => exact held
  | store op plain =>
    have unconfirming : op.confirms = false := by
      cases op <;> first | rfl | cases plain
    exact held.request op (serve_unconfirming held.sound unconfirming held.succeeded)
  | start identity =>
    refine ⟨held.sound, held.portal, held.responses, ?_, held.succeeded⟩
    intro executor member
    rcases List.mem_append.mp member with member | member
    · exact held.phases executor member
    · cases List.mem_singleton.mp member
      trivial
  | deliver message facts => exact held.deliver message facts
  | @call i executor found inputs op asked =>
    have knows := held.phases executor (List.mem_of_getElem? found)
    have succeeded : AllRuns (fun _ rows => rows.submitted cfg.digests before.submissions)
        (serve cfg before.world op).1 := by
      obtain ⟨identity, phase⟩ := executor
      cases phase with
      | confirming result returned =>
        cases asked
        exact serve_confirming knows held.succeeded
      | preparing | sending | recovering | absent | unanswered | rejected =>
        cases asked
        refine serve_unconfirming held.sound ?_ held.succeeded
        rfl
      | inquiring | querying | posting | posted | ended => cases asked
    exact (held.request op succeeded).enter i
      (ExecutorPhase.answered_agrees held.sound knows asked)
  | @post i executor found ready here =>
    have knows := held.phases executor (List.mem_of_getElem? found)
    rw [here] at knows
    exact (held.post _).enter i knows
  | @query i executor found authorization here =>
    have knows := held.phases executor (List.mem_of_getElem? found)
    rw [here] at knows
    exact (held.post _).enter i knows
  | @receive i executor found message response arrived awaited =>
    have knows := held.phases executor (List.mem_of_getElem? found)
    refine held.enter i (ExecutorPhase.received_agrees knows held.portal _ ?_)
    intro record created same
    cases same
    exact held.responses message record created arrived
  | @lose i executor found =>
    have knows := held.phases executor (List.mem_of_getElem? found)
    exact held.enter i (ExecutorPhase.received_agrees knows held.portal _ nofun)
  | @late i executor found =>
    exact held.enter i
      (ExecutorPhase.late_agrees (held.phases executor (List.mem_of_getElem? found)))
  | @stop i executor found =>
    exact held.enter i trivial

variable (cfg) in
theorem reached_agreeing (events : List ActionEvent) :
    Agreeing cfg ((actionExecutors cfg).reached events) := by
  refine (actionExecutors cfg).reached_invariant ?_
    (fun before event held => held.step (actionStep_moves cfg before event)) events
  have sound : AllRuns (Sound cfg) (stores cfg).start := start_runs _
  have succeeded : AllRuns (fun _ rows => rows.submitted cfg.digests Table.empty)
    (stores cfg).start := start_runs _
  refine ⟨sound, ?_, ?_, ?_, succeeded⟩
  · intro key record stored
    cases stored
  · intro message record created arrived
    cases arrived
  · intro executor member
    cases member

end Runs

/-- For every interleaving of executors, requests and responses: two submissions for
one action are the same, and an action that succeeded has one, with the reference and
the digest that it recorded and that digest the one of the request it stands for. -/
theorem portal_agreement (cfg : Config) (events : List ActionEvent) :
    let deployment := (actionExecutors cfg).reached events
    (∀ first second one other, deployment.submissions.get first = some one →
      deployment.submissions.get second = some other →
      one.request.actionIntentId = other.request.actionIntentId → first = second ∧ one = other) ∧
    ∀ k rows j action, deployment.world.db.runs.get k = some rows →
      rows.actions.get j = some action → action.intent.status = .succeeded →
      ∃ request record evidence, action.intent.submissionRequest = some request ∧
        deployment.submissions.get j = some record ∧
        action.intent.result = some record.externalRef ∧
        record.payloadDigest = cfg.digests.submission request ∧
        action.intent.evidence = some evidence ∧
        ("payload_digest", .str record.payloadDigest) ∈ evidence := by
  intro deployment
  have held := reached_agreeing cfg events
  constructor
  · intro first second one other stored there same
    have place : first = second := by
      rw [← (held.portal _ _ stored).intent, ← (held.portal _ _ there).intent, same]
    subst place
    exact ⟨rfl, Option.some.inj (stored.symm.trans there)⟩
  · intro k rows j action stored found succeeded
    obtain ⟨request, externalRef, evidence, stands, result, recorded, digest, record, kept, same,
      agrees⟩ := held.succeeded k rows stored j action found succeeded
    have named : request.actionIntentId = j := by
      have keyed := (held.sound k rows stored).keyed j action found
      rw [← keyed]
      simp only [ActionIntent.submissionRequest, Option.map_eq_some_iff] at stands
      obtain ⟨args, -, rfl⟩ := stands
      rfl
    refine ⟨request, record, evidence, stands, named ▸ kept, ?_, agrees, recorded, ?_⟩
    · rw [result, same]
    · rw [agrees]
      exact digest

/-! ## Failures that were confirmed absent -/

section Absence
variable {cfg : Config} {memberships : List WorkspaceMembership} {rows after : RunRows}
  {world : World} {identity : ActionExecutionIdentity} {now : Timestamp}

/-- The key of every intent is its own. -/
def RunRows.ownKeys (rows : RunRows) : Prop :=
  ∀ j action, rows.actions.get j = some action → action.intent.idempotencyKey = j

theorem serve_ownKeys (sound : AllRuns (Sound cfg) world)
    (before : AllRuns (fun _ rows => rows.ownKeys) world) (op : Op) :
    AllRuns (fun _ rows => rows.ownKeys) (serve cfg world op).1 := by
  refine writes_preserve (serve_writes sound op) ?_ ?_ before
  · intro k rows later origin held effect
    refine deeds_preserve (P := fun j action => action.intent.idempotencyKey = j) effect.deeds ?_ ?_
      held
    · intro j action moved move same
      have key : moved.intent.facts.idempotencyKey = action.intent.facts.idempotencyKey :=
        congrArg ActionIntent.idempotencyKey move.facts.1
      exact key.trans same
    · exact fun _ _ _ _ _ _ => rfl
  · intro create facts executable j action found
    cases found

theorem beginReconciliation_key {result : ReconciliationAuthorization}
    (keys : AllRuns (fun _ rows => rows.ownKeys) world)
    (answered : (serve cfg world (.beginReconciliation identity now)).2 =
      .ok (.reconciliation result)) :
    result.execution.idempotencyKey = identity.actionIntentId := by
  obtain ⟨rows, later, stored, worked⟩ := beginReconciliation_ran answered
  unfold beginReconciliationRows at worked
  split at worked
  · cases worked
  next locked bound =>
    have key := keys _ _ stored _ _ (lockInvocation_ok bound).found
    dsimp only at worked
    split at worked <;>
    · obtain ⟨execution, ready, written⟩ := map_ok worked
      cases written
      rw [← key]
      exact prepared_key ready rfl

/-- While the executor waited for the response to its query, the portal stored
nothing for the intent. -/
def SawNothing (cfg : Config) (events : List ActionEvent) (i : Nat)
    (identity : ActionExecutionIdentity) (authorization : ReconciliationAuthorization) : Prop :=
  ∃ earlier later message, events = earlier ++ later ∧
    ((actionExecutors cfg).reached earlier).executors[i]? =
      some ⟨identity, .querying authorization message⟩ ∧
    ((actionExecutors cfg).reached earlier).submissions.get identity.actionIntentId = none

theorem SawNothing.snoc {events : List ActionEvent} {i : Nat}
    {authorization : ReconciliationAuthorization}
    (saw : SawNothing cfg events i identity authorization) (event : ActionEvent) :
    SawNothing cfg (events ++ [event]) i identity authorization := by
  obtain ⟨earlier, later, message, rfl, waits, nothing⟩ := saw
  exact ⟨earlier, later ++ [event], message, List.append_assoc _ _ _, waits, nothing⟩

/-- What the query of an executor tells it, in each phase from the query on. -/
def ExecutorPhase.saw (cfg : Config) (events : List ActionEvent) (deployment : Deployment) (i : Nat)
    (identity : ActionExecutionIdentity) : ExecutorPhase → Prop
  | inquiring authorization => authorization.execution.idempotencyKey = identity.actionIntentId
  | querying authorization message =>
    deployment.messages[message]? = some (.get identity.actionIntentId) ∧
      ((message, .notFound) ∈ deployment.responses → SawNothing cfg events i identity authorization)
  | absent authorization => SawNothing cfg events i identity authorization
  | _ => True

/-- The invariant: keys are own, a response answers a message that was sent, and every
executor has seen what its phase says. -/
structure Seen (cfg : Config) (events : List ActionEvent) (deployment : Deployment) : Prop where
  keys : AllRuns (fun _ rows => rows.ownKeys) deployment.world
  numbered : ∀ message response, (message, response) ∈ deployment.responses →
    message < deployment.messages.length
  saw : ∀ i (executor : Executor), deployment.executors[i]? = some executor →
    executor.phase.saw cfg events deployment i executor.identity

variable {events : List ActionEvent} {event : ActionEvent} {before later : Deployment} {i : Nat}
  {phase : ExecutorPhase} {told : Option (Nat × Happening)}

theorem ExecutorPhase.saw_snoc (held : phase.saw cfg events before i identity)
    (event : ActionEvent)
    (sent : ∀ (m : Nat) message, before.messages[m]? = some message →
      later.messages[m]? = some message)
    (responses : later.responses = before.responses) :
    phase.saw cfg (events ++ [event]) later i identity := by
  cases phase with
  | querying authorization message =>
    refine ⟨sent _ _ held.1, fun arrived => (held.2 ?_).snoc event⟩
    rwa [responses] at arrived
  | absent authorization => exact SawNothing.snoc held event
  | inquiring authorization => exact held
  | _ => trivial

/-- One executor goes on, perhaps with a message. -/
theorem Seen.enter (held : Seen cfg events before) (event : ActionEvent) {executor : Executor}
    (found : before.executors[i]? = some executor)
    (set : later.executors = before.executors.set i { executor with phase := phase })
    (keys : AllRuns (fun _ rows => rows.ownKeys) later.world)
    (sent : ∃ messages, later.messages = before.messages ++ messages)
    (responses : later.responses = before.responses)
    (next : phase.saw cfg (events ++ [event]) later i executor.identity) :
    Seen cfg (events ++ [event]) later := by
  obtain ⟨messages, sent⟩ := sent
  refine ⟨keys, ?_, ?_⟩
  · intro message response arrived
    rw [responses] at arrived
    rw [sent, List.length_append]
    exact Nat.lt_add_right _ (held.numbered message response arrived)
  · intro j other there
    rw [set] at there
    by_cases same : j = i
    · subst same
      have inside : j < before.executors.length := (List.getElem?_eq_some_iff.mp found).1
      rw [List.getElem?_set_self inside] at there
      cases there
      exact next
    · rw [List.getElem?_set_ne (Ne.symm same)] at there
      refine ExecutorPhase.saw_snoc (held.saw j other there) event ?_ responses
      intro m message here
      rw [sent, List.getElem?_append_left (List.getElem?_eq_some_iff.mp here).1]
      exact here

theorem ExecutorPhase.received_saw (held : phase.saw cfg events before i identity)
    (event : ActionEvent) (digests : Digests) (response : Option PortalResponse)
    (arrived : ∀ message, phase.awaits = some message → ∀ there, response = some there →
      (message, there) ∈ before.responses)
    (sent : ∀ (m : Nat) message, before.messages[m]? = some message →
      later.messages[m]? = some message)
    (responses : later.responses = before.responses) :
    (phase.received digests response).saw cfg (events ++ [event]) later i identity := by
  cases phase with
  | querying authorization message =>
    unfold received
    dsimp only
    split
    · trivial
    next absent => exact (held.2 (arrived message rfl _ (readFound_none absent))).snoc event
    · trivial
  | posted ready message =>
    unfold received
    dsimp only
    split
    · unfold accepted
      dsimp only
      split
      · trivial
      · split
        · trivial
        · split <;> trivial
    all_goals trivial
  | _ => exact saw_snoc held event sent responses

theorem ExecutorPhase.late_saw (held : phase.saw cfg events before i identity)
    (event : ActionEvent)
    (sent : ∀ (m : Nat) message, before.messages[m]? = some message →
      later.messages[m]? = some message)
    (responses : later.responses = before.responses) :
    phase.late.saw cfg (events ++ [event]) later i identity := by
  cases phase with
  | preparing | inquiring => trivial
  | posting ready =>
    unfold late
    dsimp only
    split <;> trivial
  | _ => exact saw_snoc held event sent responses

/-- Behind a transaction only the key of the query is to be known. -/
theorem ExecutorPhase.answered_saw {inputs : CallInputs} {op : Op}
    (keys : AllRuns (fun _ rows => rows.ownKeys) world)
    (asked : phase.op identity inputs = some op) (events : List ActionEvent)
    (deployment : Deployment) :
    (phase.answered (serve cfg world op).2).saw cfg events deployment i identity := by
  cases phase with
  | preparing =>
    cases asked
    cases (serve cfg world (.prepareExecution identity inputs.invocationId inputs.now)).2 with
    | error reason => trivial
    | ok reply =>
      cases reply with
      | execution outcome =>
        cases outcome with
        | error reason => trivial
        | ok execution =>
          change (ExecutorPhase.prepared execution).saw cfg events deployment i identity
          unfold ExecutorPhase.prepared
          split <;> trivial
      | _ => trivial
  | sending execution =>
    cases asked
    cases (serve cfg world (.beginSend identity inputs.now)).2 with
    | error reason => trivial
    | ok reply =>
      cases reply with
      | send authorization =>
        change (ExecutorPhase.permitted execution authorization).saw cfg events deployment i identity
        unfold ExecutorPhase.permitted
        split
        · trivial
        · split <;> trivial
      | _ => trivial
  | recovering =>
    cases asked
    cases answered : (serve cfg world (.beginReconciliation identity inputs.now)).2 with
    | error reason => trivial
    | ok reply =>
      cases reply with
      | reconciliation authorization =>
        dsimp only [ExecutorPhase.answered]
        split
        · exact beginReconciliation_key keys answered
        · trivial
      | _ => trivial
  | absent authorization =>
    cases asked
    cases (serve cfg world (.authorizeResend identity authorization.recoveryAttempt
        inputs.now)).2 with
    | error reason => trivial
    | ok reply =>
      cases reply with
      | resend resend =>
        dsimp only [ExecutorPhase.answered]
        split <;> trivial
      | _ => trivial
  | unanswered | rejected =>
    cases asked
    cases (serve cfg world _).2 <;> trivial
  | confirming result returned =>
    cases asked
    cases (serve cfg world _).2 <;> trivial
  | inquiring | querying | posting | posted | ended => cases asked

/-- A response sets out. -/
theorem ExecutorPhase.saw_response (held : phase.saw cfg events before i identity)
    (event : ActionEvent) {message : Nat} {response : PortalResponse}
    (sent : later.messages = before.messages)
    (responses : later.responses = before.responses ++ [(message, response)])
    (nothing : ∀ authorization, phase = querying authorization message → response = .notFound →
      SawNothing cfg (events ++ [event]) i identity authorization) :
    phase.saw cfg (events ++ [event]) later i identity := by
  cases phase with
  | querying authorization number =>
    refine ⟨sent ▸ held.1, fun arrived => ?_⟩
    rw [responses] at arrived
    rcases List.mem_append.mp arrived with old | new
    · exact (held.2 old).snoc event
    · obtain ⟨same, found⟩ := Prod.mk.inj (List.mem_singleton.mp new)
      exact nothing authorization (by rw [same]) found.symm
  | absent authorization => exact SawNothing.snoc held event
  | inquiring authorization => exact held
  | _ => trivial

/-- A message is delivered: a query that finds nothing finds it now. -/
theorem Seen.deliver (held : Seen cfg events ((actionExecutors cfg).reached events))
    (event : ActionEvent) (message : Nat) (facts : InsertedFacts) :
    Seen cfg (events ++ [event])
      (((actionExecutors cfg).reached events).deliver cfg message facts) := by
  have numbered (response : PortalResponse) {content : PortalMessage}
      (sent : ((actionExecutors cfg).reached events).messages[message]? = some content) :
      ∀ other there, (other, there) ∈ ((actionExecutors cfg).reached events).responses ++
        [(message, response)] → other < ((actionExecutors cfg).reached events).messages.length := by
    intro other there arrived
    rcases List.mem_append.mp arrived with old | new
    · exact held.numbered other there old
    · cases List.mem_singleton.mp new
      exact (List.getElem?_eq_some_iff.mp sent).1
  unfold Deployment.deliver
  split
  · refine ⟨held.keys, held.numbered, fun i executor there => ?_⟩
    exact ExecutorPhase.saw_snoc (held.saw i executor there) event (fun _ _ => id) rfl
  next key sent =>
    refine ⟨held.keys, numbered _ sent, fun i executor there => ?_⟩
    have saw := held.saw i executor there
    refine ExecutorPhase.saw_response saw event rfl rfl fun authorization waits absent => ?_
    obtain ⟨identity, phase⟩ := executor
    cases waits
    have asked : key = identity.actionIntentId := by
      cases sent.symm.trans saw.1
      rfl
    refine ⟨events, [event], message, rfl, there, ?_⟩
    rw [← asked]
    unfold getMockApplication at absent
    split at absent
    · cases absent
    next nothing => exact nothing
  next request key sent =>
    refine ⟨held.keys, numbered _ sent, fun i executor there => ?_⟩
    refine ExecutorPhase.saw_response (held.saw i executor there) event rfl rfl ?_
    exact fun authorization _ absent => absurd absent submitMockApplication_found

theorem Seen.step (held : Seen cfg events ((actionExecutors cfg).reached events))
    (sound : AllRuns (Sound cfg) ((actionExecutors cfg).reached events).world)
    (event : ActionEvent)
    (moves : ActionMoves cfg ((actionExecutors cfg).reached events) told later) :
    Seen cfg (events ++ [event]) later := by
  have same (i : Nat) (executor : Executor) (next : Deployment)
      (there : ((actionExecutors cfg).reached events).executors[i]? = some executor)
      (messages : next.messages = ((actionExecutors cfg).reached events).messages)
      (responses : next.responses = ((actionExecutors cfg).reached events).responses) :
      executor.phase.saw cfg (events ++ [event]) next i executor.identity := by
    refine ExecutorPhase.saw_snoc (held.saw i executor there) event ?_ responses
    rw [messages]
    exact fun _ _ => id
  cases moves with
  | still => exact ⟨held.keys, held.numbered, fun i executor there => same i executor _ there rfl rfl⟩
  | store op plain =>
    exact ⟨serve_ownKeys sound held.keys op, held.numbered,
      fun i executor there => same i executor _ there rfl rfl⟩
  | start identity =>
    refine ⟨held.keys, held.numbered, fun i executor there => ?_⟩
    rcases Nat.lt_or_ge i ((actionExecutors cfg).reached events).executors.length with
      inside | outside
    · rw [List.getElem?_append_left inside] at there
      exact same i executor _ there rfl rfl
    · rw [List.getElem?_append_right outside, List.getElem?_singleton] at there
      split at there
      · cases there
        trivial
      · cases there
  | deliver message facts => exact held.deliver event message facts
  | call i found inputs op asked =>
    exact held.enter event found rfl (serve_ownKeys sound held.keys op)
      ⟨[], (List.append_nil _).symm⟩ rfl (ExecutorPhase.answered_saw held.keys asked _ _)
  | post i found ready here => exact held.enter event found rfl held.keys ⟨_, rfl⟩ rfl trivial
  | query i found authorization here =>
    have key := held.saw i _ found
    rw [here] at key
    refine held.enter event found rfl held.keys ⟨_, rfl⟩ rfl ⟨?_, fun arrived => ?_⟩
    · have key : authorization.execution.idempotencyKey = _ := key
      simp [Deployment.enter, Deployment.post, key]
    · exact absurd (held.numbered _ _ arrived) (Nat.lt_irrefl _)
  | receive i found message response arrived awaited =>
    refine held.enter event found rfl held.keys ⟨[], (List.append_nil _).symm⟩ rfl ?_
    refine ExecutorPhase.received_saw (held.saw i _ found) event _ _ ?_ (fun _ _ => id) rfl
    intro other waits there same
    cases same
    cases awaited.symm.trans waits
    exact arrived
  | lose i found =>
    refine held.enter event found rfl held.keys ⟨[], (List.append_nil _).symm⟩ rfl ?_
    exact ExecutorPhase.received_saw (held.saw i _ found) event _ _ (fun _ _ _ => nofun)
      (fun _ _ => id) rfl
  | late i found =>
    refine held.enter event found rfl held.keys ⟨[], (List.append_nil _).symm⟩ rfl ?_
    exact ExecutorPhase.late_saw (held.saw i _ found) event (fun _ _ => id) rfl
  | stop i found =>
    exact held.enter event found rfl held.keys ⟨[], (List.append_nil _).symm⟩ rfl trivial

variable (cfg) in
theorem reached_seen (events : List ActionEvent) :
    Seen cfg events ((actionExecutors cfg).reached events) := by
  induction events using List.reverseRecOn with
  | nil =>
    have keys : AllRuns (fun _ rows => rows.ownKeys) (stores cfg).start := start_runs _
    refine ⟨keys, ?_, ?_⟩
    · intro message response arrived
      cases arrived
    · intro i executor there
      cases there
  | append_singleton events event ih =>
    rw [Machine.reached_snoc]
    exact ih.step (reached_agreeing cfg events).sound event (actionStep_moves cfg _ event)

theorem ActionMoves.served {op : Op} {answer : Except StoreError Reply}
    (moves : ActionMoves cfg before told later) (same : told = some (i, .served op answer)) :
    ∃ executor inputs, before.executors[i]? = some executor ∧
      executor.phase.op executor.identity inputs = some op ∧
      (serve cfg before.world op).2 = answer ∧ later.world = (serve cfg before.world op).1 := by
  cases moves with
  | @call i executor found inputs op asked =>
    cases same
    exact ⟨executor, inputs, found, asked, rfl, rfl⟩
  | _ => cases same

/-- An intent that came to its end stays in every run, which permits nothing for it. -/
theorem ActionMoves.ended {k j : UUID} {intent : ActionIntent}
    (moves : ActionMoves cfg before told later) (sound : AllRuns (Sound cfg) before.world)
    (held : before.world.db.intends k j intent) (begun : intent.status.begun = true)
    (settled : intent.status.transitions = []) :
    AllRuns (Sound cfg) later.world ∧ later.world.db.intends k j intent ∧
      ∀ entry, told = some entry → entry.2.grant k j = none := by
  cases moves with
  | store op plain =>
    exact ⟨serve_sound sound op, serve_ended sound held begun settled op, fun _ same => nomatch same⟩
  | call i found inputs op asked =>
    refine ⟨serve_sound sound op, serve_ended sound held begun settled op, ?_⟩
    rintro entry ⟨⟩
    exact grantedFor_settled held settled op
  | deliver message facts =>
    rw [(Deployment.deliver_frame message facts).1]
    exact ⟨sound, held, fun _ same => nomatch same⟩
  | post | query =>
    refine ⟨sound, held, ?_⟩
    rintro entry ⟨⟩
    rfl
  | still | start | receive | lose | late | stop => exact ⟨sound, held, fun _ same => nomatch same⟩

/-- A refused resend fails the intent as confirmed absent. -/
theorem authorizeResend_refused {expectedRecoveryAttempt : Int} {result : ResendAuthorization}
    (answered : (serve cfg world (.authorizeResend identity expectedRecoveryAttempt now)).2 =
      .ok (.resend result)) (denied : result.allowed = false) :
    ∃ intent evidence, (serve cfg world
        (.authorizeResend identity expectedRecoveryAttempt now)).1.db.intends identity.runId
          identity.actionIntentId intent ∧ intent.status = .failed ∧
      intent.evidence = some evidence ∧
      ("classification", .str "confirmed_absent") ∈ evidence := by
  obtain ⟨rows, later, stored, worked, written⟩ := authorizeResend_ran answered
  rw [written]
  unfold authorizeResendRows at worked
  split at worked
  · cases worked
  next locked bound =>
    split at worked <;> dsimp only at worked <;>
      obtain ⟨execution, ready, same⟩ := map_ok worked <;> cases same
    · exact ⟨_, _, ⟨_, Table.put_get_self _ _ _, _, Table.put_get_self _ _ _, rfl⟩, rfl, rfl,
        by simp⟩
    · cases denied

/-- A resend that is refused fails the action for good: in front of it the portal
stored nothing for the intent while the executor waited for its query within the same
recovery attempt, and behind it the intent is failed as confirmed absent, stays that very
row in every continuation, and nothing is permitted for the action any more. -/
theorem confirmed_absence (cfg : Config) (events : List ActionEvent) (event : ActionEvent)
    (i : Nat) (identity : ActionExecutionIdentity) (recoveryAttempt : Int) (now : Timestamp)
    (result : ResendAuthorization)
    (refused : (actionExecutors cfg).answer ((actionExecutors cfg).reached events) event =
      some (i, .served (.authorizeResend identity recoveryAttempt now) (.ok (.resend result))))
    (denied : result.allowed = false) :
    (∃ authorization, authorization.recoveryAttempt = recoveryAttempt ∧
      SawNothing cfg events i identity authorization) ∧
    ∃ intent evidence, intent.status = .failed ∧ intent.evidence = some evidence ∧
      ("classification", .str "confirmed_absent") ∈ evidence ∧
      ∀ rest, ((actionExecutors cfg).reached (events ++ event :: rest)).world.db.intends
          identity.runId identity.actionIntentId intent ∧
        ∀ entry ∈ (actionExecutors cfg).history
            ((actionExecutors cfg).reached (events ++ [event])) rest,
          entry.2.grant identity.runId identity.actionIntentId = none := by
  obtain ⟨executor, inputs, found, asked, answered, written⟩ :=
    (actionStep_moves cfg ((actionExecutors cfg).reached events) event).served refused
  obtain ⟨intent, evidence, held, failed, recorded, absent⟩ :=
    authorizeResend_refused answered denied
  have begun : intent.status.begun = true := by
    rw [failed]
    rfl
  have settled : intent.status.transitions = [] := by
    rw [failed]
    rfl
  have now : AllRuns (Sound cfg) ((actionExecutors cfg).reached (events ++ [event])).world ∧
      ((actionExecutors cfg).reached (events ++ [event])).world.db.intends identity.runId
        identity.actionIntentId intent := by
    refine ⟨(reached_agreeing cfg _).sound, ?_⟩
    rw [Machine.reached_snoc]
    exact written ▸ held
  have keeps (deployment : Deployment) (event : ActionEvent)
      (held : AllRuns (Sound cfg) deployment.world ∧
        deployment.world.db.intends identity.runId identity.actionIntentId intent) :=
    (actionStep_moves cfg deployment event).ended held.1 held.2 begun settled
  refine ⟨?_, intent, evidence, failed, recorded, absent, fun rest => ⟨?_, ?_⟩⟩
  · have saw := (reached_seen cfg events).saw i executor found
    obtain ⟨identity, phase⟩ := executor
    cases phase with
    | absent authorization =>
      cases asked
      exact ⟨authorization, rfl, saw⟩
    | _ => cases asked
  · rw [List.append_cons, Machine.reached_append]
    exact ((actionExecutors cfg).after_preserves (P := fun deployment =>
      AllRuns (Sound cfg) deployment.world ∧
        deployment.world.db.intends identity.runId identity.actionIntentId intent)
      (fun deployment event held => ⟨(keeps deployment event held).1,
        (keeps deployment event held).2.1⟩) now rest).2
  · exact (actionExecutors cfg).history_forall
      (fun deployment event held => ⟨(keeps deployment event held).1,
        (keeps deployment event held).2.1⟩)
      (fun deployment event entry held told => (keeps deployment event held).2.2 entry told)
      now rest

/-- The POST of the first executor is under way; a second one has queried the portal,
and the run is cancelled. -/
def Sample.queried : List ActionEvent :=
  Sample.sendBegun ++ [.send 0, .stop 0, .store (.cancelRun Sample.member 3 false 5),
    .start Sample.identity, .call 1 ⟨10, 0, 6⟩, .call 1 ⟨0, 0, 6⟩, .send 1,
    .deliver 1 ⟨20, 21, 7⟩, .receive 1 0]

theorem confirmed_absence_sample :
    (∃ authorization, authorization.recoveryAttempt = 1 ∧
      SawNothing Sample.config Sample.queried 1 Sample.identity authorization) ∧
    ∃ intent evidence, intent.status = .failed ∧ intent.evidence = some evidence ∧
      ("classification", .str "confirmed_absent") ∈ evidence ∧
      ∀ rest, ((actionExecutors Sample.config).reached (Sample.queried ++ .call 1 ⟨0, 0, 7⟩ ::
          rest)).world.db.intends 3 6 intent ∧
        ∀ entry ∈ (actionExecutors Sample.config).history ((actionExecutors Sample.config).reached
            (Sample.queried ++ [.call 1 ⟨0, 0, 7⟩])) rest, entry.2.grant 3 6 = none := by
  have refused : ∃ result : ResendAuthorization, result.allowed = false ∧
      (actionExecutors Sample.config).answer ((actionExecutors Sample.config).reached
        Sample.queried) (.call 1 ⟨0, 0, 7⟩) =
          some (1, .served (.authorizeResend Sample.identity 1 7) (.ok (.resend result))) :=
    ⟨_, rfl, rfl⟩
  obtain ⟨result, denied, refused⟩ := refused
  exact confirmed_absence Sample.config Sample.queried (.call 1 ⟨0, 0, 7⟩) 1 Sample.identity 1 7
    result refused denied

end Absence
end Pathfinder
