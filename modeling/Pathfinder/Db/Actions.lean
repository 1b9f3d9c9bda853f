import Pathfinder.Db.Models

/-!
# The action store

`prepare_action`, `supersede_action` and `cancel_action` of `db/actions.py`.
-/
namespace Pathfinder
open KeyedTable

/-- `_ProposalFacts`. -/
structure ProposalFacts where
  workspaceId : UUID
  actorUserId : UUID
  runId : UUID
  actionIntentId : UUID
  actionKey : String
  actionRevision : Int
  argsSnapshot : ArgsSnapshot
  argsDigest : String
  targetSnapshot : TargetSnapshot
  targetDigest : String
  approvalBindingDigest : String
  policySnapshot : PolicySnapshot
  expiresAt : Timestamp

/-- `PreparedAction`. -/
structure PreparedAction where
  intent : ActionIntent
  approvalRequest : ApprovalRequest
  deriving DecidableEq, Repr

/-- `_derive_facts`. -/
def deriveFacts (digests : Digests) (command : PrepareActionCommand) : ProposalFacts :=
  let argsDigest := digests.args command.args.snapshot
  let targetDigest := digests.target trustedActionTarget
  { workspaceId := command.tenant.workspaceId, actorUserId := command.tenant.actorUserId,
    runId := command.runId, actionIntentId := command.actionProposalId,
    actionKey := command.actionKey, actionRevision := command.actionRevision,
    argsSnapshot := command.args.snapshot, argsDigest := argsDigest,
    targetSnapshot := trustedActionTarget, targetDigest := targetDigest,
    approvalBindingDigest := digests.binding
      { workspaceId := command.tenant.workspaceId, runId := command.runId,
        actionIntentId := command.actionProposalId, actionKey := command.actionKey,
        actionRevision := command.actionRevision, toolName := submitApplicationToolName,
        effect := .irreversible, argsDigest := argsDigest, targetDigest := targetDigest,
        policyVersion := policyVersion },
    policySnapshot := fixedApprovalPolicy, expiresAt := command.expiresAt }

/-- `_lock_application_run`. -/
def requireApplicationRun (rows : RunRows) (command : PrepareActionCommand) :
    Except StoreError Unit :=
  if rows.run.createdByUserId ≠ command.tenant.actorUserId then .error .notFound
  else if rows.run.mode ≠ .application then
    .error (.conflict "action preparation requires an application run")
  else if rows.run.status ≠ .running then
    .error (.conflict "action preparation requires a running run")
  else if rows.run.graphVersion ≠ currentGraphVersion then
    .error (.conflict "action preparation requires the current graph version")
  else if rows.run.resumeDocumentId ≠ some command.args.snapshot.resumeDocumentId then
    .error (.invariant "action resume document does not match its run")
  else .ok ()

/-- The inserted `action_intents` row. -/
def proposedIntent (facts : ProposalFacts) : ActionIntent :=
  { id := facts.actionIntentId, workspaceId := facts.workspaceId,
    originatingActorUserId := facts.actorUserId, runId := facts.runId,
    actionKey := facts.actionKey, actionRevision := facts.actionRevision,
    toolName := submitApplicationToolName, effect := .irreversible,
    argsSnapshot := facts.argsSnapshot, canonicalizationVersion := canonicalizationVersion,
    argsDigest := facts.argsDigest, targetSnapshot := facts.targetSnapshot,
    targetCanonicalizationVersion := targetCanonicalizationVersion,
    targetDigest := facts.targetDigest, approvalBindingVersion := approvalBindingVersion,
    approvalBindingDigest := facts.approvalBindingDigest, status := .proposed,
    idempotencyKey := facts.actionIntentId, recoveryAttempts := 0, result := none,
    evidence := none }

/-- The inserted `approval_requests` row. -/
def pendingRequest (facts : ProposalFacts) (requestId : UUID) (createdAt : Timestamp) :
    ApprovalRequest :=
  { id := requestId, workspaceId := facts.workspaceId, runId := facts.runId,
    actionIntentId := facts.actionIntentId, status := .pending, argsDigest := facts.argsDigest,
    targetDigest := facts.targetDigest, approvalBindingVersion := approvalBindingVersion,
    approvalBindingDigest := facts.approvalBindingDigest, policyVersion := policyVersion,
    policySnapshot := facts.policySnapshot, version := 1, expiresAt := facts.expiresAt,
    consumedAt := none, createdAt := createdAt }

/-- `_intent_matches`: every immutable column; status and recovery are not. -/
def intentMatches (row : ActionIntent) (facts : ProposalFacts) : Bool :=
  row.facts = proposedIntent facts

/-- `_request_matches`: every immutable column but the identity. -/
def requestMatches (row : ApprovalRequest) (facts : ProposalFacts) : Bool :=
  row.facts = pendingRequest facts row.id row.createdAt

/-- `_action_proposed_payload`. -/
def actionProposedPayload (facts : ProposalFacts) : Payload :=
  [("action_intent_id", .id facts.actionIntentId), ("action_key", .str facts.actionKey),
    ("action_revision", .int facts.actionRevision),
    ("tool_name", .str submitApplicationToolName), ("effect", .str "irreversible"),
    ("args_digest", .str facts.argsDigest), ("target_digest", .str facts.targetDigest),
    ("approval_binding_digest", .str facts.approvalBindingDigest)]

/-- `_proposal_events`, and the other event look-ups by intent. -/
def eventsOf (rows : RunRows) (type : RunEventType) (actionIntentId : UUID) : List RunEvent :=
  rows.events.filter fun event =>
    event.type = type ∧ event.payload.get? "action_intent_id" = some (.id actionIntentId)

/-- Every `action_intents` row, with the rows that belong to it. -/
def Db.allActions (db : Db) : List ActionRows :=
  db.runs.scan.flatMap fun run => run.2.actions.scan.map Prod.snd

/-- The row violates a unique key of `action_intents` against these facts. -/
def logicalKeyTaken (facts : ProposalFacts) (row : ActionIntent) : Bool :=
  row.workspaceId == facts.workspaceId && row.runId == facts.runId &&
    row.actionKey == facts.actionKey && row.actionRevision == facts.actionRevision

/-- `_read_intent_candidate`. -/
def readIntentCandidate (db : Db) (facts : ProposalFacts) :
    Except StoreError (Option ActionIntent) :=
  match db.allActions.filter fun action =>
      action.intent.workspaceId = facts.workspaceId ∧
        (action.intent.id = facts.actionIntentId ∨ logicalKeyTaken facts action.intent) with
  | [] => .ok none
  | [action] => .ok (some action.intent)
  | _ => .error (.invariant "action proposal identities resolve to different rows")

/-- A proposal whose intent is inserted by this transaction. -/
def createProposal (db : Db) (facts : ProposalFacts) (requestId : UUID) (serverNow : Timestamp)
    (rows : RunRows) : Except StoreError (RunRows × PreparedAction) :=
  -- `ON CONFLICT DO NOTHING` on the request: a taken identity leaves none to read
  if db.allActions.any fun action => action.request.any fun request => request.id == requestId then
    .error (.invariant "action proposal has no approval request")
  else if eventsOf rows .actionProposed facts.actionIntentId ≠ [] then
    .error (.invariant "new action proposal already has an event")
  else
    let intent := proposedIntent facts
    let request := pendingRequest facts requestId serverNow
    .ok ((rows.putAction facts.actionIntentId
        { intent := intent, request := some request, decisions := [], invocation := none }).pushEvent
      (some facts.actorUserId) .actionProposed (actionProposedPayload facts),
      { intent := intent, approvalRequest := request })

/-- A proposal whose intent exists: the stored rows must be those of the command. -/
def readProposal (facts : ProposalFacts) (action : ActionRows) (rows : RunRows) :
    Except StoreError (RunRows × PreparedAction) :=
  match action.request with
  | none => .error (.invariant "action proposal has no approval request")
  | some request =>
    if !requestMatches request facts then
      .error (.invariant "approval request immutable facts conflict")
    else if (eventsOf rows .actionProposed facts.actionIntentId).map RunEvent.payload ≠
        [actionProposedPayload facts] then
      .error (.invariant "persisted action proposal event is inconsistent")
    else .ok (rows, { intent := action.intent, approvalRequest := request })

/-- `_insert_proposal`. -/
def insertProposal (cfg : Config) (db : Db) (command : PrepareActionCommand) (allowCreate : Bool)
    (requestId : UUID) (serverNow : Timestamp) (rows : RunRows) :
    Except StoreError (RunRows × PreparedAction) :=
  let facts := deriveFacts cfg.digests command
  let conflicting := db.allActions.any fun action =>
    action.intent.id == facts.actionIntentId || logicalKeyTaken facts action.intent
  if allowCreate ∧ !conflicting then createProposal db facts requestId serverNow rows
  else match readIntentCandidate db facts with
    | .error reason => .error reason
    | .ok none => .error (.invariant "action proposal conflict has no authoritative row")
    | .ok (some intent) =>
      if !intentMatches intent facts then
        .error (.invariant "action proposal immutable facts conflict")
      else match rows.actions.get facts.actionIntentId with
        | none => .error (.invariant "action proposal conflict has no authoritative row")
        | some action => readProposal facts action rows

/-- A command on the run it names, by its creator. -/
def onTenantRun {α : Type} (tenant : TenantContext) (runId : UUID)
    (f : Db → RunRows → Except StoreError (RunRows × α)) : Body α :=
  transaction fun db =>
    match requireCurrentTenant db.memberships tenant with
    | .error reason => .error reason
    | .ok () => onRun tenant.workspaceId runId (.error .notFound) (f db) db

/-- `prepare_action` on the rows of the run. -/
def prepareActionRows (cfg : Config) (db : Db) (command : PrepareActionCommand)
    (requestId : UUID) (serverNow : Timestamp) (rows : RunRows) :
    Except StoreError (RunRows × PreparedAction) :=
  match requireApplicationRun rows command with
  | .error reason => .error reason
  | .ok () => insertProposal cfg db command true requestId serverNow rows

/-- `prepare_action`. -/
def prepareAction (cfg : Config) (command : PrepareActionCommand) (requestId : UUID)
    (serverNow : Timestamp) : Body PreparedAction := fun db =>
  if command.actionRevision ≠ initialActionRevision then
    .error (.conflict "initial action proposal revision must be one")
  else
    onTenantRun command.tenant command.runId
      (fun db => prepareActionRows cfg db command requestId serverNow) db

/-! ## Superseding -/

/-- The payload of the `approval.expired` event a supersession appends. -/
def supersededPayload (intent : ActionIntent) (requestId : UUID) : Payload :=
  [("approval_request_id", .id requestId), ("action_intent_id", .id intent.id),
    ("action_key", .str intent.actionKey), ("action_revision", .int intent.actionRevision),
    ("reason", .str "superseded")]

/-- `_superseded_events`. -/
def supersededEvents (rows : RunRows) (actionIntentId : UUID) : List RunEvent :=
  (eventsOf rows .approvalExpired actionIntentId).filter fun event =>
    event.payload.get? "reason" = some (.str "superseded")

/-- A supersession whose old intent is already cancelled replays; it creates nothing. -/
def replaySupersession (cfg : Config) (db : Db) (command : SupersedeActionCommand)
    (old : ActionIntent) (request : ApprovalRequest) (requestId : UUID) (serverNow : Timestamp)
    (rows : RunRows) : Except StoreError (RunRows × PreparedAction) :=
  if request.status ≠ .rejected ∧ request.status ≠ .expired then
    .error (.conflict "cancelled action has no superseded approval")
  else
    let events := supersededEvents rows old.id
    if 1 < events.length ∨ (request.status = .rejected ∧ events ≠ []) ∨
        (events.head?.any fun event => event.payload != supersededPayload old request.id) then
      .error (.invariant "superseded action event is inconsistent")
    else insertProposal cfg db command.asPrepareCommand false requestId serverNow rows

/-- The old intent is cancelled and its open request expires. -/
def retireAction (tenant : TenantContext) (actionIntentId : UUID) (action : ActionRows)
    (request : ApprovalRequest) (rows : RunRows) : Except StoreError RunRows :=
  let retired := { action with intent := { action.intent with status := .cancelled } }
  if request.status.open? then
    .ok ((rows.putAction actionIntentId
        { retired with request := some { request with
            status := .expired, version := request.version + 1, consumedAt := none } }).pushEvent
      (some tenant.actorUserId) .approvalExpired (supersededPayload action.intent request.id))
  else if request.status = .rejected ∨ request.status = .expired then
    .ok (rows.putAction actionIntentId retired)
  else .error (.invariant "persisted approval status cannot be superseded")

/-- `supersede_action` on the rows of the run. -/
def supersedeActionRows (cfg : Config) (db : Db) (command : SupersedeActionCommand)
    (requestId : UUID) (serverNow : Timestamp) (rows : RunRows) :
    Except StoreError (RunRows × PreparedAction) :=
  let prepare := command.asPrepareCommand
  match requireApplicationRun rows prepare with
  | .error reason => .error reason
  | .ok () =>
    match (rows.actions.get command.oldActionIntentId).filter fun action =>
        action.intent.originatingActorUserId == prepare.tenant.actorUserId with
    | none => .error .notFound
    | some action =>
      match action.request with
      | none => .error (.invariant "action intent has no approval request")
      | some request =>
        if prepare.actionKey ≠ action.intent.actionKey ∨
            prepare.actionRevision ≠ action.intent.actionRevision + 1 then
          .error (.conflict "supersede requires the same key and next revision")
        else if request.status = .consumed then
          .error (.conflict "consumed approval cannot be superseded")
        else if action.intent.status = .cancelled then
          replaySupersession cfg db command action.intent request requestId serverNow rows
        else if !action.intent.status.waiting then
          .error (.conflict "action state cannot be superseded")
        else match retireAction prepare.tenant command.oldActionIntentId action request rows with
          | .error reason => .error reason
          | .ok retired => insertProposal cfg db prepare true requestId serverNow retired

/-- `supersede_action`. -/
def supersedeAction (cfg : Config) (command : SupersedeActionCommand) (requestId : UUID)
    (serverNow : Timestamp) : Body PreparedAction := fun db =>
  if command.oldActionIntentId = command.asPrepareCommand.actionProposalId then
    .error (.conflict "supersede requires a new proposal identity")
  else
    onTenantRun command.asPrepareCommand.tenant command.asPrepareCommand.runId
      (fun db => supersedeActionRows cfg db command requestId serverNow) db

/-! ## Cancelling -/

/-- `cancel_action` on the rows of the run. The answer says whether it changed anything. -/
def cancelActionRows (cfg : Config) (command : CancelActionCommand) (rows : RunRows) :
    Except StoreError (RunRows × Bool) :=
  match rows.actions.get command.actionIntentId with
  | none => .error .notFound
  | some action =>
    match action.request.filter fun request => request.id == command.approvalRequestId with
    | none => .error .notFound
    | some request =>
      match validateExactApprovalBinding cfg.digests action.intent request with
      | .error reason => .error reason
      | .ok () =>
        let payload : Payload :=
          [("action_intent_id", .id action.intent.id), ("approval_request_id", .id request.id),
            ("reason", .str command.reason.value)]
        if request.status ≠ command.reason.expected then
          .error (.conflict "approval status cannot cancel action")
        else if action.intent.status = .cancelled then
          if (eventsOf rows .actionCancelled action.intent.id).map RunEvent.payload ≠ [payload] then
            .error (.invariant "cancelled action event is inconsistent")
          else .ok (rows, false)
        else if !action.intent.status.waiting then
          .error (.conflict "action state cannot be cancelled")
        else
          .ok ((rows.putAction command.actionIntentId
              { action with intent := { action.intent with status := .cancelled } }).pushEvent
            (some command.tenant.actorUserId) .actionCancelled payload, true)

/-- `cancel_action`. -/
def cancelAction (cfg : Config) (command : CancelActionCommand) : Body Bool :=
  onTenantRun command.tenant command.runId fun _ => cancelActionRows cfg command

end Pathfinder
