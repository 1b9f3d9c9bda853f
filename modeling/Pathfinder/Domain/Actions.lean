import Pathfinder.Domain.Status

/-!
# Approved actions: snapshots, digests and the exact approval binding

`domain/actions.py`. A digest is SHA-256 over canonical JSON bytes behind a
domain prefix; the four digests of the system are functions of a configuration,
so no result here depends on what they compute.
-/
namespace Pathfinder

def actionKey : String := "submit_application"
def submitApplicationToolName : String := "submit_mock_application"
def initialActionRevision : Int := 1
def canonicalizationVersion : Int := 1
def targetCanonicalizationVersion : Int := 1
def approvalBindingVersion : Int := 1
def policyVersion : Int := 1
def maxCanonicalInteger : Int := 2147483647

/-- The code points `str.strip` removes. -/
def isPythonSpace (c : Char) : Bool :=
  let n := c.toNat
  (9 ≤ n && n ≤ 13) || (28 ≤ n && n ≤ 32) || n == 0x85 || n == 0xA0 || n == 0x1680 ||
    (0x2000 ≤ n && n ≤ 0x200A) || n == 0x2028 || n == 0x2029 || n == 0x202F || n == 0x205F ||
    n == 0x3000

def isBlank (text : String) : Bool := text.toList.all isPythonSpace

/-- A persisted `args_snapshot`: the object `SubmitApplicationArgsV1` dumps to. -/
structure ArgsSnapshot where
  jobRef : String
  resumeDocumentId : UUID
  answers : List (String × String)
  coverLetter : String
  deriving DecidableEq, Repr

namespace ArgsSnapshot

/-- The field constraints of `SubmitApplicationArgsV1`. -/
def valid (snapshot : ArgsSnapshot) : Bool :=
  1 ≤ snapshot.jobRef.length && snapshot.jobRef.length ≤ 500 && !isBlank snapshot.jobRef &&
  snapshot.answers.length ≤ 32 &&
  (snapshot.answers.all fun answer =>
    1 ≤ answer.1.length && answer.1.length ≤ 500 && !isBlank answer.1 &&
    answer.2.length ≤ 4000) &&
  1 ≤ snapshot.coverLetter.length && snapshot.coverLetter.length ≤ 20000 &&
  !isBlank snapshot.coverLetter

end ArgsSnapshot

/-- `SubmitApplicationArgsV1`: only validated arguments exist. -/
structure SubmitApplicationArgs where
  snapshot : ArgsSnapshot
  validated : snapshot.valid = true
  deriving DecidableEq, Repr

/-- `model_validate_json` of a persisted snapshot. -/
def SubmitApplicationArgs.validate (snapshot : ArgsSnapshot) : Option SubmitApplicationArgs :=
  if validated : snapshot.valid = true then some ⟨snapshot, validated⟩ else none

/-- `TrustedActionTargetV1` as it is dumped. -/
structure TargetSnapshot where
  provider : String
  targetType : String
  targetRef : String
  resourceScope : String
  deriving DecidableEq, Repr

/-- `trusted_action_target()`: every field is a fixed literal. -/
def trustedActionTarget : TargetSnapshot :=
  { provider := "mock_portal", targetType := "internal_mock", targetRef := "default",
    resourceScope := "application_submission" }

/-- `FixedApprovalPolicyV1` as it is dumped. -/
structure PolicySnapshot where
  eligibleRoles : List String
  requiredApprovals : Int
  separationOfDuty : Bool
  deriving DecidableEq, Repr

def fixedApprovalPolicy : PolicySnapshot :=
  { eligibleRoles := ["reviewer", "admin"], requiredApprovals := 1, separationOfDuty := false }

/-- `ApprovalBindingV1`. -/
structure ApprovalBinding where
  workspaceId : UUID
  runId : UUID
  actionIntentId : UUID
  actionKey : String
  actionRevision : Int
  toolName : String
  effect : ToolEffect
  argsDigest : String
  targetDigest : String
  policyVersion : Int
  deriving DecidableEq, Repr

/-- `MockSubmissionRequestV1`. -/
structure MockSubmissionRequest where
  workspaceId : UUID
  originatingActorUserId : UUID
  runId : UUID
  actionIntentId : UUID
  payload : SubmitApplicationArgs
  deriving DecidableEq, Repr

/-- The four digests, one for each domain prefix. -/
structure Digests where
  args : ArgsSnapshot → String
  target : TargetSnapshot → String
  binding : ApprovalBinding → String
  submission : MockSubmissionRequest → String

/-- A row of `action_intents`. -/
structure ActionIntent where
  id : UUID
  workspaceId : UUID
  originatingActorUserId : UUID
  runId : UUID
  actionKey : String
  actionRevision : Int
  toolName : String
  effect : ToolEffect
  argsSnapshot : ArgsSnapshot
  canonicalizationVersion : Int
  argsDigest : String
  targetSnapshot : TargetSnapshot
  targetCanonicalizationVersion : Int
  targetDigest : String
  approvalBindingVersion : Int
  approvalBindingDigest : String
  status : ActionIntentStatus
  idempotencyKey : UUID
  recoveryAttempts : Int
  /-- `{"external_ref": ...}`. -/
  result : Option String
  evidence : Option Payload
  deriving DecidableEq, Repr

/-- The columns of an intent that no store ever rewrites. -/
def ActionIntent.facts (intent : ActionIntent) : ActionIntent :=
  { intent with status := .proposed, recoveryAttempts := 0, result := none, evidence := none }

/-- A row of `approval_requests`. -/
structure ApprovalRequest where
  id : UUID
  workspaceId : UUID
  runId : UUID
  actionIntentId : UUID
  status : ApprovalStatus
  argsDigest : String
  targetDigest : String
  approvalBindingVersion : Int
  approvalBindingDigest : String
  policyVersion : Int
  policySnapshot : PolicySnapshot
  version : Int
  expiresAt : Timestamp
  consumedAt : Option Timestamp
  createdAt : Timestamp
  deriving DecidableEq, Repr

/-- The columns of a request that no store ever rewrites. -/
def ApprovalRequest.facts (request : ApprovalRequest) : ApprovalRequest :=
  { request with status := .pending, version := 1, consumedAt := none }

inductive Decision where
  | approve | reject
  deriving DecidableEq, Repr

def Decision.value : Decision → String
  | approve => "approve"
  | reject => "reject"

/-- A row of `approval_decisions`. -/
structure ApprovalDecision where
  id : UUID
  workspaceId : UUID
  approvalRequestId : UUID
  actorUserId : UUID
  decision : Decision
  reason : Option String
  decidedAt : Timestamp
  deriving DecidableEq, Repr

/-- A row of `tool_invocations` bound to an action. -/
structure ToolInvocation where
  id : UUID
  workspaceId : UUID
  originatingActorUserId : UUID
  runId : UUID
  actionIntentId : UUID
  toolName : String
  effect : ToolEffect
  argsDigest : String
  status : ToolInvocationStatus
  attempt : Int
  latencyMs : Option Int
  resultSummary : Option String
  errorCategory : Option String
  startedAt : Option Timestamp
  finishedAt : Option Timestamp
  deriving DecidableEq, Repr

/-- The columns of an invocation that no store ever rewrites. -/
def ToolInvocation.facts (invocation : ToolInvocation) : ToolInvocation :=
  { invocation with
    status := .prepared, attempt := 0, latencyMs := none, resultSummary := none,
    errorCategory := none, startedAt := none, finishedAt := none }

/-- The first conjunction of `validate_exact_approval_binding`: the persisted
facts of the two rows agree with each other and with the fixed versions. -/
def bindingFactsAgree (intent : ActionIntent) (request : ApprovalRequest) : Bool :=
  intent.workspaceId == request.workspaceId &&
  intent.runId == request.runId &&
  intent.id == request.actionIntentId &&
  intent.actionKey == actionKey &&
  1 ≤ intent.actionRevision &&
  intent.toolName == submitApplicationToolName &&
  intent.effect == .irreversible &&
  intent.canonicalizationVersion == canonicalizationVersion &&
  intent.targetCanonicalizationVersion == targetCanonicalizationVersion &&
  intent.approvalBindingVersion == approvalBindingVersion &&
  request.approvalBindingVersion == approvalBindingVersion &&
  request.policyVersion == policyVersion &&
  request.argsDigest == intent.argsDigest &&
  request.targetDigest == intent.targetDigest &&
  request.approvalBindingDigest == intent.approvalBindingDigest &&
  request.policySnapshot == fixedApprovalPolicy

/-- The binding an intent and its request digest to. -/
def approvalBindingOf (intent : ActionIntent) (request : ApprovalRequest) : ApprovalBinding :=
  { workspaceId := intent.workspaceId, runId := intent.runId, actionIntentId := intent.id,
    actionKey := intent.actionKey, actionRevision := intent.actionRevision,
    toolName := intent.toolName, effect := intent.effect, argsDigest := intent.argsDigest,
    targetDigest := intent.targetDigest, policyVersion := request.policyVersion }

/-- `validate_exact_approval_binding`: recompute the snapshot, digest and binding chain. -/
def validateExactApprovalBinding (digests : Digests) (intent : ActionIntent)
    (request : ApprovalRequest) : Except StoreError Unit :=
  if !bindingFactsAgree intent request then
    .error (.invariant "persisted approval binding facts conflict")
  else match SubmitApplicationArgs.validate intent.argsSnapshot with
    | none => .error (.invariant "persisted approval args snapshot is invalid")
    | some args =>
      if args.snapshot ≠ intent.argsSnapshot ∨ digests.args args.snapshot ≠ intent.argsDigest ∨
          trustedActionTarget ≠ intent.targetSnapshot ∨
          digests.target trustedActionTarget ≠ intent.targetDigest then
        .error (.invariant "persisted approval snapshot digest is invalid")
      else if digests.binding (approvalBindingOf intent request) ≠
          intent.approvalBindingDigest then
        .error (.invariant "persisted approval binding digest is invalid")
      else .ok ()

/-- `PrepareActionCommand`; `__post_init__` refuses the values the last three
fields exclude. -/
structure PrepareActionCommand where
  tenant : TenantContext
  runId : UUID
  actionProposalId : UUID
  actionKey : String
  actionRevision : Int
  args : SubmitApplicationArgs
  now : Timestamp
  expiresAt : Timestamp
  key_supported : actionKey = Pathfinder.actionKey
  revision_bounds : 1 ≤ actionRevision ∧ actionRevision ≤ maxCanonicalInteger
  expiry_ahead : now < expiresAt

/-- `SupersedeActionCommand`; its new proposal is validated as a prepare command. -/
structure SupersedeActionCommand where
  oldActionIntentId : UUID
  asPrepareCommand : PrepareActionCommand

inductive CancelReason where
  | approvalRejected | approvalExpired
  deriving DecidableEq, Repr

def CancelReason.value : CancelReason → String
  | approvalRejected => "approval_rejected"
  | approvalExpired => "approval_expired"

/-- The status of the request each reason goes with. -/
def CancelReason.expected : CancelReason → ApprovalStatus
  | approvalRejected => .rejected
  | approvalExpired => .expired

/-- `CancelActionCommand`. -/
structure CancelActionCommand where
  tenant : TenantContext
  runId : UUID
  actionIntentId : UUID
  approvalRequestId : UUID
  reason : CancelReason
  now : Timestamp

/-- `ApprovalDecisionCommand`; `__post_init__` bounds the version and the reason. -/
structure ApprovalDecisionCommand where
  tenant : TenantContext
  actionIntentId : UUID
  decision : Decision
  expectedVersion : Int
  reason : Option String
  now : Timestamp

/-- `ActionExecutionIdentity`. -/
structure ActionExecutionIdentity where
  workspaceId : UUID
  runId : UUID
  actionIntentId : UUID
  approvalRequestId : UUID
  deriving DecidableEq, Repr

/-- `ConfirmedActionResult.source`. -/
inductive ConfirmationSource where
  | initialResponse | reconciliationQuery | recoveryResend
  deriving DecidableEq, Repr

def ConfirmationSource.value : ConfirmationSource → String
  | initialResponse => "initial_response"
  | reconciliationQuery => "reconciliation_query"
  | recoveryResend => "recovery_resend"

/-- `ConfirmedActionResult`: digest and source come together or not at all. -/
structure ConfirmedActionResult where
  externalRef : String
  digestAndSource : Option (String × ConfirmationSource)
  deriving DecidableEq, Repr

end Pathfinder
