import Pathfinder.Library.Machine
import Pathfinder.Db.JobFinalization
import Pathfinder.Db.Runs
import Pathfinder.Db.Actions
import Pathfinder.Db.Approvals
import Pathfinder.Db.ActionExecution

/-!
# The stores as one machine

A request is one transaction of one store, with the values it is called with; a
run of the machine is any interleaving of any number of API processes, workers
and sweepers. Nothing constrains the clocks: every `now` is free. Memberships
and documents belong to other components and change at will between requests.
-/
namespace Pathfinder
open Machines

inductive Op where
  | setMemberships (memberships : List WorkspaceMembership)
  | setDocuments (documents : List Document)
  | createRun (create : CreateRunRequest) (facts : CreationFacts)
  | cancelRun (tenant : TenantContext) (runId : UUID) (allowOtherCreator : Bool)
      (now : Timestamp)
  | recordRetrieved (workspaceId runId actorUserId toolInvocationId : UUID)
      (documentIds chunkIds : List UUID) (embeddingProfile : String)
  | claim (locked : UUID → Bool) (workerId : String) (now : Timestamp)
      (leaseDuration : Timedelta) (ownerToken : UUID)
  | heartbeat (job : ClaimedJob) (now : Timestamp) (leaseDuration : Timedelta)
  | prepare (job : ClaimedJob) (resolvedTenant : Option TenantContext) (now : Timestamp)
  | complete (job : ClaimedJob) (result : RunOutput) (published : Except StoreError RunOutput)
      (now : Timestamp)
  | waitForApproval (job : ClaimedJob) (approvalRequestId : UUID) (now : Timestamp)
  | requeue (retryDelay : RetryDelayPolicy) (job : ClaimedJob) (errorCategory : String)
      (now : Timestamp)
  | release (retryDelay : RetryDelayPolicy) (job : ClaimedJob) (errorCategory : String)
      (now : Timestamp)
  | fail (retryDelay : RetryDelayPolicy) (job : ClaimedJob) (errorCategory : String)
      (now : Timestamp)
  | cancel (retryDelay : RetryDelayPolicy) (job : ClaimedJob) (reason : String)
      (now : Timestamp)
  | reclaim (retryDelay : RetryDelayPolicy) (locked : UUID → Bool) (now : Timestamp)
      (limit : Nat)
  | prepareAction (command : PrepareActionCommand) (requestId : UUID) (serverNow : Timestamp)
  | supersedeAction (command : SupersedeActionCommand) (requestId : UUID)
      (serverNow : Timestamp)
  | cancelAction (command : CancelActionCommand)
  | decide (command : ApprovalDecisionCommand) (decisionId : UUID)
  | sweep (locked : UUID → Bool) (now : Timestamp) (limit : Nat)
  | prepareExecution (identity : ActionExecutionIdentity) (invocationId : UUID)
      (now : Timestamp)
  | beginSend (identity : ActionExecutionIdentity) (now : Timestamp)
  | beginReconciliation (identity : ActionExecutionIdentity) (now : Timestamp)
  | authorizeResend (identity : ActionExecutionIdentity) (expectedRecoveryAttempt : Int)
      (now : Timestamp)
  | confirmSuccess (identity : ActionExecutionIdentity) (result : ConfirmedActionResult)
      (latencyMs : Int) (now : Timestamp)
  | confirmFailure (identity : ActionExecutionIdentity) (errorCategory : String)
      (evidence : Payload) (latencyMs : Int) (now : Timestamp)
  | confirmOutcomeUnknown (identity : ActionExecutionIdentity) (evidence : Payload)
      (latencyMs : Int) (now : Timestamp)

/-- What a request that commits answers. -/
inductive Reply where
  | done
  | accepted (result : RunAccepted)
  | cancellation (result : RunCancellation)
  | claimed (result : Option ClaimedJob)
  | held (result : Bool)
  | preparedClaim (result : PrepareClaimResult)
  | reclaimed (result : ReclaimSummary)
  | proposed (result : PreparedAction)
  | changed (result : Bool)
  | decided (result : ApprovalDecisionRecord)
  | swept (result : ApprovalExpirySweepSummary)
  | execution (result : PrepareOutcome)
  | send (result : SendAuthorization)
  | reconciliation (result : ReconciliationAuthorization)
  | resend (result : ResendAuthorization)

/-- A body that answers through `reply`. -/
def Body.answers {α : Type} (body : Body α) (reply : α → Reply) : Body Reply := fun db =>
  (body db).map fun done => (done.1, reply done.2)

/-- The transaction a request runs. Both the job store and the tool registry of a
deployment take `action_recovery_max_attempts` from the same worker settings. -/
def Op.body (cfg : Config) : Op → Body Reply
  | setMemberships memberships => fun db => .ok ({ db with memberships := memberships }, .done)
  | setDocuments documents => fun db => .ok ({ db with documents := documents }, .done)
  | createRun create facts => (Pathfinder.createRun cfg create facts).answers .accepted
  | cancelRun tenant runId allowOtherCreator now =>
    (Pathfinder.cancelRun tenant runId allowOtherCreator now).answers .cancellation
  | recordRetrieved workspaceId runId actorUserId toolInvocationId documentIds chunkIds profile =>
    (Pathfinder.recordRetrieved workspaceId runId actorUserId toolInvocationId documentIds chunkIds
      profile).answers fun _ => .done
  | claim locked workerId now leaseDuration ownerToken =>
    (claimDueJob cfg locked workerId now leaseDuration ownerToken).answers .claimed
  | heartbeat job now leaseDuration =>
    (Pathfinder.heartbeat job now leaseDuration).answers .held
  | prepare job resolvedTenant now =>
    (prepareClaimedJob cfg job resolvedTenant now).answers .preparedClaim
  | complete job result published now =>
    (Pathfinder.complete cfg job result published now).answers .held
  | waitForApproval job approvalRequestId now =>
    (Pathfinder.waitForApproval job approvalRequestId now).answers .held
  | requeue retryDelay job errorCategory now =>
    (Pathfinder.requeue cfg retryDelay job errorCategory now).answers .held
  | release retryDelay job errorCategory now =>
    (Pathfinder.release cfg retryDelay job errorCategory now).answers .held
  | fail retryDelay job errorCategory now =>
    (Pathfinder.fail cfg retryDelay job errorCategory now).answers .held
  | cancel retryDelay job reason now =>
    (Pathfinder.cancel cfg retryDelay job reason now).answers .held
  | reclaim retryDelay locked now limit =>
    (reclaimStaleLeases cfg retryDelay locked now limit).answers .reclaimed
  | prepareAction command requestId serverNow =>
    (Pathfinder.prepareAction cfg command requestId serverNow).answers .proposed
  | supersedeAction command requestId serverNow =>
    (Pathfinder.supersedeAction cfg command requestId serverNow).answers .proposed
  | cancelAction command => (Pathfinder.cancelAction cfg command).answers .changed
  | decide command decisionId => (decideApproval cfg command decisionId).answers .decided
  | sweep locked now limit => (sweepDueApprovalRequests locked now limit).answers .swept
  | prepareExecution identity invocationId now =>
    (Pathfinder.prepareExecution cfg identity invocationId now).answers .execution
  | beginSend identity now => (Pathfinder.beginSend cfg identity now).answers .send
  | beginReconciliation identity now =>
    (Pathfinder.beginReconciliation cfg identity cfg.actionRecoveryMaxAttempts now).answers
      .reconciliation
  | authorizeResend identity expectedRecoveryAttempt now =>
    (Pathfinder.authorizeResend cfg identity expectedRecoveryAttempt now).answers .resend
  | confirmSuccess identity result latencyMs now =>
    (Pathfinder.confirmSuccess cfg identity result latencyMs now).answers fun _ => .done
  | confirmFailure identity errorCategory evidence latencyMs now =>
    (Pathfinder.confirmFailure cfg identity errorCategory evidence latencyMs now).answers
      fun _ => .done
  | confirmOutcomeUnknown identity evidence latencyMs now =>
    (Pathfinder.confirmOutcomeUnknown cfg identity evidence latencyMs now).answers
      fun _ => .done

/-- The database, and the owner tokens `uuid4()` has returned so far. -/
structure World where
  db : Db
  issued : List UUID

def Db.empty : Db :=
  { memberships := [], documents := [], conversations := [], messages := [],
    runs := KeyedTable.Table.empty }

/-- The token a request draws. -/
def Op.token : Op → Option UUID
  | .claim _ _ _ _ ownerToken => some ownerToken
  | _ => none

/-- One request. A request that fails leaves the database as it was; a claim
whose token was drawn before is none, as `uuid4()` never returns a value twice. -/
def serve (cfg : Config) (world : World) (op : Op) : World × Except StoreError Reply :=
  if op.token.any fun token => token ∈ world.issued then (world, .error .unavailable)
  else
    let issued := world.issued ++ op.token.toList
    match op.body cfg world.db with
    | .error reason => ({ world with issued := issued }, .error reason)
    | .ok (db, reply) => ({ db := db, issued := issued }, .ok reply)

/-- The stores of a deployment. -/
def stores (cfg : Config) : Machine World Op (Except StoreError Reply) where
  start := { db := Db.empty, issued := [] }
  step := serve cfg

/-! ## A deployment in small

One workspace with a member and a reviewer, and the requests of one application
run: enough to reach each kind of state. -/

namespace Sample

def config : Config where
  executionContracts := legacyContracts 6
  actionRecoveryMaxAttempts := 3
  recovery_positive := by decide
  digests :=
    { args := fun snapshot => snapshot.jobRef, target := fun target => target.targetRef,
      binding := fun binding => binding.argsDigest,
      submission := fun request => request.payload.snapshot.jobRef }
  requestDigest := fun _ query _ => some query
  decodeInput := fun _ _ => true
  decodeOutput := fun _ result => some result.dump
  isLower := fun c => 'a' ≤ c && c ≤ 'z'
  isDigit := fun c => '0' ≤ c && c ≤ '9'
  generationPublisher := false
  revisionPublisher := false

def memberships : List WorkspaceMembership :=
  [⟨1, 10, .member, none⟩, ⟨1, 20, .reviewer, none⟩]

def member : TenantContext := ⟨1, 10, .member⟩

def reviewer : TenantContext := ⟨1, 20, .reviewer⟩

/-- Run 3 with job 4, on document 5. -/
def create : Op :=
  .createRun
    { tenant := member, mode := .application, resumeDocumentId := some 5,
      request := ⟨"apply", true⟩, graphVersion := currentGraphVersion, requestIdentity := none }
    { conversationId := 1, messageId := 2, runId := 3, jobId := 4, serverNow := 0,
      missedWinner := false }

/-- The claim of job 4 with a lease of ten seconds. -/
def claim (now : Timestamp) (ownerToken : UUID) : Op :=
  .claim (fun _ => false) "worker" now 10 ownerToken

/-- What a claim of job 4 returns. -/
def claimed (attempt : Int) (now : Timestamp) (ownerToken : UUID)
    (resumeApprovalRequestId : Option UUID) : ClaimedJob :=
  { jobId := 4, workspaceId := 1, runId := 3, originatingActorUserId := 10,
    graphVersion := currentGraphVersion, attempt := attempt, maxAttempts := 3,
    ownerToken := ownerToken, leaseExpiresAt := now + 10,
    resumeApprovalRequestId := resumeApprovalRequestId }

def args : SubmitApplicationArgs where
  snapshot := { jobRef := "job", resumeDocumentId := 5, answers := [], coverLetter := "letter" }
  validated := by decide

theorem first_revision : (1 : Int) ≤ 1 ∧ 1 ≤ maxCanonicalInteger := by decide

/-- Action 6 under approval request 7. -/
def propose : Op :=
  .prepareAction
    { tenant := member, runId := 3, actionProposalId := 6, actionKey := actionKey,
      actionRevision := 1, args := args, now := 0, expiresAt := 1000, key_supported := rfl,
      revision_bounds := by decide, expiry_ahead := by decide } 7 0

def approve : Op :=
  .decide
    { tenant := reviewer, actionIntentId := 6, decision := .approve, expectedVersion := 1,
      reason := none, now := 3 } 8

def identity : ActionExecutionIdentity := ⟨1, 3, 6, 7⟩

/-- The run is created, claimed and running. -/
def running : List Op :=
  [.setMemberships memberships, .setDocuments [⟨5, 1⟩], create, claim 1 100,
    .prepare (claimed 1 1 100 none) none 1]

/-- The action is proposed and the run waits for its approval. -/
def waiting : List Op :=
  running ++ [propose, .waitForApproval (claimed 1 1 100 none) 7 2]

/-- The approval is granted and consumed, and the send has begun. -/
def executing : List Op :=
  waiting ++ [approve, claim 4 101, .prepare (claimed 1 4 101 (some 7)) none 4,
    .prepareExecution identity 9 4, .beginSend identity 4]

end Sample
end Pathfinder
