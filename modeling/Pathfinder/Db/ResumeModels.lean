import Pathfinder.Db.Models
import Pathfinder.Domain.ResumeRevision

/-!
# Rows of resume sessions, versions and facts

The tables of `db/models.py` that the revision and confirmation stores read.
Every row carries its workspace and every query filters on it. Columns nothing
modelled reads are left out.
-/
namespace Pathfinder

/-- `review_status` of a fact version. -/
inductive ReviewStatus where
  | pending | confirmed | rejected
  deriving DecidableEq, Repr

/-- A row of `material_fact_versions`. -/
structure MaterialFactVersion where
  id : UUID
  workspaceId : UUID
  factId : UUID
  version : Nat
  claim : Text
  kind : FactKind
  conditions : FactConditions
  reviewStatus : ReviewStatus
  deriving DecidableEq, Repr

/-- A row of `resume_user_facts`. -/
structure ResumeUserFact where
  id : UUID
  workspaceId : UUID
  projectId : UUID
  scopeSessionId : Option UUID
  currentVersion : Nat
  supersedesMaterialVersionId : Option UUID
  supersedesUserVersionId : Option UUID
  deriving DecidableEq, Repr

/-- A row of `resume_user_fact_versions`. -/
structure ResumeUserFactVersion where
  id : UUID
  workspaceId : UUID
  factId : UUID
  version : Nat
  claim : Text
  kind : FactKind
  conditions : FactConditions
  reviewStatus : ReviewStatus
  deriving DecidableEq, Repr

/-- A row of `resume_session_facts`. -/
structure ResumeSessionFact where
  workspaceId : UUID
  sessionId : UUID
  projectId : UUID
  factVersionId : UUID
  deriving DecidableEq, Repr

/-- A row of `resume_session_user_facts`. -/
structure ResumeSessionUserFact where
  workspaceId : UUID
  sessionId : UUID
  factVersionId : UUID
  deriving DecidableEq, Repr

/-- A row of `resume_session_projects`. -/
structure ResumeSessionProject where
  workspaceId : UUID
  sessionId : UUID
  projectId : UUID
  deriving DecidableEq, Repr

/-- A row of `resume_versions`; `questions` is `validation_json["questions"]`. -/
structure ResumeVersion where
  id : UUID
  workspaceId : UUID
  sessionId : UUID
  version : Nat
  artifactId : UUID
  parentVersionId : Option UUID
  feedbackId : Option UUID
  content : ResumeContentV1
  questions : List Text
  deriving DecidableEq

/-- A row of `resume_version_facts`. By its constraint `one_fact` exactly one of
its two columns is set; `user` says which. -/
structure ResumeVersionFact where
  workspaceId : UUID
  versionId : UUID
  factVersionId : UUID
  user : Bool
  deriving DecidableEq, Repr

/-- A row of `resume_feedback`, as far as its replay reads it: `patches` is
`normalized_json.get("patches")`. -/
structure ResumeFeedbackPatches (chars : CharacterTables) where
  id : UUID
  workspaceId : UUID
  sessionId : UUID
  patches : Option (List (PatchV1 chars))

/-- The tables facts, versions and their lineage are kept in. -/
structure FactDb (chars : CharacterTables) where
  materialFactVersions : List MaterialFactVersion
  userFacts : List ResumeUserFact
  userFactVersions : List ResumeUserFactVersion
  sessionFacts : List ResumeSessionFact
  sessionUserFacts : List ResumeSessionUserFact
  sessionProjects : List ResumeSessionProject
  versions : List ResumeVersion
  versionFacts : List ResumeVersionFact
  feedback : List (ResumeFeedbackPatches chars)

/-!
## Accepting resume commands

`domain/resume_commands.py` and `SqlAlchemyResumeCommandStore` of
`db/resume_commands.py`. A writer contributes its checks and its effect on
tables of its own; `digest_version` and `receipt_version` are always 1.
-/

/-- `CommandReceiptV1`; its status is queued exactly if it says so here. -/
structure CommandReceiptV1 where
  commandId : UUID
  runId : Option UUID
  resourceId : Option UUID
  queued : Bool
  deriving DecidableEq, Repr

structure SessionWritePrecondition where
  expectedSessionRevision : Nat
  baseVersionId : Option UUID
  deriving DecidableEq, Repr

structure SessionWriteState where
  revision : Nat
  currentVersionId : Option UUID
  hasActiveModification : Bool
  deriving DecidableEq, Repr

def requireCurrentSessionWrite (expected : SessionWritePrecondition)
    (current : SessionWriteState) : Except StoreError Unit :=
  if expected.expectedSessionRevision ≠ current.revision ∨
      expected.baseVersionId ≠ current.currentVersionId ∨ current.hasActiveModification then
    .error (.conflict "session write conflicts with current state")
  else .ok ()

structure ResumeCommandRequest (π : Type) where
  clientRequestId : UUID
  kind : String
  targetId : Option UUID
  payloadVersion : Nat
  payload : π
  sessionWrite : Option SessionWritePrecondition

/-- A row of `resume_commands`. -/
structure ResumeCommand where
  id : UUID
  workspaceId : UUID
  actorUserId : UUID
  clientRequestId : UUID
  kind : String
  requestDigest : String
  receipt : CommandReceiptV1
  runId : Option UUID
  deriving DecidableEq, Repr

structure CommandAccepted where
  receipt : CommandReceiptV1
  replayed : Bool
  deriving DecidableEq, Repr

/-- `ResumeCommandWriter` on the tables `σ`. -/
structure ResumeCommandWriter (σ π : Type) where
  authorizeAndLock : σ → TenantContext → ResumeCommandRequest π →
    Except StoreError (Option SessionWriteState)
  apply : σ → TenantContext → ResumeCommandRequest π → UUID →
    Except StoreError (σ × CommandReceiptV1)

/-- What the store reads and writes of the tables `σ` besides the writer's own. -/
structure CommandTables (σ : Type) where
  memberships : σ → List WorkspaceMembership
  runs : σ → KeyedTable.Table UUID RunRows
  commands : σ → List ResumeCommand
  record : ResumeCommand → σ → σ

section Accept
variable {σ π : Type} (tables : CommandTables σ) (writer : ResumeCommandWriter σ π)

/-- `_find`. -/
def findCommand (commands : List ResumeCommand) (tenant : TenantContext)
    (clientRequestId : UUID) : Option ResumeCommand :=
  commands.find? fun row => row.workspaceId == tenant.workspaceId &&
    row.actorUserId == tenant.actorUserId && row.clientRequestId == clientRequestId

/-- `_accepted` for a request with this digest. -/
def acceptedCommand (row : ResumeCommand) (digest : String) : Except StoreError CommandAccepted :=
  if row.requestDigest ≠ digest then
    .error (.conflict "resume command conflicts with accepted request")
  else if row.receipt.commandId ≠ row.id ∨ row.receipt.runId ≠ row.runId ∨
      row.receipt.queued ≠ row.receipt.runId.isSome then
    .error (.invariant "persisted resume command receipt is inconsistent")
  else .ok ⟨row.receipt, true⟩

/-- The run, its job and its first event as a queued command must leave them. -/
def enqueuedRun (runs : KeyedTable.Table UUID RunRows) (tenant : TenantContext) (runId : UUID) :
    Bool :=
  (runs.get runId).any fun rows =>
    rows.run.workspaceId == tenant.workspaceId &&
      rows.run.createdByUserId == tenant.actorUserId && rows.run.status == .queued &&
      rows.job.originatingActorUserId == tenant.actorUserId && rows.job.status == .queued &&
      rows.events.any fun event => event.seq == 1 && event.type == .runCreated

/-- The part of `accept` in front of the writer's effect: the receipt of an
accepted request, or nothing if the effect is still to come. -/
def beginCommand (tenant : TenantContext) (request : ResumeCommandRequest π) (digest : String)
    (db : σ) : Except StoreError (Option CommandAccepted) :=
  match requireCurrentTenant (tables.memberships db) tenant with
  | .error reason => .error reason
  | .ok () =>
    match writer.authorizeAndLock db tenant request with
    | .error reason => .error reason
    | .ok state =>
      match findCommand (tables.commands db) tenant request.clientRequestId with
      | some existing => (acceptedCommand existing digest).map some
      | none =>
        match request.sessionWrite, state with
        | none, _ => .ok none
        | some _, none => .error (.invariant "session command writer did not return state")
        | some expected, some current =>
          (requireCurrentSessionWrite expected current).map fun _ => none

/-- The writer's effect and the row that records it. -/
def commitCommand (tenant : TenantContext) (request : ResumeCommandRequest π) (digest : String)
    (commandId : UUID) (db : σ) : Except StoreError (σ × CommandAccepted) :=
  match writer.apply db tenant request commandId with
  | .error reason => .error reason
  | .ok (after, receipt) =>
    if receipt.commandId ≠ commandId then
      .error (.invariant "command writer returned a different command")
    else if receipt.queued ≠ receipt.runId.isSome then
      .error (.invariant "command writer returned an invalid Run receipt")
    else if receipt.runId.any fun runId => !enqueuedRun (tables.runs after) tenant runId then
      .error (.invariant "queued command did not enqueue a valid Run")
    else if (tables.commands after).any fun row => row.id == commandId then
      .error (.integrity "pk_resume_commands")
    else if (findCommand (tables.commands after) tenant request.clientRequestId).isSome then
      .error (.integrity "uq_resume_commands_actor_request")
    else .ok (tables.record
      ⟨commandId, tenant.workspaceId, tenant.actorUserId, request.clientRequestId, request.kind,
        digest, receipt, receipt.runId⟩ after, ⟨receipt, false⟩)

/-- The first transaction of `accept`, where nothing comes between its parts. -/
def acceptCommand (tenant : TenantContext) (request : ResumeCommandRequest π) (digest : String)
    (commandId : UUID) (db : σ) : Except StoreError (σ × CommandAccepted) :=
  match beginCommand tables writer tenant request digest db with
  | .error reason => .error reason
  | .ok (some accepted) => .ok (db, accepted)
  | .ok none => commitCommand tables writer tenant request digest commandId db

end Accept
end Pathfinder
