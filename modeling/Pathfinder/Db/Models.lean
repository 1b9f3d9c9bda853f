import Pathfinder.Domain.Actions
import Pathfinder.Library.Table

/-!
# Rows, constraints and the database

The tables of `db/models.py` that the run, job, action and approval stores read
and write. The rows that carry one `run_id` form a group, and inside it the rows
that carry one `action_intent_id` do: every store query filters on these keys,
`run_jobs.run_id`, `approval_requests.action_intent_id` and
`tool_invocations.action_intent_id` are unique, and foreign keys keep the
workspace of a row that of its run. Columns nothing modelled reads are left out.
-/
namespace Pathfinder
open KeyedTable

/-- `RunCreateIdentity`; its version is always 1. -/
structure RunCreateIdentity where
  clientRequestId : UUID
  createRequestDigest : String
  deriving DecidableEq, Repr

/-- A row of `runs`. `next_event_seq` carries its constraint `next_event_seq > 0`. -/
structure Run where
  id : UUID
  workspaceId : UUID
  createdByUserId : UUID
  conversationId : UUID
  requestMessageId : UUID
  mode : RunMode
  resumeDocumentId : Option UUID
  requestIdentity : Option RunCreateIdentity
  input : ResearchRequest
  status : RunStatus
  graphVersion : GraphVersion
  nextEventSeq : Nat
  nextEventSeq_pos : 0 < nextEventSeq
  resultJson : Option String
  errorCategory : Option String
  cancelRequestedAt : Option Timestamp
  startedAt : Option Timestamp
  finishedAt : Option Timestamp

/-- A row of `run_jobs`. -/
structure RunJob where
  id : UUID
  workspaceId : UUID
  originatingActorUserId : UUID
  runId : UUID
  status : JobStatus
  attempt : Int
  maxAttempts : Int
  availableAt : Timestamp
  createdAt : Timestamp
  leasedBy : Option String
  ownerToken : Option UUID
  leaseExpiresAt : Option Timestamp
  resumeApprovalRequestId : Option UUID
  errorSummary : Option String
  deriving DecidableEq, Repr

/-- A row of `run_events`; `version` is always `CURRENT_RUN_EVENT_VERSION`. -/
structure RunEvent where
  actorUserId : Option UUID
  seq : Nat
  type : RunEventType
  payload : Payload
  deriving DecidableEq, Repr

structure WorkspaceMembership where
  workspaceId : UUID
  userId : UUID
  role : WorkspaceRole
  revokedAt : Option Timestamp
  deriving DecidableEq, Repr

/-- A row of `conversations`. -/
structure Conversation where
  id : UUID
  workspaceId : UUID
  createdByUserId : UUID
  title : String
  deriving DecidableEq, Repr

/-- A row of `messages`. -/
structure Message where
  id : UUID
  workspaceId : UUID
  conversationId : UUID
  actorUserId : UUID
  content : String
  deriving DecidableEq, Repr

/-- A row of `documents`. -/
structure Document where
  id : UUID
  workspaceId : UUID
  deriving DecidableEq, Repr

/-- The rows that carry one `action_intent_id`. -/
structure ActionRows where
  intent : ActionIntent
  request : Option ApprovalRequest
  decisions : List ApprovalDecision
  invocation : Option ToolInvocation

/-- The rows that carry one `run_id`. -/
structure RunRows where
  run : Run
  job : RunJob
  actions : Table UUID ActionRows
  events : List RunEvent

/-- The database, as far as the stores of this development use it. -/
structure Db where
  memberships : List WorkspaceMembership
  documents : List Document
  conversations : List Conversation
  messages : List Message
  runs : Table UUID RunRows

/-- What a deployment passes to its stores, with the behaviour of the pydantic
validators and of the Unicode tables that `str.islower` and `str.isdigit` consult. -/
structure Config where
  executionContracts : List RunContract
  actionRecoveryMaxAttempts : Int
  recovery_positive : 1 ≤ actionRecoveryMaxAttempts
  digests : Digests
  /-- `create_request_digest_v1`; `none` when it refuses its input. -/
  requestDigest : RunMode → String → Option UUID → Option String
  decodeInput : RunContract → ResearchRequest → Bool
  decodeOutput : RunContract → RunOutput → Option String
  isLower : Char → Bool
  isDigit : Char → Bool
  generationPublisher : Bool
  revisionPublisher : Bool

/-- Membership of `_executable_versions`. -/
def Config.executable (cfg : Config) (graphVersion : GraphVersion) : Bool :=
  cfg.executionContracts.any fun contract => contract.graphVersion = graphVersion

/-! ## Check constraints -/

/-- The SQL pattern `^[a-z][a-z0-9_]{0,99}$`. -/
def matchesCategory (value : String) : Bool :=
  let ascii := fun c : Char => 'a' ≤ c && c ≤ 'z'
  match value.toList with
  | [] => false
  | first :: rest =>
    ascii first && rest.length ≤ 99 &&
      rest.all fun c => ascii c || ('0' ≤ c && c ≤ '9') || c == '_'

/-- `NULL` or at least: the shape of every time-order constraint. -/
def notBefore (later earlier : Option Timestamp) : Bool :=
  match later, earlier with
  | some later, some earlier => decide (earlier ≤ later)
  | _, _ => true

namespace Run

def checks (run : Run) : Bool :=
  -- graph_version, mode_graph_family
  (match run.graphVersion with
    | .research n => 1 ≤ n && n ≤ 6 && run.mode.legacy
    | .resume n => 1 ≤ n && n ≤ 4 && !run.mode.legacy) &&
  -- resume_no_legacy_approval
  (run.mode.legacy || run.status != .waitingApproval) &&
  -- error_category
  (run.errorCategory.all matchesCategory) &&
  -- queued_fields
  (run.status != .queued || (run.startedAt.isNone && run.finishedAt.isNone &&
    run.resultJson.isNone && run.errorCategory.isNone && run.cancelRequestedAt.isNone)) &&
  -- finished_at, started_at
  (run.finishedAt.isSome == run.status.terminal) &&
  (run.status == .queued || run.status == .cancelled || run.startedAt.isSome) &&
  -- completed_fields, failed_fields
  (run.status != .completed || (run.resultJson.isSome && run.errorCategory.isNone)) &&
  (run.status != .failed || run.errorCategory.isSome) &&
  -- time_order, cancel_time_order
  notBefore run.finishedAt run.startedAt && notBefore run.finishedAt run.cancelRequestedAt

end Run

namespace RunJob

def checks (job : RunJob) : Bool :=
  -- attempts
  0 ≤ job.attempt && 0 < job.maxAttempts && job.attempt ≤ job.maxAttempts &&
  -- lease_fields
  (if job.status = .leased then
    job.leasedBy.isSome && job.ownerToken.isSome && job.leaseExpiresAt.isSome && 1 ≤ job.attempt
  else job.leasedBy.isNone && job.ownerToken.isNone && job.leaseExpiresAt.isNone) &&
  -- dead_error, error_summary
  (job.status != .dead || job.errorSummary.any fun text =>
    1 ≤ text.length && text.toList.head? != some ' ' && text.toList.getLast? != some ' ') &&
  (job.errorSummary.all fun text => text.length ≤ 1000)

end RunJob

namespace ApprovalRequest

def checks (request : ApprovalRequest) : Bool :=
  1 ≤ request.version &&
  ((request.status == .consumed) == request.consumedAt.isSome) &&
  notBefore request.consumedAt (some request.createdAt)

end ApprovalRequest

namespace ToolInvocation

def checks (invocation : ToolInvocation) : Bool :=
  -- action_binding: a bound invocation is irreversible
  invocation.effect == .irreversible &&
  0 ≤ invocation.attempt && (invocation.latencyMs.all fun latency => 0 ≤ latency) &&
  (invocation.errorCategory.all matchesCategory) &&
  -- terminal_fields
  (match invocation.status with
    | .prepared => invocation.startedAt.isNone && invocation.finishedAt.isNone &&
        invocation.latencyMs.isNone && invocation.resultSummary.isNone &&
        invocation.errorCategory.isNone
    | .executing => invocation.startedAt.isSome && invocation.finishedAt.isNone &&
        invocation.latencyMs.isNone && invocation.resultSummary.isNone &&
        invocation.errorCategory.isNone
    | .succeeded => invocation.startedAt.isSome && invocation.finishedAt.isSome &&
        invocation.latencyMs.isSome && invocation.resultSummary.isSome &&
        invocation.errorCategory.isNone
    | .failed => invocation.finishedAt.isSome && invocation.latencyMs.isSome &&
        invocation.resultSummary.isNone && invocation.errorCategory.isSome
    | .outcomeUnknown => invocation.startedAt.isSome && invocation.finishedAt.isSome &&
        invocation.latencyMs.isSome && invocation.resultSummary.isNone &&
        invocation.errorCategory == some "external_outcome_unknown") &&
  notBefore invocation.finishedAt invocation.startedAt

end ToolInvocation

/-- The constraints on the rows of one action. -/
def ActionRows.checks (action : ActionRows) : Bool :=
  1 ≤ action.intent.actionRevision && 0 ≤ action.intent.recoveryAttempts &&
  action.request.all ApprovalRequest.checks &&
  (action.decisions.all fun decision => decision.reason.all fun text => text.length ≤ 1000) &&
  action.invocation.all ToolInvocation.checks

/-- The constraints on the rows of one run. -/
def RunRows.checks (rows : RunRows) : Bool :=
  rows.run.checks && rows.job.checks && rows.actions.all ActionRows.checks &&
    rows.events.all fun event => 0 < event.seq

def Db.checks (db : Db) : Bool := db.runs.all RunRows.checks

/-! ## Queries the stores share -/

/-- The membership row of a user, revoked or not. -/
def findMembership (memberships : List WorkspaceMembership) (workspaceId userId : UUID) :
    Option WorkspaceMembership :=
  memberships.find? fun row => row.workspaceId == workspaceId && row.userId == userId

/-- A membership exists and is not revoked. -/
def membershipActive (memberships : List WorkspaceMembership) (workspaceId userId : UUID) : Bool :=
  (findMembership memberships workspaceId userId).any fun row => row.revokedAt.isNone

/-- `_require_current_tenant`: an active membership with the caller's own role. -/
def requireCurrentTenant (memberships : List WorkspaceMembership) (tenant : TenantContext) :
    Except StoreError Unit :=
  if (findMembership memberships tenant.workspaceId tenant.actorUserId).any fun row =>
      row.revokedAt.isNone && row.role == tenant.role then .ok ()
  else .error .notFound

/-- `SELECT ... FROM runs WHERE workspace_id = ... AND id = ...`. -/
def Db.findRun (db : Db) (workspaceId runId : UUID) : Option RunRows :=
  (db.runs.get runId).filter fun rows => rows.run.workspaceId == workspaceId

/-- Store the rows of a run back. -/
def Db.putRun (db : Db) (runId : UUID) (rows : RunRows) : Db :=
  { db with runs := db.runs.put runId rows }

/-- The first action whose intent satisfies `p`. -/
def RunRows.findAction (rows : RunRows) (p : ActionIntent → Bool) : Option (UUID × ActionRows) :=
  rows.actions.find? fun action => p action.intent

/-- Store the rows of an action back. -/
def RunRows.putAction (rows : RunRows) (actionIntentId : UUID) (action : ActionRows) : RunRows :=
  { rows with actions := rows.actions.put actionIntentId action }

/-- Read and bump `next_event_seq`, and add the event: the shape all six
`_append_event` functions of the stores share. The guard they start with
(`sequence < 1`) cannot fire on a persisted row. -/
def RunRows.pushEvent (rows : RunRows) (actorUserId : Option UUID) (type : RunEventType)
    (payload : Payload) : RunRows :=
  { rows with
    run := { rows.run with
      nextEventSeq := rows.run.nextEventSeq + 1
      nextEventSeq_pos := Nat.succ_pos _ }
    events := rows.events ++ [⟨actorUserId, rows.run.nextEventSeq, type, payload⟩] }

/-!
## Transactions

`transaction(session_factory)`: the body runs on the current rows and commits as
a whole when it ends without an exception and no check constraint refuses its
writes; otherwise nothing of it remains. A store operation is one such step,
and the operations interleave in any order.
-/

/-- A transaction body: the rows it leaves and what it returns. -/
abbrev Body (α : Type) := Db → Except StoreError (Db × α)

/-- Commit the body's rows unless a constraint is violated. -/
def transaction {α : Type} (body : Body α) : Body α := fun db =>
  match body db with
  | .error reason => .error reason
  | .ok (after, result) =>
    if after.checks then .ok (after, result) else .error (.integrity "check constraint")

theorem transaction_ok {α : Type} {body : Body α} {db after : Db} {result : α}
    (committed : transaction body db = .ok (after, result)) :
    body db = .ok (after, result) ∧ after.checks = true := by
  unfold transaction at committed
  split at committed
  · cases committed
  next ran =>
    split at committed
    next passed =>
      cases committed
      exact ⟨ran, passed⟩
    · cases committed

/-- Run `f` on the rows of one run; `absent` when there is no such run. -/
def onRun {α : Type} (workspaceId runId : UUID) (absent : Except StoreError α)
    (f : RunRows → Except StoreError (RunRows × α)) : Body α := fun db =>
  match db.findRun workspaceId runId with
  | none => absent.map fun result => (db, result)
  | some rows => (f rows).map fun written => (db.putRun runId written.1, written.2)

/-- What a body on one run does to the database. -/
theorem onRun_ok {α : Type} {workspaceId runId : UUID} {absent : Except StoreError α}
    {f : RunRows → Except StoreError (RunRows × α)} {db after : Db} {result : α}
    (ran : onRun workspaceId runId absent f db = .ok (after, result)) :
    (db.findRun workspaceId runId = none ∧ absent = .ok result ∧ after = db) ∨
    ∃ rows rows', db.findRun workspaceId runId = some rows ∧ f rows = .ok (rows', result) ∧
      after = db.putRun runId rows' := by
  unfold onRun at ran
  split at ran
  next missing =>
    obtain ⟨value, given, same⟩ := map_ok ran
    cases same
    exact .inl ⟨missing, given, rfl⟩
  next rows stored =>
    obtain ⟨pair, written, same⟩ := map_ok ran
    cases same
    exact .inr ⟨rows, pair.1, stored, written, rfl⟩

theorem findRun_some {db : Db} {workspaceId runId : UUID} {rows : RunRows}
    (found : db.findRun workspaceId runId = some rows) :
    db.runs.get runId = some rows ∧ rows.run.workspaceId = workspaceId := by
  simpa [Db.findRun, Option.filter_eq_some_iff] using found

end Pathfinder
