import Pathfinder.System
import Pathfinder.Db.ResumeSessions

/-!
# The resume stores as one machine

The stores of `System`, together with the commands that start or change a
session and the completions that publish a version. A request is one
transaction; workers, sweepers and API processes interleave in any order.
-/
namespace Pathfinder
open KeyedTable Machines

/-- The stores' configuration, and the JSON dump of a publisher's result. -/
structure ResumeConfig where
  stores : Config
  resultDump : ResumeResultV1 → String

inductive ResumeOp where
  | store (op : Op)
  | createSession (tenant : TenantContext) (request : ResumeCommandRequest Unit)
      (digest : String) (commandId : UUID) (facts : CommandFacts)
  | feedback (tenant : TenantContext) (request : ResumeCommandRequest FeedbackPayload)
      (digest : String) (commandId : UUID) (facts : CommandFacts)
  | confirm (tenant : TenantContext) (request : ResumeCommandRequest ConfirmVersionV1)
      (digest : String) (commandId : UUID) (facts : CommandFacts)
  | publish (job : ClaimedJob) (generation : Bool) (candidate : ResumeCandidate)
      (facts : PublicationFacts) (now : Timestamp)

inductive ResumeReply where
  | store (reply : Reply)
  | accepted (result : CommandAccepted)
  | published (result : ResumeResultV1)

/-- The tables, and the owner tokens `uuid4()` has returned so far. -/
structure ResumeWorld where
  tables : ResumeDb
  issued : List UUID

def ResumeWorld.world (world : ResumeWorld) : World := ⟨world.tables.db, world.issued⟩

/-- The world behind a request that only the stores of `System` serve. -/
def ResumeWorld.store (world : ResumeWorld) (next : World) : ResumeWorld :=
  ⟨{ world.tables with db := next.db }, next.issued⟩

/-- The model of a candidate's output and that of its receipt. -/
def candidateModel (generation : Bool) : OutputModel :=
  if generation then .resumeGenerationCandidate else .resumeRevisionCandidate

def receiptModel (generation : Bool) : OutputModel :=
  if generation then .resumeGeneration else .resumeRevision

/-- A completion that hands a candidate to a publisher. -/
def Op.completesCandidate : Op → Bool
  | .complete _ result _ _ =>
    result.model == .resumeGenerationCandidate || result.model == .resumeRevisionCandidate
  | _ => false

/-- `complete` comes to its call of `publisher.publish`: the lease is held, the
run is running and not asked to cancel, and its creator is still a member. -/
def publicationDue (cfg : Config) (db : Db) (job : ClaimedJob) (generation : Bool)
    (now : Timestamp) : Bool :=
  (db.findRun job.workspaceId job.runId).any fun rows =>
    (consumeLease rows job now .done none none).isSome && rows.run.status == .running &&
      rows.run.cancelRequestedAt.isNone &&
      (if generation then cfg.generationPublisher else cfg.revisionPublisher) &&
      rows.run.mode == (if generation then RunMode.resumeGeneration else .resumeRevision) &&
      membershipActive db.memberships job.workspaceId job.originatingActorUserId

/-- A command's transaction. -/
def serveCommand {π : Type} (world : ResumeWorld) (writer : ResumeCommandWriter ResumeDb π)
    (tenant : TenantContext) (request : ResumeCommandRequest π) (digest : String)
    (commandId : UUID) : ResumeWorld × Except StoreError ResumeReply :=
  match acceptCommand resumeTables writer tenant request digest commandId world.tables with
  | .error reason => (world, .error reason)
  | .ok (tables, accepted) =>
    if tables.db.checks then (⟨tables, world.issued⟩, .ok (.accepted accepted))
    else (world, .error (.integrity "check constraint"))

/-- The publisher of a candidate. -/
def publishCandidate (sessions : Table UUID SessionRows) (job : ClaimedJob) (generation : Bool)
    (candidate : ResumeCandidate) (facts : PublicationFacts) :
    Except StoreError (Table UUID SessionRows × ResumeResultV1) :=
  if generation then
    ResumeGenerationPublisher.publish sessions job.workspaceId job.runId candidate facts
  else ResumeRevisionPublisher.publish sessions job.workspaceId job.runId candidate facts

/-- `complete` with a candidate: what the publisher writes is committed with the
completion of the run, or not at all. -/
def servePublication (cfg : ResumeConfig) (world : ResumeWorld) (job : ClaimedJob)
    (generation : Bool) (candidate : ResumeCandidate) (facts : PublicationFacts)
    (now : Timestamp) : ResumeWorld × Except StoreError ResumeReply :=
  let complete (published : Except StoreError RunOutput) :=
    serve cfg.stores world.world
      (.complete job ⟨candidateModel generation, candidate.dump⟩ published now)
  if publicationDue cfg.stores world.tables.db job generation now then
    match publishCandidate world.tables.sessions job generation candidate facts with
    | .error reason => (world, .error reason)
    | .ok (sessions, result) =>
      match complete (.ok ⟨receiptModel generation, cfg.resultDump result⟩) with
      | (next, .error reason) => (world.store next, .error reason)
      | (next, .ok _) =>
        (⟨{ world.tables with db := next.db, sessions := sessions }, next.issued⟩,
          .ok (.published result))
  else
    let (next, reply) := complete (.error .unavailable)
    (world.store next, reply.map .store)

/-- One request. Candidates are completed by `publish` only. -/
def serveResume (cfg : ResumeConfig) (world : ResumeWorld) :
    ResumeOp → ResumeWorld × Except StoreError ResumeReply
  | .store op =>
    if op.completesCandidate then (world, .error .unavailable)
    else
      let (next, reply) := serve cfg.stores world.world op
      (world.store next, reply.map .store)
  | .createSession tenant request digest commandId facts =>
    serveCommand world (sessionWriter facts) tenant request digest commandId
  | .feedback tenant request digest commandId facts =>
    serveCommand world (feedbackWriter facts) tenant request digest commandId
  | .confirm tenant request digest commandId facts =>
    serveCommand world (confirmationWriter facts) tenant request digest commandId
  | .publish job generation candidate facts now =>
    servePublication cfg world job generation candidate facts now

end Pathfinder
