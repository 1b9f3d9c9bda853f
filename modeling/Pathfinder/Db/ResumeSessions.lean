import Pathfinder.Db.JobFinalization
import Pathfinder.Db.ResumeModels
import Pathfinder.Db.ResumePreferences
import Pathfinder.Db.Runs

/-!
# Sessions, their commands and their publishers

The session, feedback and confirmation rows, the three writers of
`db/resume_generation.py`, `db/resume_revision.py` and `db/resume_confirmation.py`
and the two publishers, as far as they move a session: every one of them holds
the session's row lock from its first read of it. What the checks of profiles,
projects, facts, preferences, artifacts and candidates answer are arguments.
-/
namespace Pathfinder
open KeyedTable

/-- A row of `resume_sessions`. -/
structure ResumeSession where
  id : UUID
  workspaceId : UUID
  ownerUserId : UUID
  runId : UUID
  latestRunId : UUID
  currentVersionId : Option UUID
  revision : Nat
  deriving DecidableEq, Repr

inductive FeedbackKind where
  | answer | fact | preference | content | lock | factReview
  deriving DecidableEq, Repr

/-- A row of `resume_feedback`. -/
structure ResumeFeedback where
  id : UUID
  commandId : UUID
  runId : Option UUID
  baseVersionId : Option UUID
  targetVersionId : Option UUID
  kind : FeedbackKind
  questions : List Text
  deriving DecidableEq, Repr

/-- A row of `resume_confirmations`. -/
structure ResumeConfirmation where
  id : UUID
  versionId : UUID
  artifactId : UUID
  confirmedByUserId : UUID
  deriving DecidableEq, Repr

/-- The rows that carry one `session_id`. -/
structure SessionRows where
  session : ResumeSession
  versions : List ResumeVersion
  feedback : List ResumeFeedback
  confirmations : List ResumeConfirmation

/-- The tables of runs, sessions and commands. -/
structure ResumeDb where
  db : Db
  sessions : Table UUID SessionRows
  commands : List ResumeCommand

def resumeTables : CommandTables ResumeDb where
  memberships tables := tables.db.memberships
  runs tables := tables.db.runs
  commands tables := tables.commands
  record row tables := { tables with commands := tables.commands ++ [row] }

def ResumeDb.putSession (tables : ResumeDb) (sessionId : UUID) (rows : SessionRows) : ResumeDb :=
  { tables with sessions := tables.sessions.put sessionId rows }

/-- The identities a command draws and what the other tables answer it. -/
structure CommandFacts where
  resourceId : UUID
  runId : UUID
  jobId : UUID
  conversationId : UUID
  messageId : UUID
  serverNow : Timestamp
  /-- The checks of role, owner, profile and projects. -/
  access : Except StoreError Unit
  /-- The remaining checks and writes, on tables of other components. -/
  others : Except StoreError Unit

/-! ## Runs of a session -/

/-- A queued run of a resume graph with its job and its `run.created` event;
`input_json` is kept as its text. -/
def sessionRun (tenant : TenantContext) (mode : RunMode) (graphVersion : GraphVersion)
    (input : String) : CreateRunRequest where
  tenant := tenant
  mode := mode
  resumeDocumentId := none
  request := ⟨input, false⟩
  graphVersion := graphVersion
  requestIdentity := none

def creationFacts (facts : CommandFacts) (conversationId : UUID) : CreationFacts where
  conversationId := conversationId
  messageId := facts.messageId
  runId := facts.runId
  jobId := facts.jobId
  serverNow := facts.serverNow
  missedWinner := false

/-- The inserts of a run, which the primary key of `runs` may refuse. -/
def enqueueRun (create : CreateRunRequest) (facts : CreationFacts) (content : String) (db : Db) :
    Except StoreError Db :=
  if (db.runs.get facts.runId).isSome then .error (.integrity "pk_runs")
  else .ok
    { db with
      messages := db.messages ++
        [⟨facts.messageId, create.tenant.workspaceId, facts.conversationId,
          create.tenant.actorUserId, content⟩]
      runs := db.runs.put facts.runId
        ((newRun create facts).pushEvent (some create.tenant.actorUserId) .runCreated
          [("mode", .str create.mode.value), ("status", .str "queued"),
            ("graph_version", .str create.graphVersion.value)]) }

/-! ## Creating a session -/

/-- The writer of `resume_session_create`. It locks nothing. -/
def sessionWriter (facts : CommandFacts) : ResumeCommandWriter ResumeDb Unit where
  authorizeAndLock _ _ _ := facts.access.map fun _ => none
  apply tables tenant _ commandId :=
    match facts.others with
    | .error reason => .error reason
    | .ok () =>
      if (tables.sessions.get facts.resourceId).isSome then .error (.integrity "pk_resume_sessions")
      else
        let conversation : Conversation :=
          ⟨facts.conversationId, tenant.workspaceId, tenant.actorUserId, "Resume generation"⟩
        (enqueueRun (sessionRun tenant .resumeGeneration (.resume 3) "")
            (creationFacts facts facts.conversationId) "Resume generation request"
            { tables.db with conversations := tables.db.conversations ++ [conversation] }).map
          fun db =>
            ({ tables with
                db := db
                sessions := tables.sessions.put facts.resourceId
                  ⟨⟨facts.resourceId, tenant.workspaceId, tenant.actorUserId, facts.runId,
                    facts.runId, none, 0⟩, [], [], []⟩ },
              ⟨commandId, some facts.runId, some facts.resourceId, true⟩)

/-! ## Commands on a session -/

/-- `_session(..., write=True)`. -/
def lockSession (tables : ResumeDb) (tenant : TenantContext) (sessionId : UUID)
    (access : Except StoreError Unit) : Except StoreError SessionRows :=
  match (tables.sessions.get sessionId).filter fun rows =>
      rows.session.workspaceId == tenant.workspaceId with
  | none => .error .notFound
  | some rows => access.map fun _ => rows

/-- `assert request.target_id is not None`, then the locked session. -/
def targetSession (tables : ResumeDb) (tenant : TenantContext) (targetId : Option UUID)
    (access : Except StoreError Unit) : Except StoreError (UUID × SessionRows) :=
  match targetId with
  | none => .error (.value "AssertionError")
  | some sessionId => (lockSession tables tenant sessionId access).map fun rows => (sessionId, rows)

/-- The shared `authorize_and_lock` of the feedback and confirmation writers. -/
def lockForWrite (tables : ResumeDb) (tenant : TenantContext) (targetId : Option UUID)
    (missing : StoreError) (access : Except StoreError Unit) :
    Except StoreError (Option SessionWriteState) :=
  match targetId with
  | none => .error missing
  | some sessionId =>
    match lockSession tables tenant sessionId access with
    | .error reason => .error reason
    | .ok rows =>
      if tenant.role = .reviewer then .error .notFound
      else match tables.db.findRun tenant.workspaceId rows.session.latestRunId with
        | none => .error (.invariant "session latest run is missing")
        | some latest => .ok (some
          { revision := rows.session.revision
            currentVersionId := rows.session.currentVersionId
            hasActiveModification := latest.run.status = .queued ∨ latest.run.status = .running })

/-- What distinguishes the payloads of `resume_feedback_*`. -/
inductive FeedbackPayload where
  | content (targetItemIds : List UUID)
  | answer
  | preference (scope : FeedbackScope)
  | fact | factReview | lock
  deriving DecidableEq, Repr

def FeedbackPayload.kind : FeedbackPayload → FeedbackKind
  | content _ => .content
  | answer => .answer
  | preference _ => .preference
  | fact => .fact
  | factReview => .factReview
  | lock => .lock

/-- The branches of `apply` that end in `_enqueue`. -/
def FeedbackPayload.startsRun (session : ResumeSession) : FeedbackPayload → Bool
  | content _ | answer => true
  | preference .globally => false
  | preference .round | preference .session => session.currentVersionId.isSome
  | fact | factReview | lock => false

/-- The checks of `apply` on the session's own rows. -/
def FeedbackPayload.requireCurrent (rows : SessionRows) : FeedbackPayload → Except StoreError Unit
  | content targetItemIds =>
    match rows.session.currentVersionId with
    | none => .error (.conflict "a draft version is required")
    | some current =>
      match rows.versions.find? fun version => version.id == current with
      | none => .error .notFound
      | some version =>
        if targetItemIds.all fun id => decide (id ∈ version.content.data.itemIds) then .ok ()
        else .error (.validation "feedback targets are not in the current version")
  | answer | preference _ | fact | factReview | lock => .ok ()

/-- `_enqueue`, on the database. -/
def enqueueRevision (db : Db) (tenant : TenantContext) (session : ResumeSession)
    (facts : CommandFacts) : Except StoreError Db :=
  match db.findRun tenant.workspaceId session.runId with
  | none => .error (.invariant "initial Run is missing")
  | some parent =>
    enqueueRun (sessionRun tenant .resumeRevision (.resume 4) "")
      (creationFacts facts parent.run.conversationId) "Resume revision feedback" db

/-- The session's rows behind an accepted feedback. -/
def SessionRows.addFeedback (rows : SessionRows) (feedback : ResumeFeedback) : SessionRows :=
  { rows with
    session := { rows.session with
      latestRunId := feedback.runId.getD rows.session.latestRunId
      revision := rows.session.revision + 1 }
    feedback := rows.feedback ++ [feedback] }

/-- `_FeedbackWriter`. -/
def feedbackWriter (facts : CommandFacts) : ResumeCommandWriter ResumeDb FeedbackPayload where
  authorizeAndLock tables tenant request := lockForWrite tables tenant request.targetId
    (.validation "feedback session is required") facts.access
  apply tables tenant request commandId :=
    match targetSession tables tenant request.targetId facts.access with
    | .error reason => .error reason
    | .ok (sessionId, rows) =>
      let payload := request.payload
      match payload.requireCurrent rows with
      | .error reason => .error reason
      | .ok () =>
        match facts.others with
        | .error reason => .error reason
        | .ok () =>
          if tables.sessions.any fun other =>
              other.feedback.any fun row => row.id == facts.resourceId then
            .error (.integrity "pk_resume_feedback")
          else
            let started := payload.startsRun rows.session
            let enqueued := if started then enqueueRevision tables.db tenant rows.session facts
              else .ok tables.db
            enqueued.map fun db =>
              let runId := if started then some facts.runId else none
              ({ tables with db := db }.putSession sessionId (rows.addFeedback
                  ⟨facts.resourceId, commandId, runId,
                    request.sessionWrite.bind SessionWritePrecondition.baseVersionId, none,
                    payload.kind, []⟩),
                ⟨commandId, runId, some facts.resourceId, started⟩)

/-- `ConfirmVersionV1`; `artifact` is what reading the artifact and comparing its
digest answers, `confirmable` what `_require_confirmable` does. -/
structure ConfirmVersionV1 where
  versionId : UUID
  artifactId : UUID
  attested : Bool
  artifact : Except StoreError Unit
  confirmable : Except StoreError Unit

/-- The session's rows behind a new confirmation. -/
def SessionRows.addConfirmation (rows : SessionRows) (confirmation : ResumeConfirmation) :
    SessionRows :=
  { rows with
    session := { rows.session with revision := rows.session.revision + 1 }
    confirmations := rows.confirmations ++ [confirmation] }

/-- `_ConfirmationWriter`. -/
def confirmationWriter (facts : CommandFacts) : ResumeCommandWriter ResumeDb ConfirmVersionV1 where
  authorizeAndLock tables tenant request :=
    lockForWrite tables tenant request.targetId .notFound facts.access
  apply tables tenant request commandId :=
    let payload := request.payload
    if !payload.attested then .error (.conflict "explicit review attestation is required")
    else match targetSession tables tenant request.targetId facts.access with
    | .error reason => .error reason
    | .ok (sessionId, rows) =>
      match rows.versions.find? fun version => version.id == payload.versionId with
      | none => .error .notFound
      | some version =>
        if version.artifactId ≠ payload.artifactId then
          .error (.conflict "selected version artifact changed")
        else match payload.artifact with
        | .error reason => .error reason
        | .ok () =>
          match rows.confirmations.find? fun row => row.versionId == version.id with
          | some existing =>
            if existing.artifactId ≠ version.artifactId then
              .error (.invariant "immutable confirmation differs from artifact")
            else .ok (tables, ⟨commandId, none, some existing.id, false⟩)
          | none =>
            match payload.confirmable with
            | .error reason => .error reason
            | .ok () => .ok (tables.putSession sessionId (rows.addConfirmation
                ⟨facts.resourceId, version.id, version.artifactId, tenant.actorUserId⟩),
              ⟨commandId, none, some facts.resourceId, false⟩)

/-! ## Publishing -/

/-- A resume candidate as the publishers see it, with the output it arrives in. -/
structure ResumeCandidate where
  content : Option ResumeContentV1
  questions : List Text
  dump : String

/-- What a publisher draws and what the validators and the artifact store answer. -/
structure PublicationFacts where
  versionId : UUID
  /-- The checks of `_session`. -/
  access : Except StoreError Unit
  /-- The checks of the candidate that come before the version is looked at. -/
  checked : Except StoreError Unit
  /-- The checks of its content and `stage`, which answers the artifact. -/
  staged : Except StoreError UUID

/-- `ResumeGenerationResultV1` and `ResumeRevisionResultV1`. -/
structure ResumeResultV1 where
  sessionId : UUID
  feedbackId : Option UUID
  versionId : Option UUID
  artifactId : Option UUID
  draft : Bool
  questions : List Text
  deriving DecidableEq, Repr

/-- The session's rows behind a published version. -/
def SessionRows.addVersion (rows : SessionRows) (version : ResumeVersion) : SessionRows :=
  { rows with
    session := { rows.session with
      currentVersionId := some version.id
      revision := rows.session.revision + 1 }
    versions := rows.versions ++ [version] }

/-- The insert of a version, under the keys of `resume_versions`. -/
def insertVersion (sessions : Table UUID SessionRows) (rows : SessionRows)
    (version : ResumeVersion) : Except StoreError SessionRows :=
  if sessions.any fun other => other.versions.any fun row => row.id == version.id then
    .error (.integrity "pk_resume_versions")
  else if rows.versions.any fun row => row.version == version.version then
    .error (.integrity "uq_resume_versions_workspace_id_session_id_version")
  else .ok (rows.addVersion version)

/-- `ResumeGenerationPublisher.publish`. -/
def ResumeGenerationPublisher.publish (sessions : Table UUID SessionRows)
    (workspaceId runId : UUID) (candidate : ResumeCandidate) (facts : PublicationFacts) :
    Except StoreError (Table UUID SessionRows × ResumeResultV1) :=
  match sessions.find? fun rows =>
      rows.session.workspaceId == workspaceId && rows.session.runId == runId with
  | none => .error (.invariant "generation session is missing")
  | some (sessionId, rows) =>
    match facts.access with
    | .error reason => .error reason
    | .ok () =>
      match facts.checked with
      | .error reason => .error reason
      | .ok () =>
        match rows.session.currentVersionId, candidate.content with
        | some current, _ => .ok (sessions,
            ⟨sessionId, none, some current,
              (rows.versions.find? fun version => version.id == current).map
                ResumeVersion.artifactId, true, candidate.questions⟩)
        | none, none => .ok (sessions, ⟨sessionId, none, none, none, false, candidate.questions⟩)
        | none, some content =>
          match facts.staged with
          | .error reason => .error reason
          | .ok artifactId =>
            (insertVersion sessions rows ⟨facts.versionId, workspaceId, sessionId, 1, artifactId,
                none, none, content, candidate.questions⟩).map fun rows =>
              (sessions.put sessionId rows,
                ⟨sessionId, none, some facts.versionId, some artifactId, true,
                  candidate.questions⟩)

/-- Overwrite the feedback of a run. -/
def SessionRows.mapFeedback (rows : SessionRows) (runId : UUID)
    (f : ResumeFeedback → ResumeFeedback) : SessionRows :=
  { rows with
    feedback := rows.feedback.map fun row => if row.runId = some runId then f row else row }

/-- `ResumeRevisionPublisher.publish`. -/
def ResumeRevisionPublisher.publish (sessions : Table UUID SessionRows)
    (workspaceId runId : UUID) (candidate : ResumeCandidate) (facts : PublicationFacts) :
    Except StoreError (Table UUID SessionRows × ResumeResultV1) :=
  match sessions.find? fun rows => rows.session.workspaceId == workspaceId &&
      rows.feedback.any fun row => row.runId == some runId with
  | none => .error (.invariant "revision feedback is missing")
  | some (sessionId, rows) =>
    match rows.feedback.find? fun row => row.runId == some runId with
    | none => .error (.invariant "revision feedback is missing")
    | some feedback =>
      match facts.access with
      | .error reason => .error reason
      | .ok () =>
        match feedback.targetVersionId with
        | some target =>
          match rows.versions.find? fun version => version.id == target with
          | none => .error (.invariant "published version is missing")
          | some version => .ok (sessions, ⟨sessionId, some feedback.id, some version.id,
              some version.artifactId, true, feedback.questions⟩)
        | none =>
          if rows.session.currentVersionId ≠ feedback.baseVersionId ∨
              rows.session.latestRunId ≠ runId then
            .error (.conflict "revision base changed before publication")
          else
            let asked := rows.mapFeedback runId fun row =>
              { row with questions := candidate.questions }
            match candidate.content with
            | none => .ok (sessions.put sessionId asked,
                ⟨sessionId, some feedback.id, none, none, false, candidate.questions⟩)
            | some content =>
              match rows.versions.find? fun version =>
                  some version.id == feedback.baseVersionId with
              | none => .error (.invariant "revision base version is missing")
              | some base =>
                match facts.staged with
                | .error reason => .error reason
                | .ok artifactId =>
                  (insertVersion sessions asked ⟨facts.versionId, workspaceId, sessionId,
                      base.version + 1, artifactId, some base.id, some feedback.id, content,
                      candidate.questions⟩).map fun rows =>
                    (sessions.put sessionId (rows.mapFeedback runId fun row =>
                        { row with targetVersionId := some facts.versionId }),
                      ⟨sessionId, some feedback.id, some facts.versionId, some artifactId, true,
                        candidate.questions⟩)

end Pathfinder
