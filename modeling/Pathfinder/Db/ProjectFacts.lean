import Pathfinder.Db.ProfileModels
import Pathfinder.Domain.ProjectFacts

/-!
# Stores of project facts

`db/project_facts.py`. The versions of a fact are kept with it and the evidence of a
version with the version; `(fact_id, version)` is the unique key of the version rows.
Snapshots are written once by the material store, imports and their runs by others. A
command locks its fact before it waits for anything, so its transaction has two steps
here, its checks and its writes, and others come between them.
-/
namespace Pathfinder
open KeyedTable Machines

/-- A row of `material_imports`. -/
structure MaterialImport where
  id : UUID
  workspaceId : UUID
  projectId : UUID
  runId : UUID
  cacheDigest : Option String
  createdAt : Nat
  deriving DecidableEq

/-- A row of `material_snapshots` with its files, `(id, content)`. -/
structure MaterialSnapshot where
  id : UUID
  workspaceId : UUID
  importId : UUID
  sourceId : UUID
  files : List (UUID × ByteArray)

/-- A row of `material_fact_sets`. -/
structure FactSetRow where
  workspaceId : UUID
  projectId : UUID
  importId : UUID
  cacheDigest : String
  extractorDigest : String
  complete : Bool
  issues : List Text
  createdAt : Nat

/-- A row of `material_fact_versions`; its candidate is the claim, kind and conditions of the row
and the evidence rows in the order of their ids. -/
structure FactVersionRow where
  id : UUID
  version : Nat
  candidate : CandidateFactV1
  reviewStatus : ReviewStatus
  issues : List String
  createdByUserId : Option UUID

/-- A row of `material_facts` with its versions. -/
structure FactRows where
  workspaceId : UUID
  factSetId : UUID
  ordinal : Nat
  currentVersion : Nat
  versions : List FactVersionRow

structure ProjectFactDb where
  memberships : List WorkspaceMembership
  projects : List MaterialProject
  imports : List MaterialImport
  runs : Table UUID RunRows
  snapshots : List MaterialSnapshot
  factSets : Table UUID FactSetRow
  facts : Table UUID FactRows
  commands : List ResumeCommand

def projectFactTables : CommandTables ProjectFactDb where
  memberships db := db.memberships
  runs db := db.runs
  commands db := db.commands
  record row db := { db with commands := db.commands ++ [row] }

/-- `_FactCommand`. -/
structure FactCommand where
  projectId : UUID
  importId : UUID
  factId : Option UUID
  expectedVersion : Option Int
  candidate : Option CandidateFactV1
  decision : Option String
  attested : Bool

/-- What `uuid4()` returns for a version and its evidence rows. -/
structure VersionIds where
  version : UUID
  evidence : Nat → UUID

section Reads
variable (db : ProjectFactDb) (tenant : TenantContext)

/-- `_project`. -/
def factProject (projectId : UUID) (edit : Bool) : Except StoreError Unit :=
  match db.memberships.find? fun row => row.workspaceId == tenant.workspaceId &&
      row.userId == tenant.actorUserId && row.revokedAt.isNone with
  | none => .error .notFound
  | some membership =>
    if edit ∧ membership.role = .reviewer then .error .notFound
    else match db.projects.find? fun row =>
        row.workspaceId == tenant.workspaceId && row.id == projectId with
    | none => .error .notFound
    | some project =>
      if project.createdByUserId ≠ tenant.actorUserId ∧ membership.role ≠ .admin then
        .error .notFound
      else .ok ()

/-- The completed import that `_current_set` finds first. -/
def latestImport (projectId : UUID) : Option MaterialImport :=
  (db.imports.filter fun row =>
    row.workspaceId == tenant.workspaceId && row.projectId == projectId &&
      row.cacheDigest.isSome && (db.runs.get row.runId).any fun rows =>
        rows.run.workspaceId == row.workspaceId && rows.run.status == .completed).mergeSort
    (fun first second => second.createdAt < first.createdAt ||
      (second.createdAt == first.createdAt && second.id ≤ first.id)) |>.head?

/-- `_current_set`. -/
def currentSet (projectId : UUID) : Option (UUID × FactSetRow) :=
  match latestImport db tenant projectId with
  | none => none
  | some latest =>
    (db.factSets.scan.filter fun row =>
      row.2.workspaceId == tenant.workspaceId && row.2.projectId == projectId &&
        some row.2.cacheDigest == latest.cacheDigest).mergeSort
      (fun first second => second.2.createdAt ≤ first.2.createdAt) |>.head?

/-- `_files_for_import`. -/
def filesForImport (workspaceId importId : UUID) (fileId : UUID) : Option ByteArray :=
  (((db.snapshots.filter fun row =>
    row.workspaceId == workspaceId && row.importId == importId).flatMap
      MaterialSnapshot.files).find? fun file => file.1 == fileId).map Prod.snd

end Reads

/-! ## Versions -/

/-- The evidence of a candidate in the order of its rows' ids. -/
def CandidateFactV1.stored (candidate : CandidateFactV1) (ids : Nat → UUID) : CandidateFactV1 :=
  let rows := (candidate.evidence.zipIdx.map fun entry => (ids entry.2, entry.1)).mergeSort
    fun first second => decide (first.1 ≤ second.1)
  { candidate with
    evidence := rows.map Prod.snd
    evidence_bound := by simpa [rows] using candidate.evidence_bound }

/-- The unique columns of an evidence row within its version. -/
def FactEvidenceV1.place (evidence : FactEvidenceV1) : UUID × Nat × Nat :=
  (evidence.snapshotFileId, evidence.startLine, evidence.endLine)

/-- `_add_version`, with the unique keys of the tables. -/
def addVersion (rows : FactRows) (ids : VersionIds) (version : Nat) (candidate : CandidateFactV1)
    (status : ReviewStatus) (issues : List String) (actor : Option UUID) :
    Except StoreError FactRows :=
  if rows.versions.any fun row => row.version == version then
    .error (.integrity "uq_material_fact_versions")
  else if ¬(candidate.evidence.map FactEvidenceV1.place).Nodup then
    .error (.integrity "uq_material_fact_evidence")
  else .ok { rows with
    versions := rows.versions ++
      [{ id := ids.version, version := version, candidate := candidate.stored ids.evidence
         reviewStatus := status, issues := issues, createdByUserId := actor }] }

/-- The evidence of candidates, in front of any write. -/
def checkCandidates (allowedFiles : UUID → Option ByteArray) :
    List FactEvidenceV1 → Except FactEvidenceError Unit
  | [] => .ok ()
  | item :: rest =>
    match checkEvidence allowedFiles item with
    | .error reason => .error reason
    | .ok () => checkCandidates allowedFiles rest

/-- `_check_candidate`. -/
def checkCandidate (candidate : CandidateFactV1) (allowedFiles : UUID → Option ByteArray) :
    Except StoreError Unit :=
  match checkCandidates allowedFiles candidate.evidence with
  | .error _ => .error (.validation "fact evidence is invalid")
  | .ok () => .ok ()

variable (chars : CharacterTables)

/-- A fact with its first version, as an addition and an extraction write it. -/
def insertFact (db : ProjectFactDb) (workspaceId factSetId factId : UUID) (ordinal : Nat)
    (ids : VersionIds) (candidate : CandidateFactV1) (actor : Option UUID) :
    Except StoreError ProjectFactDb :=
  if (db.facts.get factId).isSome then .error (.integrity "pk_material_facts")
  else if db.facts.any fun rows => rows.workspaceId == workspaceId &&
      rows.factSetId == factSetId && rows.ordinal == ordinal then
    .error (.integrity "uq_material_facts")
  else match addVersion ⟨workspaceId, factSetId, ordinal, 1, []⟩ ids 1 candidate .pending
      (candidateIssues chars candidate) actor with
  | .error reason => .error reason
  | .ok rows => .ok { db with facts := db.facts.put factId rows }

/-! ## Commands -/

/-- `_FactWriter.authorize_and_lock`. -/
def authorizeFact (db : ProjectFactDb) (tenant : TenantContext)
    (request : ResumeCommandRequest FactCommand) : Except StoreError (Option SessionWriteState) :=
  let payload := request.payload
  if request.targetId ≠ some payload.projectId then
    .error (.validation "fact command is invalid")
  else match factProject db tenant payload.projectId true with
  | .error reason => .error reason
  | .ok () =>
    match db.factSets.find? fun row => row.workspaceId == tenant.workspaceId &&
        row.projectId == payload.projectId && row.importId == payload.importId with
    | none => .error .notFound
    | some (setId, _) =>
      if request.kind = "material_fact_add" then
        if payload.candidate.isNone ∨ payload.factId.isSome ∨ payload.expectedVersion.isSome then
          .error (.validation "fact addition is invalid")
        else .ok none
      else match payload.factId, payload.expectedVersion with
      | some factId, some expected =>
        if expected < 1 then .error (.validation "fact version precondition is required")
        else match (db.facts.get factId).filter fun rows =>
            rows.workspaceId == tenant.workspaceId && rows.factSetId == setId with
        | none => .error .notFound
        | some _ =>
          if request.kind = "material_fact_revise" ∧ payload.candidate.isNone then
            .error (.validation "fact correction is missing")
          else if request.kind = "material_fact_review" ∧ payload.decision ≠ some "confirm" ∧
              payload.decision ≠ some "reject" then
            .error (.validation "fact review is invalid")
          else .ok none
      | _, _ => .error (.validation "fact version precondition is required")

/-- The issues that a confirmation leaves. -/
def issuesUnderReview (payload : FactCommand) (previous : FactVersionRow) : List String :=
  if payload.attested ∧ previous.candidate.kind = .personalStatement then
    previous.issues.filter fun issue => decide (issue ∉ waivableIssues)
  else previous.issues

/-- The candidate, status and issues of a revision or a review. -/
def nextVersion (kind : String) (payload : FactCommand)
    (allowedFiles : UUID → Option ByteArray) (previous : FactVersionRow) :
    Except StoreError (CandidateFactV1 × ReviewStatus × List String) :=
  if kind = "material_fact_revise" then
    match payload.candidate with
    | none => .error (.invariant "assert payload.candidate is not None")
    | some candidate =>
      (checkCandidate candidate allowedFiles).map fun _ =>
        (candidate, .pending, candidateIssues chars candidate)
  else if payload.decision = some "confirm" then
    if issuesUnderReview payload previous ≠ [] then
      .error (.conflict "fact has unresolved verification questions")
    else .ok (previous.candidate, .confirmed, issuesUnderReview payload previous)
  else .ok (previous.candidate, .rejected, previous.issues)

/-- The branch of `apply` for an addition. -/
def applyAddition (db : ProjectFactDb) (tenant : TenantContext) (setId factId : UUID)
    (set_ : FactSetRow) (ids : VersionIds) (candidate : Option CandidateFactV1) :
    Except StoreError ProjectFactDb :=
  match candidate with
  | none => .error (.invariant "assert payload.candidate is not None")
  | some candidate =>
    match checkCandidate candidate (filesForImport db tenant.workspaceId set_.importId) with
    | .error reason => .error reason
    | .ok () =>
      let ordinals := ((db.facts.scan.map Prod.snd).filter fun rows =>
        rows.workspaceId == tenant.workspaceId && rows.factSetId == setId).map FactRows.ordinal
      let ordinal := (ordinals.map (· + 1)).foldr max 0
      insertFact chars db tenant.workspaceId setId factId ordinal ids candidate
        (some tenant.actorUserId)

/-- The branches of `apply` for a revision and a review. -/
def applyVersion (db : ProjectFactDb) (tenant : TenantContext) (setId : UUID) (set_ : FactSetRow)
    (ids : VersionIds) (kind : String) (payload : FactCommand) : Except StoreError ProjectFactDb :=
  match payload.factId with
  | none => .error (.invariant "assert fact is not None")
  | some factId =>
    match (db.facts.get factId).filter fun rows =>
        rows.workspaceId == tenant.workspaceId && rows.factSetId == setId with
    | none => .error (.invariant "assert fact is not None")
    | some rows =>
      if some (rows.currentVersion : Int) ≠ payload.expectedVersion then
        .error (.conflict "fact version changed")
      else match rows.versions.find? fun row => row.version == rows.currentVersion with
      | none => .error (.invariant "assert previous is not None")
      | some previous =>
        match nextVersion chars kind payload
            (filesForImport db tenant.workspaceId set_.importId) previous with
        | .error reason => .error reason
        | .ok (candidate, status, issues) =>
          (addVersion { rows with currentVersion := rows.currentVersion + 1 } ids
            (rows.currentVersion + 1) candidate status issues (some tenant.actorUserId)).map
              fun written => { db with facts := db.facts.put factId written }

/-- `_FactWriter.apply`; `factId` is the new id of an added fact. -/
def applyFact (factId : UUID) (ids : VersionIds) (db : ProjectFactDb) (tenant : TenantContext)
    (request : ResumeCommandRequest FactCommand) (commandId : UUID) :
    Except StoreError (ProjectFactDb × CommandReceiptV1) :=
  let payload := request.payload
  match currentSet db tenant payload.projectId with
  | none => .error (.conflict "fact set is not current")
  | some (setId, set_) =>
    if set_.importId ≠ payload.importId then .error (.conflict "fact set is not current")
    else if request.kind = "material_fact_add" then
      (applyAddition chars db tenant setId factId set_ ids payload.candidate).map fun after =>
        (after, ⟨commandId, none, some factId, false⟩)
    else
      (applyVersion chars db tenant setId set_ ids request.kind payload).map fun after =>
        (after, ⟨commandId, none, some ids.version, false⟩)

/-- `supported_kinds`. -/
def factCommandKinds : List String :=
  ["material_fact_add", "material_fact_revise", "material_fact_review"]

/-- `_FactWriter`. -/
def factWriter (factId : UUID) (ids : VersionIds) :
    ResumeCommandWriter ProjectFactDb FactCommand where
  authorizeAndLock := authorizeFact
  apply := applyFact chars factId ids

/-! ## Extraction -/

/-- The facts of an extraction from `ordinal` on; `ids` are a fact's id and those of its first
version. -/
def publishFacts (workspaceId setId : UUID) (ids : Nat → UUID × VersionIds) :
    Nat → List CandidateFactV1 → ProjectFactDb → Except StoreError ProjectFactDb
  | _, [], db => .ok db
  | ordinal, candidate :: rest, db =>
    match insertFact chars db workspaceId setId (ids ordinal).1 ordinal (ids ordinal).2 candidate
        none with
    | .error reason => .error reason
    | .ok after => publishFacts workspaceId setId ids (ordinal + 1) rest after

/-- `publish_extraction`. -/
def publishExtraction (db : ProjectFactDb) (tenant : TenantContext) (projectId importId : UUID)
    (extractorDigest : String) (extraction : FactExtractionV1) (complete : Bool) (setId : UUID)
    (createdAt : Nat) (ids : Nat → UUID × VersionIds) : Except StoreError (ProjectFactDb × UUID) :=
  match factProject db tenant projectId true with
  | .error reason => .error reason
  | .ok () =>
    match (db.imports.find? fun row => row.workspaceId == tenant.workspaceId &&
        row.projectId == projectId && row.id == importId && row.cacheDigest.isSome).bind
        MaterialImport.cacheDigest with
    | none => .error .notFound
    | some cacheDigest =>
      match db.factSets.find? fun row => row.workspaceId == tenant.workspaceId &&
          row.projectId == projectId && row.cacheDigest == cacheDigest &&
          row.extractorDigest == extractorDigest with
      | some (existing, _) => .ok (db, existing)
      | none =>
        match checkCandidates (filesForImport db tenant.workspaceId importId)
            (extraction.facts.flatMap CandidateFactV1.evidence) with
        | .error reason => .error (.value reason.message)
        | .ok () =>
          if (db.factSets.get setId).isSome then .error (.integrity "pk_material_fact_sets")
          else
            let set_ : FactSetRow := ⟨tenant.workspaceId, projectId, importId, cacheDigest,
              extractorDigest, complete, extraction.questions, createdAt⟩
            (publishFacts chars tenant.workspaceId setId ids 0 extraction.facts
              { db with factSets := db.factSets.put setId set_ }).map fun after => (after, setId)

/-! ## The stores as one machine -/

/-- A command between its checks and its writes. -/
structure PendingFactCommand where
  commandId : UUID
  tenant : TenantContext
  request : ResumeCommandRequest FactCommand
  digest : String
  factId : UUID
  ids : VersionIds

/-- The fact a command has locked. -/
def lockedFact (request : ResumeCommandRequest FactCommand) : Option UUID :=
  if request.kind = "material_fact_add" then none else request.payload.factId

inductive ProjectFactOp where
  /-- The rows of other stores have come to these. -/
  | others (memberships : List WorkspaceMembership) (projects : List MaterialProject)
      (imports : List MaterialImport) (runs : Table UUID RunRows)
  /-- `persist_snapshot`. -/
  | persistSnapshot (snapshot : MaterialSnapshot)
  | publish (tenant : TenantContext) (projectId importId : UUID) (extractorDigest : String)
      (extraction : FactExtractionV1) (complete : Bool) (setId : UUID) (createdAt : Nat)
      (ids : Nat → UUID × VersionIds)
  | begin_ (command : PendingFactCommand)
  | finish (commandId : UUID)

inductive ProjectFactReply where
  | done
  | published (setId : UUID)
  /-- The command holds its locks. -/
  | begun
  /-- Another command holds the fact. -/
  | waits
  | accepted (accepted : CommandAccepted)

/-- The tables, the commands under way, and the commands accepted so far. -/
structure ProjectFactWorld where
  tables : ProjectFactDb
  pending : List PendingFactCommand
  accepted : List PendingFactCommand

def serveProjectFacts (world : ProjectFactWorld) :
    ProjectFactOp → ProjectFactWorld × Except StoreError ProjectFactReply
  | .others memberships projects imports runs =>
    let tables :=
      { world.tables with
        memberships := memberships
        projects := projects
        imports := imports
        runs := runs }
    ({ world with tables := tables }, .ok .done)
  | .persistSnapshot snapshot =>
    if world.tables.snapshots.any fun row => row.workspaceId == snapshot.workspaceId &&
        row.importId == snapshot.importId && row.sourceId == snapshot.sourceId then
      (world, .ok .done)
    else
      let tables := { world.tables with snapshots := world.tables.snapshots ++ [snapshot] }
      ({ world with tables := tables }, .ok .done)
  | .publish tenant projectId importId extractorDigest extraction complete setId createdAt ids =>
    match publishExtraction chars world.tables tenant projectId importId extractorDigest extraction
        complete setId createdAt ids with
    | .error reason => (world, .error reason)
    | .ok (tables, published) => ({ world with tables := tables }, .ok (.published published))
  | .begin_ command =>
    if command.request.kind ∉ factCommandKinds then
      (world, .error (.invariant "resume command handler is not registered for this kind"))
    else if (lockedFact command.request).isSome ∧ world.pending.any fun other =>
        lockedFact other.request == lockedFact command.request then (world, .ok .waits)
    else match beginCommand projectFactTables (factWriter chars command.factId command.ids)
        command.tenant command.request command.digest world.tables with
    | .error reason => (world, .error reason)
    | .ok (some accepted) => (world, .ok (.accepted accepted))
    | .ok none => ({ world with pending := world.pending ++ [command] }, .ok .begun)
  | .finish commandId =>
    match world.pending.find? fun command => command.commandId == commandId with
    | none => (world, .error .notFound)
    | some command =>
      let rest := world.pending.filter fun other => other.commandId != commandId
      match commitCommand projectFactTables (factWriter chars command.factId command.ids)
          command.tenant command.request command.digest commandId world.tables with
      | .error reason => ({ world with pending := rest }, .error reason)
      | .ok (tables, accepted) =>
        (⟨tables, rest, world.accepted ++ [command]⟩, .ok (.accepted accepted))

/-- The fact stores of a deployment. -/
def projectFacts : Machine ProjectFactWorld ProjectFactOp (Except StoreError ProjectFactReply) where
  start := ⟨⟨[], [], [], Table.empty, [], Table.empty, Table.empty, []⟩, [], []⟩
  step := serveProjectFacts chars

end Pathfinder
