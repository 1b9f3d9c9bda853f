import Pathfinder.Db.Models
import Pathfinder.Db.ResumeConfirmation
import Pathfinder.Library.Machine

/-!
# Facts of the user and their bindings

`_bound_facts`, `_fact` and `_fact_review` of `db/resume_revision.py`, and what a
new session, a feedback and the two publishers write of facts and versions. The
facts of projects are another component's, which only adds versions. That a
session exists, is the caller's and has the expected revision is decided in
front of these writes.
-/
namespace Pathfinder
open Machines
variable {chars : CharacterTables}

/-- A row of `material_facts`. -/
structure MaterialFact where
  id : UUID
  workspaceId : UUID
  factSetId : UUID
  currentVersion : Nat
  deriving DecidableEq, Repr

/-- A row of `material_fact_sets`. -/
structure MaterialFactSet where
  id : UUID
  workspaceId : UUID
  projectId : UUID
  deriving DecidableEq, Repr

/-- The tables of facts, with those that say which facts a project offers. -/
@[ext] structure FactTables (chars : CharacterTables) extends FactDb chars where
  materialFacts : List MaterialFact
  factSets : List MaterialFactSet

inductive FactScope where
  | session | project
  deriving DecidableEq, Repr

/-- `UserFactInputV1`. -/
structure UserFactInputV1 where
  projectId : UUID
  scope : FactScope
  claim : Text
  kind : FactKind
  conditions : FactConditions
  supersedesMaterialVersionId : Option UUID
  supersedesUserVersionId : Option UUID
  claim_bounds : 1 ≤ claim.length ∧ claim.length ≤ 2000
  one_prior_fact : supersedesMaterialVersionId = none ∨ supersedesUserVersionId = none

inductive ReviewDecision where
  | confirm | reject
  deriving DecidableEq, Repr

/-- `FactReviewV1`. -/
structure FactReviewV1 where
  factVersionId : UUID
  decision : ReviewDecision
  attested : Bool
  deriving DecidableEq, Repr

/-- `user_fact_issues`; an empty condition counts as missing. -/
def userFactIssues (chars : CharacterTables) (kind : FactKind) (claim : Text)
    (conditions : FactConditions) : List String :=
  let missing (value : Option Text) (issue : String) : List String :=
    if value.getD [] = [] then [issue] else []
  (if kind = .experiment then missing conditions.environment "experiment_environment_missing"
    else []) ++
  if claim.any chars.isDecimal then
    missing conditions.environment "metric_environment_missing" ++
      missing conditions.scope "metric_scope_missing" ++
      missing conditions.metricBasis "metric_basis_missing"
  else []

/-! ## Bound facts -/

/-- What `_bound_facts` returns. -/
structure BoundFacts where
  material : List UUID
  user : List UUID
  claims : List (UUID × Text × FactKind × FactConditions)
  deriving DecidableEq

section Bound
variable (db : FactDb chars) (tenant : TenantContext) (sessionId : UUID)

def materialRows : List (UUID × MaterialFactVersion) :=
  (db.sessionFacts.filter fun row =>
    row.workspaceId = tenant.workspaceId ∧ row.sessionId = sessionId).flatMap fun row =>
      (db.materialFactVersions.filter fun version =>
        version.workspaceId = row.workspaceId ∧ version.id = row.factVersionId).map
          fun version => (row.factVersionId, version)

def userRows : List (UUID × ResumeUserFactVersion) :=
  (db.sessionUserFacts.filter fun row =>
    row.workspaceId = tenant.workspaceId ∧ row.sessionId = sessionId).flatMap fun row =>
      (db.userFactVersions.filter fun version =>
        version.workspaceId = row.workspaceId ∧ version.id = row.factVersionId ∧
          version.reviewStatus = .confirmed).map fun version => (row.factVersionId, version)

/-- The facts of some user versions. -/
def parentFacts (activeUsers : List ResumeUserFactVersion) : List ResumeUserFact :=
  db.userFacts.filter fun fact => fact.workspaceId = tenant.workspaceId ∧
    fact.id ∈ activeUsers.map ResumeUserFactVersion.factId

/-- `_bound_facts`. -/
def boundFacts : BoundFacts :=
  let material := materialRows db tenant sessionId
  let users := userRows db tenant sessionId
  let parents := parentFacts db tenant (users.map Prod.snd)
  let kept := material.filter fun row =>
    row.1 ∉ parents.filterMap ResumeUserFact.supersedesMaterialVersionId
  let keptUsers := users.filter fun row =>
    row.1 ∉ parents.filterMap ResumeUserFact.supersedesUserVersionId
  { material := (kept.map Prod.fst).dedup
    user := (keptUsers.map Prod.fst).dedup
    claims := kept.map (fun row => (row.1, row.2.claim, row.2.kind, row.2.conditions)) ++
      keptUsers.map fun row => (row.1, row.2.claim, row.2.kind, row.2.conditions) }

end Bound

namespace FactTables
variable (tables : FactTables chars)

/-! ## Creating a session -/

/-- The current confirmed facts of a fact set. -/
def confirmedMaterial (tenant : TenantContext) (factSetId : UUID) : List MaterialFactVersion :=
  tables.materialFactVersions.filter fun version =>
    version.workspaceId = tenant.workspaceId ∧ version.reviewStatus = .confirmed ∧
      tables.materialFacts.any fun fact => fact.workspaceId = tenant.workspaceId ∧
        fact.factSetId = factSetId ∧ fact.id = version.factId ∧
        fact.currentVersion = version.version

/-- `global_user_facts`. -/
def globalUserFacts (tenant : TenantContext) (projectIds : List UUID) :
    List ResumeUserFactVersion :=
  tables.userFactVersions.filter fun version =>
    version.workspaceId = tenant.workspaceId ∧ version.reviewStatus = .confirmed ∧
      tables.userFacts.any fun fact => fact.workspaceId = tenant.workspaceId ∧
        fact.projectId ∈ projectIds ∧ fact.scopeSessionId = none ∧ fact.id = version.factId ∧
        fact.currentVersion = version.version

/-- The rows a new session adds. `_current_set` answers a fact set for a project,
or nothing. -/
def createSession (tenant : TenantContext) (sessionId : UUID)
    (projects : List (UUID × Option UUID)) : FactTables chars :=
  { tables with
    sessionProjects := tables.sessionProjects ++ projects.map fun project =>
      ⟨tenant.workspaceId, sessionId, project.1⟩
    sessionFacts := tables.sessionFacts ++ projects.flatMap fun project =>
      match project.2 with
      | none => []
      | some factSetId => (tables.confirmedMaterial tenant factSetId).map fun version =>
          ⟨tenant.workspaceId, sessionId, project.1, version.id⟩
    sessionUserFacts := tables.sessionUserFacts ++
      (tables.globalUserFacts tenant (projects.map Prod.fst)).map fun version =>
        ⟨tenant.workspaceId, sessionId, version.id⟩ }

/-! ## Facts of the user -/

/-- The project is one of the session. -/
def allowsProject (tenant : TenantContext) (sessionId projectId : UUID) : Bool :=
  tables.sessionProjects.any fun row => row.workspaceId = tenant.workspaceId ∧
    row.sessionId = sessionId ∧ row.projectId = projectId

def bindsMaterial (tenant : TenantContext) (sessionId versionId : UUID) : Bool :=
  tables.sessionFacts.any fun row => row.workspaceId = tenant.workspaceId ∧
    row.sessionId = sessionId ∧ row.factVersionId = versionId

def bindsUser (tenant : TenantContext) (sessionId versionId : UUID) : Bool :=
  tables.sessionUserFacts.any fun row => row.workspaceId = tenant.workspaceId ∧
    row.sessionId = sessionId ∧ row.factVersionId = versionId

/-- The checks of `_fact` on a new fact. -/
def requireFact (tenant : TenantContext) (sessionId : UUID) (input : UserFactInputV1) :
    Except StoreError Unit :=
  if !tables.allowsProject tenant sessionId input.projectId then .error .notFound
  else if input.supersedesMaterialVersionId.any fun id =>
      !tables.bindsMaterial tenant sessionId id then .error .notFound
  else if input.supersedesUserVersionId.any fun id => !tables.bindsUser tenant sessionId id then
    .error .notFound
  else .ok ()

/-- A new fact and its first version. -/
def addUserFact (fact : ResumeUserFact) (version : ResumeUserFactVersion) : FactTables chars :=
  { tables with
    userFacts := tables.userFacts ++ [fact]
    userFactVersions := tables.userFactVersions ++ [version] }

/-- The rows of a new fact. -/
def newFact (tenant : TenantContext) (sessionId : UUID) (input : UserFactInputV1)
    (factId : UUID) : ResumeUserFact where
  id := factId
  workspaceId := tenant.workspaceId
  projectId := input.projectId
  scopeSessionId := if input.scope = .session then some sessionId else none
  currentVersion := 1
  supersedesMaterialVersionId := input.supersedesMaterialVersionId
  supersedesUserVersionId := input.supersedesUserVersionId

def newFactVersion (tenant : TenantContext) (input : UserFactInputV1) (factId versionId : UUID) :
    ResumeUserFactVersion where
  id := versionId
  workspaceId := tenant.workspaceId
  factId := factId
  version := 1
  claim := input.claim
  kind := input.kind
  conditions := input.conditions
  reviewStatus := .pending

/-- `_fact` on a fact to adopt: the project it is bound under, or nothing if it
is bound already. -/
def requireAdoption (tenant : TenantContext) (sessionId versionId : UUID) :
    Except StoreError (Option UUID) :=
  match tables.materialFactVersions.find? fun version =>
      version.workspaceId = tenant.workspaceId ∧ version.id = versionId ∧
        version.reviewStatus = .confirmed with
  | none => .error .notFound
  | some version =>
    match tables.materialFacts.find? fun fact => fact.workspaceId = tenant.workspaceId ∧
        fact.id = version.factId ∧ fact.currentVersion = version.version with
    | none => .error (.conflict "fact is no longer current")
    | some fact =>
      if tables.bindsMaterial tenant sessionId version.id then .ok none
      else match tables.sessionProjects.find? fun row => row.workspaceId = tenant.workspaceId ∧
          row.sessionId = sessionId ∧ tables.factSets.any fun factSet =>
            factSet.workspaceId = row.workspaceId ∧ factSet.projectId = row.projectId ∧
              factSet.id = fact.factSetId with
      | none => .error .notFound
      | some row => .ok (some row.projectId)

def bindMaterial (row : ResumeSessionFact) : FactTables chars :=
  { tables with sessionFacts := tables.sessionFacts ++ [row] }

/-- The binding of an adopted fact. -/
def adopt (tenant : TenantContext) (sessionId versionId : UUID) : Option UUID → FactTables chars
  | none => tables
  | some projectId => tables.bindMaterial ⟨tenant.workspaceId, sessionId, projectId, versionId⟩

/-! ## Reviews -/

/-- The checks of `_fact_review`. -/
def requireReview (tenant : TenantContext) (sessionId : UUID) (review : FactReviewV1) :
    Except StoreError (ResumeUserFact × ResumeUserFactVersion) :=
  match tables.userFactVersions.find? fun version =>
      version.workspaceId = tenant.workspaceId ∧ version.id = review.factVersionId with
  | none => .error .notFound
  | some previous =>
    match (tables.userFacts.find? fun fact =>
        fact.workspaceId = tenant.workspaceId ∧ fact.id = previous.factId).filter fun fact =>
          (fact.scopeSessionId = none ∨ fact.scopeSessionId = some sessionId) ∧
            fact.currentVersion = previous.version ∧ previous.reviewStatus = .pending with
    | none => .error (.conflict "fact review is stale")
    | some fact =>
      if !tables.allowsProject tenant sessionId fact.projectId then .error .notFound
      else if review.decision = .confirm ∧ !review.attested then
        .error (.conflict "explicit user verification is required")
      else if review.decision = .confirm ∧
          userFactIssues chars previous.kind previous.claim previous.conditions ≠ [] then
        .error (.conflict "fact still has verification questions")
      else .ok (fact, previous)

/-- `fact.current_version += 1`. -/
def nextVersion (fact : ResumeUserFact) : ResumeUserFact :=
  { fact with currentVersion := fact.currentVersion + 1 }

/-- The version a review adds. -/
def reviewedVersion (fact : ResumeUserFact) (previous : ResumeUserFactVersion)
    (decision : ReviewDecision) (versionId : UUID) : ResumeUserFactVersion :=
  { previous with
    id := versionId
    factId := fact.id
    version := fact.currentVersion + 1
    reviewStatus := if decision = .confirm then .confirmed else .rejected }

/-- A review of a fact. -/
def addReview (fact : ResumeUserFact) (previous : ResumeUserFactVersion)
    (decision : ReviewDecision) (versionId : UUID) : FactTables chars :=
  { tables with
    userFacts := tables.userFacts.map fun row => if row.id = fact.id then nextVersion row else row
    userFactVersions := tables.userFactVersions ++
      [reviewedVersion fact previous decision versionId] }

def bindUser (row : ResumeSessionUserFact) : FactTables chars :=
  { tables with sessionUserFacts := tables.sessionUserFacts ++ [row] }

/-! ## Feedback and versions -/

def addFeedback (row : ResumeFeedbackPatches chars) : FactTables chars :=
  { tables with feedback := tables.feedback ++ [row] }

/-- `feedback.normalized_json["patches"]` of the feedback a candidate answers. -/
def recordPatches (sessionId feedbackId : UUID) (patches : List (PatchV1 chars)) :
    FactTables chars :=
  { tables with feedback := tables.feedback.map fun row =>
      if row.id = feedbackId ∧ row.sessionId = sessionId then { row with patches := some patches }
      else row }

/-- A version with the facts that were bound when it was published. -/
def addVersion (version : ResumeVersion) (bound : BoundFacts) : FactTables chars :=
  { tables with
    versions := tables.versions ++ [version]
    versionFacts := tables.versionFacts ++
      (bound.material.map fun id => ⟨version.workspaceId, version.id, id, false⟩) ++
      bound.user.map fun id => ⟨version.workspaceId, version.id, id, true⟩ }

def recordMaterial (factSets : List MaterialFactSet) (facts : List MaterialFact)
    (versions : List MaterialFactVersion) : FactTables chars :=
  { tables with
    factSets := factSets
    materialFacts := facts
    materialFactVersions := tables.materialFactVersions ++ versions }

def empty : FactTables chars where
  materialFactVersions := []
  userFacts := []
  userFactVersions := []
  sessionFacts := []
  sessionUserFacts := []
  sessionProjects := []
  versions := []
  versionFacts := []
  feedback := []
  materialFacts := []
  factSets := []

end FactTables

/-! ## Requests -/

/-- A request that reads or writes facts, with the identities it draws. -/
inductive FactOp (chars : CharacterTables) where
  | recordMaterial (factSets : List MaterialFactSet) (facts : List MaterialFact)
      (versions : List MaterialFactVersion)
  | createSession (tenant : TenantContext) (sessionId : UUID)
      (projects : List (UUID × Option UUID))
  | fact (tenant : TenantContext) (sessionId : UUID) (input : UserFactInputV1)
      (factId versionId : UUID)
  | adopt (tenant : TenantContext) (sessionId versionId : UUID)
  | factReview (tenant : TenantContext) (sessionId : UUID) (review : FactReviewV1)
      (versionId : UUID)
  | feedback (tenant : TenantContext) (sessionId feedbackId : UUID)
  | answer (tenant : TenantContext) (sessionId feedbackId : UUID) (patches : List (PatchV1 chars))
  | publish (tenant : TenantContext) (version : ResumeVersion)

/-- The session a request works on. -/
def FactOp.sessionId : FactOp chars → Option UUID
  | recordMaterial .. => none
  | createSession _ sessionId _ | fact _ sessionId .. | adopt _ sessionId _
  | factReview _ sessionId .. | feedback _ sessionId _ | answer _ sessionId .. => some sessionId
  | publish _ version => some version.sessionId

/-- The identities a request draws are not taken. -/
def FactOp.fresh (tables : FactTables chars) : FactOp chars → Bool
  | recordMaterial _ _ versions => versions.all fun version =>
      decide (version.id ∉ tables.materialFactVersions.map MaterialFactVersion.id) &&
        decide (version.id ∉ tables.userFactVersions.map ResumeUserFactVersion.id)
  | fact _ _ _ factId versionId =>
    decide (factId ∉ tables.userFacts.map ResumeUserFact.id) &&
      decide (versionId ∉ tables.materialFactVersions.map MaterialFactVersion.id) &&
      decide (versionId ∉ tables.userFactVersions.map ResumeUserFactVersion.id)
  | factReview _ _ _ versionId =>
    decide (versionId ∉ tables.materialFactVersions.map MaterialFactVersion.id) &&
      decide (versionId ∉ tables.userFactVersions.map ResumeUserFactVersion.id)
  | feedback _ _ feedbackId => decide (feedbackId ∉ tables.feedback.map ResumeFeedbackPatches.id)
  | publish _ version => decide (version.id ∉ tables.versions.map ResumeVersion.id)
  | createSession .. | adopt .. | answer .. => true

/-- The effect of a request whose identities are new. -/
def FactOp.attempt (tables : FactTables chars) : FactOp chars →
    Except StoreError (FactTables chars)
  | recordMaterial factSets facts versions => .ok (tables.recordMaterial factSets facts versions)
  | createSession tenant sessionId projects => .ok (tables.createSession tenant sessionId projects)
  | fact tenant sessionId input factId versionId =>
    (tables.requireFact tenant sessionId input).map fun _ =>
      tables.addUserFact (FactTables.newFact tenant sessionId input factId)
        (FactTables.newFactVersion tenant input factId versionId)
  | adopt tenant sessionId versionId =>
    (tables.requireAdoption tenant sessionId versionId).map
      (tables.adopt tenant sessionId versionId)
  | factReview tenant sessionId review versionId =>
    (tables.requireReview tenant sessionId review).map fun found =>
      let reviewed := tables.addReview found.1 found.2 review.decision versionId
      if review.decision = .confirm then
        reviewed.bindUser ⟨tenant.workspaceId, sessionId, versionId⟩
      else reviewed
  | feedback tenant sessionId feedbackId =>
    .ok (tables.addFeedback ⟨feedbackId, tenant.workspaceId, sessionId, none⟩)
  | answer _ sessionId feedbackId patches =>
    .ok (tables.recordPatches sessionId feedbackId patches)
  | publish tenant version =>
    .ok (tables.addVersion version (boundFacts tables.toFactDb tenant version.sessionId))

/-- One request. A request that is refused writes nothing. -/
def serveFact (tables : FactTables chars) (op : FactOp chars) :
    FactTables chars × Except StoreError Unit :=
  if op.fresh tables then
    match op.attempt tables with
    | .error reason => (tables, .error reason)
    | .ok after => (after, .ok ())
  else (tables, .error (.integrity "primary key"))

/-- The tables of facts under all requests of all sessions. -/
def factStore (chars : CharacterTables) :
    Machine (FactTables chars) (FactOp chars) (Except StoreError Unit) where
  start := .empty
  step := serveFact

end Pathfinder
