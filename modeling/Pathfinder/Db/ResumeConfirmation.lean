import Mathlib.Data.List.Dedup
import Pathfinder.Library.LastWriter
import Pathfinder.Db.ResumeModels

/-!
# Which version may be confirmed

`_actual_fact_uses` and `_require_confirmable` of `db/resume_confirmation.py`.
-/
namespace Pathfinder
variable {chars : CharacterTables}

/-- The key of the dictionary `uses`: an item and one of its fields. -/
abbrev FieldKey := UUID × PatchField

/-- The dictionary `uses`. -/
abbrev FactUses := List (FieldKey × List UUID)

/-- `uses[key] = facts`. -/
def FactUses.put (uses : FactUses) (key : FieldKey) (facts : List UUID) : FactUses :=
  uses.filter (fun entry => entry.1 ≠ key) ++ [(key, facts)]

/-- `set().union(*uses.values())`. -/
def FactUses.union (uses : FactUses) : List UUID := uses.flatMap Prod.snd

/-- `_version`. -/
def findVersion (db : FactDb chars) (tenant : TenantContext) (sessionId versionId : UUID) :
    Option ResumeVersion :=
  db.versions.find? fun row =>
    row.workspaceId = tenant.workspaceId ∧ row.sessionId = sessionId ∧ row.id = versionId

/-- The parents of a version and the version, oldest first. Versions count down
along the parents, so `fuel`, the number of the version, is never used up. -/
def lineage (db : FactDb chars) (tenant : TenantContext) (sessionId : UUID) :
    Nat → ResumeVersion → Except StoreError (List ResumeVersion)
  | fuel, row =>
    match row.parentVersionId with
    | none => .ok [row]
    | some parentId =>
      match findVersion db tenant sessionId parentId with
      | none => .error .notFound
      | some parent =>
        if parent.version + 1 ≠ row.version then
          .error (.conflict "version fact lineage is incomplete")
        else match fuel with
        | 0 => .error (.conflict "version fact lineage is incomplete")
        | fuel + 1 => (lineage db tenant sessionId fuel parent).map fun rows => rows ++ [row]

/-- The set `snapshot` of a version. -/
def factSnapshot (db : FactDb chars) (tenant : TenantContext) (versionId : UUID) : List UUID :=
  ((db.versionFacts.filter fun row =>
    row.workspaceId = tenant.workspaceId ∧ row.versionId = versionId).map
      ResumeVersionFact.factVersionId).dedup

section Uses
variable (uuid5 : UUID → Text → UUID)

/-- The bullets of a generated project: each cites the one fact its id was made from. -/
def bulletUses (sessionId : UUID) (snapshot : List UUID) :
    List Bullet → FactUses → Except StoreError FactUses
  | [], uses => .ok uses
  | bullet :: rest, uses =>
    match snapshot.filter fun factId => uuid5 sessionId (uuidText factId) = bullet.id with
    | [factId] => bulletUses sessionId snapshot rest (uses.put (bullet.id, .bullet) [factId])
    | _ => .error (.conflict "version fact references cannot be resolved")

/-- `uses.get(key)`. -/
def FactUses.get (uses : FactUses) (key : FieldKey) : List UUID :=
  (uses.find? fun entry => entry.1 = key).elim [] Prod.snd

/-- The uses of version 1. -/
def generatedUses (sessionId : UUID) (snapshot : List UUID) :
    List ProjectEntry → FactUses → Except StoreError FactUses
  | [], uses => .ok uses
  | project :: rest, uses =>
    match bulletUses uuid5 sessionId snapshot project.bullets uses with
    | .error reason => .error reason
    | .ok uses =>
      let uses := match project.bullets with
        | [] => uses
        | bullet :: _ => uses.put (project.id, .summary) (uses.get (bullet.id, .bullet))
      generatedUses sessionId snapshot rest uses

end Uses

/-- The replay of one recorded patch. -/
def replayPatch (uses : FactUses) (patch : PatchV1 chars) : Except StoreError FactUses :=
  match patch.operation with
  | .remove => .ok (uses.filter fun entry => entry.1.1 ≠ patch.itemId)
  | .replaceText field _ facts | .replaceItems field _ facts =>
    if facts = [] then .error (.conflict "version patch references cannot be resolved")
    else .ok (uses.put (patch.itemId, field) facts)
  | .move _ | .emphasize _ _ => .ok uses

def replayPatches : List (PatchV1 chars) → FactUses → Except StoreError FactUses
  | [], uses => .ok uses
  | patch :: rest, uses =>
    match replayPatch uses patch with
    | .error reason => .error reason
    | .ok uses => replayPatches rest uses

/-- The patches recorded for a version. -/
def recordedPatches (db : FactDb chars) (tenant : TenantContext) (sessionId : UUID)
    (version : ResumeVersion) : Except StoreError (List (PatchV1 chars)) :=
  match version.feedbackId with
  | none => .error (.conflict "version fact lineage is incomplete")
  | some feedbackId =>
    match db.feedback.find? fun row =>
        row.workspaceId = tenant.workspaceId ∧ row.id = feedbackId ∧ row.sessionId = sessionId with
    | none => .error (.conflict "version feedback is missing")
    | some feedback =>
      match feedback.patches with
      | none => .error (.conflict "version patch references cannot be resolved")
      | some patches => .ok patches

/-- `if uses and not set().union(*uses.values()) <= snapshot: raise`. -/
def checkSnapshot (uses : FactUses) (snapshot : List UUID) : Except StoreError FactUses :=
  if uses.union.all fun factId => decide (factId ∈ snapshot) then .ok uses
  else .error (.conflict "version fact snapshot omits a used fact")

/-- The uses after the first version of a lineage. -/
def firstUses (uuid5 : UUID → Text → UUID) (db : FactDb chars) (tenant : TenantContext)
    (sessionId : UUID) (version : ResumeVersion) : Except StoreError FactUses :=
  if version.version ≠ 1 then .error (.conflict "version fact lineage is incomplete")
  else
    let snapshot := factSnapshot db tenant version.id
    match generatedUses uuid5 sessionId snapshot version.content.data.projects [] with
    | .error reason => .error reason
    | .ok uses => checkSnapshot uses snapshot

/-- The uses after a later version. -/
def revisedUses (db : FactDb chars) (tenant : TenantContext) (sessionId : UUID)
    (uses : FactUses) (version : ResumeVersion) : Except StoreError FactUses :=
  let present := uses.filter fun entry => entry.1.1 ∈ version.content.data.itemIds
  match recordedPatches db tenant sessionId version with
  | .error reason => .error reason
  | .ok patches =>
    match replayPatches patches present with
    | .error reason => .error reason
    | .ok uses => checkSnapshot uses (factSnapshot db tenant version.id)

def laterUses (db : FactDb chars) (tenant : TenantContext) (sessionId : UUID) :
    List ResumeVersion → FactUses → Except StoreError FactUses
  | [], uses => .ok uses
  | version :: rest, uses =>
    match revisedUses db tenant sessionId uses version with
    | .error reason => .error reason
    | .ok uses => laterUses db tenant sessionId rest uses

/-- The dictionary `uses` at the end of `_actual_fact_uses`. -/
def attributedUses (uuid5 : UUID → Text → UUID) (db : FactDb chars) (tenant : TenantContext)
    (row : ResumeVersion) : Except StoreError FactUses :=
  match lineage db tenant row.sessionId row.version row with
  | .error reason => .error reason
  | .ok [] => .ok []
  | .ok (first :: later) =>
    match firstUses uuid5 db tenant row.sessionId first with
    | .error reason => .error reason
    | .ok uses => laterUses db tenant row.sessionId later uses

/-- `_actual_fact_uses`. -/
def actualFactUses (uuid5 : UUID → Text → UUID) (db : FactDb chars) (tenant : TenantContext)
    (row : ResumeVersion) : Except StoreError (List UUID) :=
  (attributedUses uuid5 db tenant row).map FactUses.union

/-! ## `_require_confirmable` -/

/-- `{value.id: value.review_status}` over the material facts in `used`. -/
def materialStatuses (db : FactDb chars) (tenant : TenantContext) (used : List UUID) :
    List (UUID × ReviewStatus) :=
  (db.materialFactVersions.filter fun row =>
    row.workspaceId = tenant.workspaceId ∧ row.id ∈ used).map fun row => (row.id, row.reviewStatus)

def userStatuses (db : FactDb chars) (tenant : TenantContext) (used : List UUID) :
    List (UUID × ReviewStatus) :=
  (db.userFactVersions.filter fun row =>
    row.workspaceId = tenant.workspaceId ∧ row.id ∈ used).map fun row => (row.id, row.reviewStatus)

/-- A user fact that supersedes one of the used facts. -/
def corrects (tenant : TenantContext) (used : List UUID) (fact : ResumeUserFact) : Bool :=
  fact.workspaceId = tenant.workspaceId &&
    (fact.supersedesMaterialVersionId.any (fun id => decide (id ∈ used)) ||
      fact.supersedesUserVersionId.any (fun id => decide (id ∈ used)))

/-- The status of the current version of a user fact. -/
def currentStatus (db : FactDb chars) (tenant : TenantContext) (fact : ResumeUserFact) :
    Option ReviewStatus :=
  (db.userFactVersions.find? fun row => row.workspaceId = tenant.workspaceId ∧
    row.factId = fact.id ∧ row.version = fact.currentVersion).map
      ResumeUserFactVersion.reviewStatus

/-- `status in {"pending", "confirmed"}`. -/
def underCorrection (db : FactDb chars) (tenant : TenantContext) (fact : ResumeUserFact) : Bool :=
  (currentStatus db tenant fact).any fun status => status = .pending ∨ status = .confirmed

def requireConfirmable (uuid5 : UUID → Text → UUID) (db : FactDb chars) (tenant : TenantContext)
    (version : ResumeVersion) : Except StoreError Unit :=
  if version.questions ≠ [] then
    .error (.conflict "selected version has unresolved validation questions")
  else match actualFactUses uuid5 db tenant version with
  | .error reason => .error reason
  | .ok used =>
    let statuses := materialStatuses db tenant used ++ userStatuses db tenant used
    if used = [] then .error (.conflict "selected version has no resolvable fact support")
    else if !(used.all fun id => statuses.any fun entry => entry.1 = id) ∨
        statuses.any (fun entry => entry.2 ≠ .confirmed) then
      .error (.conflict "selected version uses an unconfirmed fact")
    else if (db.userFacts.filter (corrects tenant used)).any (underCorrection db tenant) then
      .error (.conflict "selected version cites a fact under correction")
    else .ok ()

end Pathfinder
