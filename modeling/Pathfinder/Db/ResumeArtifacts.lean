import Mathlib
import Pathfinder.Library.Machine
import Pathfinder.Db.ResumePublication
import Pathfinder.Domain.TemplateArtifacts

/-!
# Publishing TeX artifacts

`SqlAlchemyResumeArtifactStore.stage` under concurrent transactions at READ COMMITTED: its
INSERT with `on_conflict_do_nothing` and the SELECT after a conflict are steps of their own,
and a caller commits or rolls back later. What `stage` reads before it renders comes with the
request, and so does the new id. No artifact is ever changed or deleted; the foreign keys are left
out.
-/
namespace Pathfinder
open Machines

/-! ## One publication -/

/-- The unique columns `uq_resume_tex_artifacts_identity`. -/
structure ArtifactIdentity where
  workspaceId : UUID
  profileVersionId : UUID
  templateSourceSha256 : Text
  contentSha256 : Text
  configSha256 : Text
  rendererVersion : Text
  deriving DecidableEq

structure ResumeTexArtifact where
  id : UUID
  createdByUserId : UUID
  templateCommit : Text
  preambleSha256 : Text
  texSha256 : Text
  texBytes : ByteArray
  identity : ArtifactIdentity
  deriving DecidableEq

/-- The settings of a `SqlAlchemyResumeArtifactStore`. -/
structure ArtifactStore where
  expectedSourceSha256 : Text
  manifest : TemplateManifest
  templateSource : Option ByteArray

/-- The columns of a `ResumeProfileImport` that `stage` reads. -/
structure ImportedSource where
  templateCommit : Text
  sourceSha256 : Text
  sourceBytes : ByteArray

/-- What `stage` finds: the version with its id and content, the answer of `_profile`, and the
source it was imported from. -/
structure StageReads where
  version : Option (UUID × Except StoreError ResumeContentV1)
  access : Except StoreError Unit
  source : Option ImportedSource

/-- The arguments of `stage`. -/
structure StageRequest (chars : CharacterTables) where
  tenant : TenantContext
  content : ResumeContentV1
  preferences : ResumePreferencesV1 chars
  lockBaseContent : Option ResumeContentV1

section Stage
variable (sha256 : ByteArray → Text)
  (layout : Text → Except StoreError TemplateLayout) {chars : CharacterTables}

/-- The profile content the renderer gets. -/
def renderBase (profileContent : ResumeContentV1) (request : StageRequest chars) :
    Except StoreError ResumeContentV1 :=
  match request.lockBaseContent with
  | none => .ok profileContent
  | some base =>
    (requireLockedItemsUnchanged profileContent.data base.data
      (defaultPreferences : ResumePreferencesV1 chars)).map fun () => base

/-- `stage` in front of its INSERT: the row it wants to add. -/
def stagedRow (store : ArtifactStore) (reads : StageReads) (request : StageRequest chars)
    (artifactId : UUID) : Except StoreError ResumeTexArtifact :=
  match reads.version with
  | none => .error .notFound
  | some (versionId, stored) =>
    match reads.access, reads.source with
    | .error reason, _ => .error reason
    | .ok (), none => .error (.invariant "resume profile source is missing")
    | .ok (), some source =>
      if source.templateCommit ≠ templateCommit ∨
          source.sourceSha256 ≠ store.expectedSourceSha256 then
        .error (.validation "resume template identity is unsupported")
      else match stored with
      | .error reason => .error reason
      | .ok profileContent =>
        match renderBase profileContent request with
        | .error reason => .error reason
        | .ok base =>
          (renderWithTemplate sha256 layout (store.templateSource.getD source.sourceBytes)
              store.manifest base.data request.content.data request.preferences).map fun rendered =>
            { id := artifactId
              createdByUserId := request.tenant.actorUserId
              templateCommit := rendered.manifest.commit
              preambleSha256 := rendered.manifest.preambleSha256
              texSha256 := rendered.texSha256
              texBytes := rendered.texBytes
              identity :=
                { workspaceId := request.tenant.workspaceId
                  profileVersionId := versionId
                  templateSourceSha256 := rendered.manifest.sourceSha256
                  contentSha256 := rendered.contentSha256
                  configSha256 := rendered.configSha256
                  rendererVersion := store.manifest.rendererVersion } }

/-- The comparison of the row found after a conflict with the one that was to be added. -/
def ResumeTexArtifact.consistent (existing row : ResumeTexArtifact) : Bool :=
  existing.texSha256 = row.texSha256 && existing.texBytes = row.texBytes &&
    existing.preambleSha256 = row.preambleSha256 && existing.templateCommit = row.templateCommit

/-! ## Transactions -/

/-- The rows that are committed, those that a transaction has added and not committed, and the
row that the `stage` of a transaction could not add. -/
structure ArtifactWorld where
  committed : List ResumeTexArtifact
  pending : List (Nat × ResumeTexArtifact)
  conflicted : Nat → Option ResumeTexArtifact

inductive ArtifactOp (chars : CharacterTables) where
  | insert (transaction : Nat) (store : ArtifactStore) (reads : StageReads)
      (request : StageRequest chars) (artifactId : UUID)
  | select (transaction : Nat)
  | commit (transaction : Nat)
  | rollback (transaction : Nat)

inductive ArtifactAnswer where
  /-- `stage` returns the id of an artifact. -/
  | returned (artifactId : UUID)
  /-- `stage` raises before the INSERT, or the INSERT does. -/
  | raised (reason : StoreError)
  /-- `resume artifact identity is inconsistent`. -/
  | inconsistent
  /-- The INSERT did nothing. -/
  | conflict
  /-- The statement waits for another transaction, or is not the next one. -/
  | waits
  | done
  deriving DecidableEq

namespace ArtifactWorld

def ownRows (world : ArtifactWorld) (transaction : Nat) : List ResumeTexArtifact :=
  (world.pending.filter fun entry => entry.1 = transaction).map Prod.snd

/-- The rows a statement of the transaction sees. -/
def visible (world : ArtifactWorld) (transaction : Nat) : List ResumeTexArtifact :=
  world.committed ++ world.ownRows transaction

/-- The rows of the other transactions stay. -/
def ended (world : ArtifactWorld) (transaction : Nat) (committed : List ResumeTexArtifact) :
    ArtifactWorld :=
  { committed := committed
    pending := world.pending.filter fun entry => entry.1 ≠ transaction
    conflicted := Function.update world.conflicted transaction none }

/-- `INSERT ... ON CONFLICT DO NOTHING` of a row. -/
def insertRow (world : ArtifactWorld) (transaction : Nat) (row : ResumeTexArtifact) :
    ArtifactWorld × ArtifactAnswer :=
  if (world.visible transaction).any fun other => other.identity = row.identity then
    ({ world with conflicted := Function.update world.conflicted transaction (some row) },
      .conflict)
  else if world.pending.any fun entry => entry.2.identity = row.identity then (world, .waits)
  else if (world.committed ++ world.pending.map Prod.snd).any fun other => other.id = row.id then
    (world, .raised (.integrity "pk_resume_tex_artifacts"))
  else ({ world with pending := world.pending ++ [(transaction, row)] }, .returned row.id)

/-- The SELECT after a conflict, and what `stage` makes of it. -/
def selectRow (world : ArtifactWorld) (transaction : Nat) (row : ResumeTexArtifact) :
    ArtifactAnswer :=
  match (world.visible transaction).find? fun other => other.identity = row.identity with
  | none => .inconsistent
  | some existing => if existing.consistent row then .returned existing.id else .inconsistent

end ArtifactWorld

def artifactStep (world : ArtifactWorld) : ArtifactOp chars → ArtifactWorld × ArtifactAnswer
  | .insert transaction store reads request artifactId =>
    match world.conflicted transaction with
    | some _ => (world, .waits)
    | none =>
      match stagedRow sha256 layout store reads request artifactId with
      | .error reason => (world, .raised reason)
      | .ok row => world.insertRow transaction row
  | .select transaction =>
    match world.conflicted transaction with
    | none => (world, .done)
    | some row =>
      ({ world with conflicted := Function.update world.conflicted transaction none },
        world.selectRow transaction row)
  | .commit transaction =>
    (world.ended transaction (world.committed ++ world.ownRows transaction), .done)
  | .rollback transaction => (world.ended transaction world.committed, .done)

end Stage
end Pathfinder
