import Mathlib.Data.List.Sort
import Pathfinder.Db.Models
import Pathfinder.Domain.Status
import Pathfinder.Library.Machine
import Pathfinder.Library.Table
import Pathfinder.Retrieval.Chunking

/-!
# The tables of documents

The checks of `documents` and `document_chunks` in `db/models.py` on what the chunker
prepares. A text column takes no character zero.
-/
namespace Pathfinder

def storableText (text : Text) : Bool := !text.contains '\x00'

/-- `char_length(text) BETWEEN 1 AND bound`. -/
def charLengthWithin (bound : Nat) (text : Text) : Bool :=
  1 ≤ text.length && text.length ≤ bound

/-- `octet_length(text) BETWEEN 1 AND bound`. -/
def octetLengthWithin (bound : Nat) (text : Text) : Bool :=
  1 ≤ utf8Length text && utf8Length text ≤ bound

theorem octetLengthWithin_iff {bound : Nat} {text : Text} : octetLengthWithin bound text = true ↔
    1 ≤ utf8Length text ∧ utf8Length text ≤ bound := by
  simp [octetLengthWithin]

theorem storableText_iff {text : Text} : storableText text = true ↔ '\x00' ∉ text := by
  simp [storableText]

/-- `version ~ '^[a-z0-9][a-z0-9._-]{0,99}$'`. -/
def isVersionName : Text → Bool
  | [] => false
  | c :: rest =>
    let plain := fun (c : Char) => c.isDigit || c.isLower
    plain c && rest.length ≤ 99 && rest.all fun c => plain c || c = '.' || c = '_' || c = '-'

/-- `EMBEDDING_PROFILE`. -/
def embeddingProfile : Text := "qwen-beijing-text-embedding-v4-1536-v1".toList

/-- The checks of a row of `documents`. -/
def documentAccepted (source : PreparedIngestionSource) : Bool :=
  (source.sourceType == "markdown" || source.sourceType == "text" || source.sourceType == "code") &&
    charLengthWithin 255 source.title && charLengthWithin 255 source.sourceName &&
    octetLengthWithin 1048576 source.content && isHexDigest source.contentHash &&
    isVersionName source.normalizationVersion && isVersionName source.chunkingVersion &&
    isVersionName embeddingProfile && storableText source.title &&
    storableText source.sourceName && storableText source.content

/-- The checks of a row of `document_chunks`. -/
def chunkAccepted (chunk : PreparedDocumentChunk) : Bool :=
  0 ≤ chunk.ordinal && chunk.section_.all (charLengthWithin 800) &&
    octetLengthWithin 800 chunk.text && isHexDigest chunk.contentHash &&
    (1 ≤ chunk.tokenCount && chunk.tokenCount ≤ 800 &&
      chunk.tokenCount == utf8Length chunk.text) &&
    isVersionName embeddingProfile && chunk.section_.all storableText && storableText chunk.text

/-- The rows of a document that is not stored yet: no check refuses one, and no two chunks have
one ordinal. -/
def Persistable (source : PreparedIngestionSource) : Prop :=
  documentAccepted source = true ∧ (∀ chunk ∈ source.chunks, chunkAccepted chunk = true) ∧
    (source.chunks.map PreparedDocumentChunk.ordinal).Nodup

/-!
## Documents and their identity

The data of `retrieval/documents.py`: what a document is found by, what is expected of a stored
one, and what is stored. An embedding is a value of any type.
-/

/-- `DocumentIngestionInvariantError`, `DocumentIngestionAuthorizationError`, an error of the
embedding port and a row that the database refuses. -/
inductive IngestionFailure where
  | invariant | authorization | provider | refused
  deriving DecidableEq, Repr

structure DocumentIdentity where
  workspaceId : UUID
  contentHash : Text
  normalizationVersion : Text
  chunkingVersion : Text
  embeddingModel : Text := embeddingProfile
  deriving DecidableEq, Repr

/-- `ExpectedDocumentRepresentation`. -/
structure ExpectedDocumentRepresentation where
  content : Text
  chunks : List PreparedDocumentChunk
  deriving DecidableEq, Repr

structure ImmutableDocumentChunk (V : Type) extends PreparedDocumentChunk where
  embedding : V

/-- `ImmutableDocumentRepresentation`; a row of `documents` with its rows of `document_chunks`
holds the same. -/
structure ImmutableDocumentRepresentation (V : Type) where
  identity : DocumentIdentity
  createdByUserId : UUID
  title : Text
  sourceType : String
  sourceName : Text
  content : Text
  chunks : List (ImmutableDocumentChunk V)

/-- `build_document_identity`. -/
def buildDocumentIdentity (workspaceId : UUID) (source : PreparedIngestionSource) :
    DocumentIdentity where
  workspaceId := workspaceId
  contentHash := source.contentHash
  normalizationVersion := source.normalizationVersion
  chunkingVersion := source.chunkingVersion

/-- `build_document_expectation`. -/
def buildDocumentExpectation (source : PreparedIngestionSource) :
    ExpectedDocumentRepresentation where
  content := source.content
  chunks := source.chunks

namespace ImmutableDocumentRepresentation
variable {V : Type}

/-- The representation that `ingest` stores for a source. -/
def ofSource (tenant : TenantContext) (source : PreparedIngestionSource) (vectors : List V) :
    ImmutableDocumentRepresentation V where
  identity := buildDocumentIdentity tenant.workspaceId source
  createdByUserId := tenant.actorUserId
  title := source.title
  sourceType := source.sourceType
  sourceName := source.sourceName
  content := source.content
  chunks := (source.chunks.zip vectors).map fun (chunk, vector) => { chunk with embedding := vector }

/-- Its chunks without their embeddings. -/
def plainChunks (representation : ImmutableDocumentRepresentation V) : List PreparedDocumentChunk :=
  representation.chunks.map ImmutableDocumentChunk.toPreparedDocumentChunk

/-- What `persist` expects of the document that was stored first. -/
def expected (representation : ImmutableDocumentRepresentation V) :
    ExpectedDocumentRepresentation where
  content := representation.content
  chunks := representation.plainChunks

/-- What the checks of the tables read of it. -/
def source (representation : ImmutableDocumentRepresentation V) : PreparedIngestionSource where
  sourceName := representation.sourceName
  sourceType := representation.sourceType
  title := representation.title
  content := representation.content
  contentHash := representation.identity.contentHash
  normalizationVersion := representation.identity.normalizationVersion
  chunkingVersion := representation.identity.chunkingVersion
  chunks := representation.plainChunks

theorem ofSource_plainChunks {tenant : TenantContext} {prepared : PreparedIngestionSource}
    {vectors : List V} (complete : vectors.length = prepared.chunks.length) :
    (ofSource tenant prepared vectors).plainChunks = prepared.chunks := by
  simp only [plainChunks, ofSource, List.map_map]
  exact List.map_fst_zip complete.ge

end ImmutableDocumentRepresentation
/-!
## The repository of documents

`find_complete` and `persist` of `db/documents.py`, each one transaction, over the table of
documents with their chunks. Documents are never changed or deleted. The new id comes with the
request; a row that a check or a key refuses takes the whole transaction back.
-/

open KeyedTable Machines

structure DocumentTables (V : Type) where
  memberships : List WorkspaceMembership
  documents : Table UUID (ImmutableDocumentRepresentation V)

variable {V : Type}

namespace DocumentTables

def empty : DocumentTables V := ⟨[], Table.empty⟩

/-- The document with an identity, by the unique key
`uq_documents_representation_identity`. -/
def document (tables : DocumentTables V) (identity : DocumentIdentity) :
    Option (UUID × ImmutableDocumentRepresentation V) :=
  tables.documents.find? fun row => row.identity = identity

end DocumentTables

/-- The chunks of a row, `ORDER BY ordinal`. -/
def selectedChunks (row : ImmutableDocumentRepresentation V) : List PreparedDocumentChunk :=
  row.plainChunks.mergeSort fun first second => first.ordinal ≤ second.ordinal

/-- `_validate_existing`. -/
def validateExisting (row : ImmutableDocumentRepresentation V) (identity : DocumentIdentity)
    (expected : ExpectedDocumentRepresentation) : Except IngestionFailure Unit :=
  if row.identity ≠ identity ∨ row.content ≠ expected.content ∨
      selectedChunks row ≠ expected.chunks then .error .invariant
  else .ok ()

/-- `find_complete`. -/
def findComplete (tables : DocumentTables V) (tenant : TenantContext)
    (identity : DocumentIdentity) (expected : ExpectedDocumentRepresentation) :
    Except IngestionFailure (Option UUID) :=
  if identity.workspaceId ≠ tenant.workspaceId then .error .authorization
  else if !membershipActive tables.memberships tenant.workspaceId tenant.actorUserId then
    .error .authorization
  else match tables.document identity with
  | none => .ok none
  | some (id, row) => (validateExisting row identity expected).map fun _ => some id

/-- The rows of a representation pass the checks of the tables, under a key that is free. -/
def insertable (tables : DocumentTables V) (documentId : UUID)
    (representation : ImmutableDocumentRepresentation V) : Bool :=
  (tables.documents.get documentId).isNone && representation.plainChunks.all chunkAccepted &&
    decide (representation.plainChunks.map PreparedDocumentChunk.ordinal).Nodup

/-- `persist`. The checks of the document row come before its conflict. -/
def persist (tables : DocumentTables V) (documentId : UUID)
    (representation : ImmutableDocumentRepresentation V) :
    DocumentTables V × Except IngestionFailure UUID :=
  if !membershipActive tables.memberships representation.identity.workspaceId
      representation.createdByUserId then (tables, .error .authorization)
  else if !documentAccepted representation.source then (tables, .error .refused)
  else match tables.document representation.identity with
  | some (id, winner) =>
    (tables, (validateExisting winner representation.identity representation.expected).map
      fun _ => id)
  | none =>
    if insertable tables documentId representation then
      ({ tables with documents := tables.documents.put documentId representation }, .ok documentId)
    else (tables, .error .refused)

/-! ## Runs of the repository -/

/-- A transaction that changes the tables: of the members, or `persist`. -/
inductive DocumentRequest (V : Type) where
  | members (memberships : List WorkspaceMembership)
  | persist (documentId : UUID) (representation : ImmutableDocumentRepresentation V)

def documentRepository : Machine (DocumentTables V) (DocumentRequest V)
    (Except IngestionFailure (Option UUID)) where
  start := .empty
  step tables
    | .members memberships => ({ tables with memberships := memberships }, .ok none)
    | .persist documentId representation =>
      let (tables, answer) := persist tables documentId representation
      (tables, answer.map some)

end Pathfinder
