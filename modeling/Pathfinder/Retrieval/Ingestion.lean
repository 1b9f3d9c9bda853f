import Pathfinder.Db.Documents
import Pathfinder.Library.KeyedList
import Pathfinder.Material.Sources

/-!
# Ingesting prepared documents

`DocumentIngestionService.ingest`. The embedding port is a parameter, as are the ids of new
documents and what other transactions do before each transaction of the service.
-/
namespace Pathfinder
open KeyedList KeyedTable Machines

/-- `LOCKED_EMBEDDING_DIMENSION`. -/
def embeddingDimension : Nat := 1536

/-- What `ingest` runs in. The index of a transaction counts those of the call. -/
structure IngestionPorts (V : Type) where
  dimension : V → Nat
  embed : List Text → Option (List V)
  newId : Nat → UUID
  others : Nat → List (DocumentRequest V)

variable {V : Type} (ports : IngestionPorts V)

/-- One call of the embedding port and the check of its result. -/
def embedBatch (texts : List Text) : Except IngestionFailure (List V) :=
  match ports.embed texts with
  | none => .error .provider
  | some vectors =>
    if vectors.length ≠ texts.length ∨ vectors.any (fun vector =>
      ports.dimension vector ≠ embeddingDimension) then .error .invariant
    else .ok vectors

/-- The embeddings of the chunks of a source. -/
def embedSource (source : PreparedIngestionSource) : Except IngestionFailure (List V) := do
  let batches ← (partitionEmbeddingTexts (source.chunks.map PreparedDocumentChunk.text)).mapError
    fun _ => IngestionFailure.invariant
  let vectors := (← batches.mapM (embedBatch ports)).flatten
  if vectors.length ≠ source.chunks.length then .error .invariant else .ok vectors

/-- One turn of the loop over `unique_sources`. -/
def ingestSource (tenant : TenantContext) (turn : Nat) (source : PreparedIngestionSource)
    (tables : DocumentTables V) : DocumentTables V × Except IngestionFailure UUID :=
  let identity := buildDocumentIdentity tenant.workspaceId source
  let tables := documentRepository.after tables (ports.others (2 * turn))
  match findComplete tables tenant identity (buildDocumentExpectation source) with
  | .error failure => (tables, .error failure)
  | .ok (some existing) => (tables, .ok existing)
  | .ok none =>
    match embedSource ports source with
    | .error failure => (tables, .error failure)
    | .ok vectors =>
      let tables := documentRepository.after tables (ports.others (2 * turn + 1))
      persist tables (ports.newId turn) (.ofSource tenant source vectors)

/-- The loop over `unique_sources`. -/
def ingestUnique (tenant : TenantContext) : Nat → List PreparedIngestionSource →
    DocumentTables V → DocumentTables V × Except IngestionFailure (List (DocumentIdentity × UUID))
  | _, [], tables => (tables, .ok [])
  | turn, source :: rest, tables =>
    match ingestSource ports tenant turn source tables with
    | (tables, .error failure) => (tables, .error failure)
    | (tables, .ok id) =>
      let (tables, found) := ingestUnique tenant (turn + 1) rest tables
      (tables, found.map fun found =>
        (buildDocumentIdentity tenant.workspaceId source, id) :: found)

/-- The first source of every identity. -/
def uniqueSources (tenant : TenantContext) (sources : List PreparedIngestionSource) :
    List PreparedIngestionSource :=
  firsts (buildDocumentIdentity tenant.workspaceId) [] sources

/-- `ingest`: every position takes the document of its identity. -/
def ingest (tenant : TenantContext) (sources : List PreparedIngestionSource)
    (tables : DocumentTables V) : DocumentTables V × Except IngestionFailure (List UUID) :=
  let (tables, found) := ingestUnique ports tenant 0 (uniqueSources tenant sources) tables
  (tables, found.bind fun found => sources.mapM fun source =>
    match found.lookup (buildDocumentIdentity tenant.workspaceId source) with
    | none => .error .invariant
    | some id => .ok id)

end Pathfinder

/-!
## Stored documents and their sources

Every document of the repository was stored for a source that a chunker prepared, with the
chunks of that source, whatever transactions came between.
-/
namespace Pathfinder
open KeyedTable Machines

section Stored
variable {V : Type} {tables : DocumentTables V} {row : ImmutableDocumentRepresentation V}
  {id : UUID}

/-- The row was stored for this source. -/
structure StoredFor (row : ImmutableDocumentRepresentation V) (source : PreparedIngestionSource) :
    Prop where
  identity : row.identity = buildDocumentIdentity row.identity.workspaceId source
  content : row.content = source.content
  chunks : row.plainChunks = source.chunks

variable (sha256 lower nfc : Text → Text) (isPrintable : Char → Bool)

/-- Every document was stored for a prepared source, and no two have one identity. -/
structure SoundDocuments (tables : DocumentTables V) : Prop where
  owned : ∀ id row, tables.documents.get id = some row →
    ∃ source, Prepared sha256 lower nfc isPrintable source ∧ StoredFor row source
  unique : ∀ id row id' row', tables.documents.get id = some row →
    tables.documents.get id' = some row' → row.identity = row'.identity → id = id'

/-- A transaction that `ingest` can make: it stores what it was given for a prepared source. -/
def Admitted : DocumentRequest V → Prop
  | .members _ => True
  | .persist _ representation => ∃ tenant source vectors,
    Prepared sha256 lower nfc isPrintable source ∧ vectors.length = source.chunks.length ∧
      representation = .ofSource tenant source vectors

variable {sha256 lower nfc isPrintable}

theorem ofSource_stored {tenant : TenantContext} {source : PreparedIngestionSource}
    {vectors : List V} (complete : vectors.length = source.chunks.length) :
    StoredFor (.ofSource tenant source vectors) source :=
  ⟨rfl, rfl, ImmutableDocumentRepresentation.ofSource_plainChunks complete⟩

/-- `persist` fails, or finds the document of the identity, or stores a new one. -/
theorem persist_cases (tables : DocumentTables V) (documentId : UUID)
    (representation : ImmutableDocumentRepresentation V) :
    (∃ failure, persist tables documentId representation = (tables, .error failure)) ∨
      (∃ id winner, tables.document representation.identity = some (id, winner) ∧
        validateExisting winner representation.identity representation.expected = .ok () ∧
        persist tables documentId representation = (tables, .ok id)) ∨
      (tables.document representation.identity = none ∧ tables.documents.get documentId = none ∧
        persist tables documentId representation =
          ({ tables with documents := tables.documents.put documentId representation },
            .ok documentId)) := by
  unfold persist
  split
  · exact .inl ⟨_, rfl⟩
  split
  · exact .inl ⟨_, rfl⟩
  split
  next id winner found =>
    cases valid : validateExisting winner representation.identity representation.expected with
    | error failure => exact .inl ⟨failure, rfl⟩
    | ok _ => exact .inr (.inl ⟨id, winner, found, valid, rfl⟩)
  next absent =>
  split
  next inserts =>
    simp only [insertable, Bool.and_eq_true, Option.isNone_iff_eq_none] at inserts
    exact .inr (.inr ⟨absent, inserts.1.1, rfl⟩)
  · exact .inl ⟨_, rfl⟩

theorem document_some {identity : DocumentIdentity}
    (found : tables.document identity = some (id, row)) :
    tables.documents.get id = some row ∧ row.identity = identity := by
  obtain ⟨stored, same⟩ := Table.find?_some found
  exact ⟨stored, of_decide_eq_true same⟩

theorem document_none {identity : DocumentIdentity} (absent : tables.document identity = none)
    (stored : tables.documents.get id = some row) : row.identity ≠ identity :=
  of_decide_eq_false (Table.find?_none absent stored)

namespace SoundDocuments

theorem document (sound : SoundDocuments sha256 lower nfc isPrintable tables)
    (stored : tables.documents.get id = some row) :
    tables.document row.identity = some (id, row) := by
  cases found : tables.document row.identity with
  | none => exact absurd rfl (document_none found stored)
  | some entry =>
    obtain ⟨stored', same⟩ := document_some found
    obtain rfl := sound.unique _ _ _ _ stored' stored same
    rw [stored] at stored'
    cases stored'
    rfl

theorem step (sound : SoundDocuments sha256 lower nfc isPrintable tables)
    {request : DocumentRequest V} (admitted : Admitted sha256 lower nfc isPrintable request) :
    SoundDocuments sha256 lower nfc isPrintable (documentRepository.step tables request).1 := by
  cases request with
  | members memberships => exact ⟨sound.owned, sound.unique⟩
  | persist documentId representation =>
    obtain ⟨tenant, source, vectors, prepared, complete, rfl⟩ := admitted
    obtain ⟨failure, kept⟩ | ⟨_, _, -, -, kept⟩ | ⟨absent, -, stored⟩ :=
      persist_cases tables documentId (.ofSource tenant source vectors)
    · exact (congrArg Prod.fst kept).symm ▸ sound
    · exact (congrArg Prod.fst kept).symm ▸ sound
    have next : (documentRepository.step tables
        (.persist documentId (.ofSource tenant source vectors))).1 =
        { tables with
          documents := tables.documents.put documentId (.ofSource tenant source vectors) } :=
      congrArg Prod.fst stored
    rw [next]
    refine ⟨fun id row here => ?_, fun id row id' row' here here' same => ?_⟩
    · rw [Table.put_get] at here
      split at here
      · cases here
        exact ⟨source, prepared, ofSource_stored complete⟩
      · exact sound.owned id row here
    · rw [Table.put_get] at here here'
      split at here <;> split at here'
      next first second => exact first.trans second.symm
      · cases here
        exact absurd same.symm (document_none absent here')
      · cases here'
        exact absurd same (document_none absent here)
      · exact sound.unique id row id' row' here here' same

theorem after (sound : SoundDocuments sha256 lower nfc isPrintable tables)
    {requests : List (DocumentRequest V)}
    (admitted : ∀ request ∈ requests, Admitted sha256 lower nfc isPrintable request) :
    SoundDocuments sha256 lower nfc isPrintable (documentRepository.after tables requests) := by
  induction requests generalizing tables with
  | nil => exact sound
  | cons request rest ih =>
    exact ih (sound.step (admitted request List.mem_cons_self)) fun other member =>
      admitted other (List.mem_cons_of_mem _ member)

theorem reached {requests : List (DocumentRequest V)}
    (admitted : ∀ request ∈ requests, Admitted sha256 lower nfc isPrintable request) :
    SoundDocuments sha256 lower nfc isPrintable (documentRepository.reached requests) := by
  refine after ⟨fun _ _ stored => ?_, fun _ _ _ _ stored => ?_⟩ admitted <;> cases stored

end SoundDocuments

end Stored
end Pathfinder
