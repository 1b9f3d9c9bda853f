import Pathfinder.Db.Documents
import Pathfinder.Domain.PythonText
import Pathfinder.Guarantees.PersistableSources
import Pathfinder.Retrieval.Chunking

/-!
# Material files as ingestion sources

The whole source that `prepare_material_file` prepares; its chunks as rows of
`document_chunks`, which have no line numbers. `str.lower` enters as a function of the
interpreter's Unicode tables.
-/
namespace Pathfinder

/-- `MATERIAL_CHUNKING_VERSION`. -/
def materialChunkingVersion : Text := "material-lines-utf8-800-v1".toList

/-- `_CODE_EXTENSIONS`. -/
def codeExtensions : List Text :=
  [".py", ".js", ".jsx", ".ts", ".tsx", ".cjs", ".mjs", ".sql", ".sh"].map String.toList

variable (sha256 lower : Text → Text)

local instance textLawful : LawfulBEq Text := inferInstance

/-- `suffix` and `source_type` of `prepare_material_file`. -/
def materialSourceType (path : Text) : String :=
  let suffix := lower (pathSuffix path)
  if suffix ∈ codeExtensions then "code" else if suffix = ".md".toList then "markdown" else "text"

/-- `_chunk`, without the line numbers. -/
def documentChunkOf (chunk : PreparedIngestionChunk) : PreparedDocumentChunk where
  ordinal := chunk.ordinal
  section_ := none
  text := chunk.text
  contentHash := sha256 chunk.text
  tokenCount := utf8Length chunk.text

/-- `prepare_material_file`. -/
def prepareMaterialSource (nfc : Text → Text) (item : MaterialFile) :
    Except MaterialReadError PreparedIngestionSource :=
  (prepareMaterialFile nfc item).map fun chunks =>
    let content := normalizeDocumentContent nfc ((decodeUtf8 item.content).getD [])
    let path := item.path.toList
    { sourceName := path.drop (path.length - 255)
      sourceType := materialSourceType lower path
      title := (pathName path).take 255
      content := content
      contentHash := sha256 content
      normalizationVersion := "nfc-lf-v1".toList
      chunkingVersion := materialChunkingVersion
      chunks := chunks.map (documentChunkOf sha256) }

end Pathfinder

/-!
## The rules a source is chunked by

Two sources of one identity are chunked alike exactly where the identity leaves nothing out: the
type of a source decides whether headings count, and no identity holds it.
-/
namespace Pathfinder

/-! ## Chunks of one content -/

section Chunks
variable {sha256 : Text → Text}

/-- No line of a content is a heading. -/
def Unheaded (content : Text) : Prop :=
  ∀ line ∈ splitlinesKeepends content, headingTitle (withoutNewline line) = none

instance (content : Text) : Decidable (Unheaded content) := inferInstanceAs (Decidable (∀ _ ∈ _, _))

theorem markdownSectionsFrom_unheaded {section_ : Option Text} {accumulated lines : List Text}
    (unheaded : ∀ line ∈ lines, headingTitle (withoutNewline line) = none) :
    markdownSectionsFrom section_ accumulated lines =
      flushSection section_ (accumulated ++ lines) := by
  induction lines generalizing accumulated with
  | nil => rw [markdownSectionsFrom, List.append_nil]
  | cons line rest ih =>
    rw [markdownSectionsFrom, unheaded line List.mem_cons_self]
    dsimp only
    rw [ih fun other member => unheaded other (List.mem_cons_of_mem _ member), List.append_assoc,
      List.singleton_append]

/-- Without headings the whole content is one section. -/
theorem markdownSections_unheaded {content : Text} (shown : stripText content ≠ [])
    (unheaded : Unheaded content) : markdownSections content = [(none, content)] := by
  have lines : splitlinesKeepends content ≠ [] := by
    intro none
    have whole := splitlinesKeepends_flatten content
    rw [none] at whole
    exact shown (whole ▸ rfl)
  rw [markdownSections, markdownSectionsFrom_unheaded unheaded, List.nil_append, flushSection,
    splitlinesKeepends_flatten, if_pos ⟨lines, shown⟩]

/-- A heading names the section of a chunk in one type and of none in another. -/
theorem chunkContent_headed {content : Text} {sourceType : String} (headed : ¬Unheaded content)
    (other : sourceType ≠ "markdown") :
    chunkContent sha256 content "markdown" ≠ chunkContent sha256 content sourceType := by
  intro same
  obtain ⟨line, member, titled⟩ : ∃ line ∈ splitlinesKeepends content,
      headingTitle (withoutNewline line) ≠ none := by
    simpa [Unheaded] using headed
  obtain ⟨heading, found⟩ := Option.ne_none_iff_exists'.mp titled
  obtain ⟨part, inside, named⟩ := @markdownSectionsFrom_headed none [] _ line heading member found
  have shown := (mem_markdownSectionsFrom inside).1
  obtain ⟨chunk, listed, within⟩ := @section_chunk sha256 content "markdown" part inside shown
  exact other (chunk_section (same ▸ listed) (within.trans named)).1

theorem chunkContent_eq_iff {content : Text} (shown : stripText content ≠ [])
    (first second : String) :
    chunkContent sha256 content first = chunkContent sha256 content second ↔
      ((first = "markdown" ↔ second = "markdown") ∨ Unheaded content) := by
  by_cases unheaded : Unheaded content
  · have plain (sourceType : String) : chunkContent sha256 content sourceType =
        chunkContent sha256 content "text" := by
      have one := markdownSections_unheaded shown unheaded
      unfold chunkContent
      rw [one, ite_self, ite_self]
    simp [plain first, plain second, unheaded]
  · by_cases markdown : first = "markdown" <;> by_cases markdown' : second = "markdown"
    · simp [markdown, markdown']
    · simpa [markdown, markdown', unheaded] using chunkContent_headed unheaded markdown'
    · simpa [markdown, markdown', unheaded] using (chunkContent_headed unheaded markdown).symm
    · simp [chunkContent, markdown, markdown']

end Chunks

/-! ## Prepared sources -/

section Sources
variable (sha256 lower nfc : Text → Text) (isPrintable : Char → Bool)

/-- A source that one of the two chunkers has accepted and prepared. -/
inductive Prepared (source : PreparedIngestionSource) : Prop where
  | document (raw : ValidatedIngestionSource) (fileIndex : Nat)
      (accepted : prepareSource sha256 isPrintable nfc raw fileIndex = .ok source)
  | material (item : MaterialFile)
      (accepted : prepareMaterialSource sha256 lower nfc item = .ok source)

/-- The digest tells two contents apart. -/
def NoCollision (first second : PreparedIngestionSource) : Prop :=
  sha256 first.content = sha256 second.content → first.content = second.content

/-- Two sources of one content are chunked by the same rules. -/
def SameRules (first second : PreparedIngestionSource) : Prop :=
  first.chunkingVersion = materialChunkingVersion ∨
    (first.sourceType = "markdown" ↔ second.sourceType = "markdown") ∨ Unheaded first.content

end Sources

section Prepared
variable {sha256 lower nfc : Text → Text} {isPrintable : Char → Bool}
  {source first second : PreparedIngestionSource}

/-- The chunks of a material file with this content. -/
def materialChunks (sha256 : Text → Text) (content : Text) : List PreparedDocumentChunk :=
  (numberedPieces content).zipIdx.map fun entry =>
    documentChunkOf sha256 ⟨entry.2, entry.1.1, entry.1.2, entry.1.2⟩

/-- What the chunks of a source are taken from. -/
structure ChunkedBy (sha256 : Text → Text) (source : PreparedIngestionSource) : Prop where
  hash : source.contentHash = sha256 source.content
  shown : stripText source.content ≠ []
  chunks : source.chunks = if source.chunkingVersion = materialChunkingVersion then
    materialChunks sha256 source.content
    else chunkContent sha256 source.content source.sourceType

theorem documentVersion_ne :
    "heading-paragraph-utf8-budget-800-v1".toList ≠ materialChunkingVersion := by decide

/-- What a material file is prepared to. -/
theorem prepareMaterialFile_ok {item : MaterialFile} {chunks : List PreparedIngestionChunk}
    (prepared : prepareMaterialFile nfc item = .ok chunks) :
    ∃ text, decodeUtf8 item.content = some text ∧
      stripText (normalizeDocumentContent nfc text) ≠ [] ∧
      chunks = (numberedPieces (normalizeDocumentContent nfc text)).zipIdx.map fun entry =>
        ⟨entry.2, entry.1.1, entry.1.2, entry.1.2⟩ := by
  unfold prepareMaterialFile at prepared
  split at prepared
  · cases prepared
  next text decoded =>
  dsimp only at prepared
  split at prepared
  · cases prepared
  next small =>
  split at prepared
  · cases prepared
  exact ⟨text, decoded, fun blank => small (.inl blank), (Except.ok.inj prepared).symm⟩

theorem Prepared.chunked (prepared : Prepared sha256 lower nfc isPrintable source) :
    ChunkedBy sha256 source := by
  cases prepared with
  | document raw fileIndex accepted =>
    obtain ⟨⟨-, -, shown⟩, rfl⟩ := ((prepareSource_yields raw fileIndex).iff_ok source).mp accepted
    have version : (preparedOf sha256 nfc raw).chunkingVersion ≠ materialChunkingVersion :=
      documentVersion_ne
    refine ⟨rfl, shown, ?_⟩
    rw [if_neg version]
    rfl
  | material item accepted =>
    unfold prepareMaterialSource at accepted
    cases prepared : prepareMaterialFile nfc item with
    | error failure => rw [prepared] at accepted; cases accepted
    | ok chunks =>
    rw [prepared] at accepted
    obtain ⟨text, decoded, shown, rfl⟩ := prepareMaterialFile_ok prepared
    obtain rfl := Except.ok.inj accepted
    simp only [decoded, Option.getD_some]
    refine ⟨rfl, shown, ?_⟩
    rw [if_pos rfl, List.map_map]
    rfl

/-- Chunks are numbered in the order of the text. -/
theorem ChunkedBy.sorted (chunked : ChunkedBy sha256 source) :
    source.chunks.Pairwise fun before behind => before.ordinal ≤ behind.ordinal := by
  have numbered : source.chunks.map PreparedDocumentChunk.ordinal =
      List.range source.chunks.length := by
    rw [chunked.chunks]
    split
    · simp only [materialChunks, List.map_map, List.length_map, List.length_zipIdx]
      rw [List.range_eq_range']
      exact List.zipIdx_map_snd 0 _
    · exact chunkContent_ordinals source.content source.sourceType
  have rising : (source.chunks.map PreparedDocumentChunk.ordinal).Pairwise (· ≤ ·) := by
    rw [numbered]
    exact List.pairwise_le_range
  exact List.pairwise_map.mp rising

/-- Sources of one identity have the same chunks exactly where they are chunked by the same
rules. -/
theorem chunks_eq_iff (chunked : ChunkedBy sha256 first) (chunked' : ChunkedBy sha256 second)
    {workspaceId : UUID}
    (same : buildDocumentIdentity workspaceId first = buildDocumentIdentity workspaceId second)
    (distinct : NoCollision sha256 first second) :
    first.content = second.content ∧ (first.chunks = second.chunks ↔ SameRules first second) := by
  simp only [buildDocumentIdentity, DocumentIdentity.mk.injEq, true_and, and_true] at same
  obtain ⟨hash, -, version⟩ := same
  rw [chunked.hash, chunked'.hash] at hash
  have content := distinct hash
  refine ⟨content, ?_⟩
  rw [chunked.chunks, chunked'.chunks, ← version, ← content, SameRules]
  split
  next material => simp [material]
  next document => rw [chunkContent_eq_iff chunked.shown, or_iff_right document]

end Prepared

end Pathfinder
