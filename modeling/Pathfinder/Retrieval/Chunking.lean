import Mathlib.Data.List.DropRight
import Pathfinder.Domain.PythonText
import Pathfinder.Material.Chunking

/-!
# Documents and their chunks

`retrieval/chunking.py`, and `partition_embedding_texts` of `retrieval/documents.py`. The
digest of a text and the printable characters are parameters, as canonical composition is.
A chunk of a document has no line numbers.
-/
namespace Pathfinder

def maxChunkTokens : Nat := 800
def maxDocumentCharacters : Nat := 100000
def maxDocumentBytes : Nat := maxDocumentCharacters * 4
def maxDocumentsPerCommand : Nat := 10
def maxEmbeddingBatchSize : Nat := 10

/-- The codes that the chunker raises; a text here has a UTF-8 form. -/
inductive IngestionErrorCode where
  | noDocuments | tooManyDocuments | emptyDocument | documentTooLarge
  deriving DecidableEq, Repr

structure IngestionInputError where
  code : IngestionErrorCode
  fileIndex : Option Nat
  sourceName : Option Text
  deriving DecidableEq, Repr

structure ValidatedIngestionSource where
  sourceName : Text
  sourceType : String
  title : Text
  rawText : Text
  deriving DecidableEq, Repr

/-- `PreparedIngestionChunk` of a document. -/
structure PreparedDocumentChunk where
  ordinal : Nat
  section_ : Option Text
  text : Text
  contentHash : Text
  tokenCount : Nat
  deriving DecidableEq, Repr

structure PreparedIngestionSource where
  sourceName : Text
  sourceType : String
  title : Text
  content : Text
  contentHash : Text
  normalizationVersion : Text
  chunkingVersion : Text
  chunks : List PreparedDocumentChunk
  deriving DecidableEq, Repr

/-! ## Headings -/

/-- `[ \t]`. -/
def inlineBlank (c : Char) : Bool := c = ' ' || c = '\t'

/-- `re.sub(r"[ \t]+#+[ \t]*$", "", title)` on one line. -/
def withoutClosing (title : Text) : Text :=
  let body := title.rdropWhile inlineBlank
  let before := body.rdropWhile (· = '#')
  if before.length < body.length ∧ before.getLast?.any inlineBlank then
    before.rdropWhile inlineBlank
  else title

/-- `_heading_title`: no part of the pattern reads the end of a line. -/
def headingTitle (line : Text) : Option Text :=
  let indented := line.dropWhile (· = ' ')
  let hashes := indented.takeWhile (· = '#')
  let rest := indented.dropWhile (· = '#')
  if '\n' ∈ line ∨ 3 < (line.takeWhile (· = ' ')).length ∨ hashes.length = 0 ∨
      6 < hashes.length ∨ rest.head?.any (fun c => !inlineBlank c) then none
  else
    let title := stripText ((rest.dropWhile inlineBlank).rdropWhile inlineBlank)
    some (stripText (withoutClosing title))

/-- `line.removesuffix("\n")`. -/
def withoutNewline (line : Text) : Text := if line.getLast? = some '\n' then line.dropLast else line

/-- `if accumulated and "".join(accumulated).strip()`. -/
def flushSection (section_ : Option Text) (accumulated : List Text) : List (Option Text × Text) :=
  if accumulated ≠ [] ∧ stripText accumulated.flatten ≠ [] then [(section_, accumulated.flatten)]
  else []

/-- The loop of `_markdown_sections`. -/
def markdownSectionsFrom (section_ : Option Text) (accumulated : List Text) :
    List Text → List (Option Text × Text)
  | [] => flushSection section_ accumulated
  | line :: rest =>
    match headingTitle (withoutNewline line) with
    | some heading =>
      flushSection section_ accumulated ++ markdownSectionsFrom (some heading) [line] rest
    | none => markdownSectionsFrom section_ (accumulated ++ [line]) rest

/-- `_markdown_sections`. -/
def markdownSections (content : Text) : List (Option Text × Text) :=
  markdownSectionsFrom none [] (splitlinesKeepends content)

/-! ## Paragraphs and pieces -/

/-- The rest of a match of `\n[ \t]*\n+` behind its first line break, cut off. -/
def afterBoundary (rest : Text) : Option Text :=
  let behind := rest.dropWhile inlineBlank
  if behind.head? = some '\n' then some (behind.dropWhile (· = '\n')) else none

theorem afterBoundary_length {rest behind : Text} (found : afterBoundary rest = some behind) :
    behind.length ≤ rest.length := by
  simp only [afterBoundary] at found
  split at found
  · cases found
    exact (List.dropWhile_suffix _).length_le.trans (List.dropWhile_suffix _).length_le
  · cases found

/-- `_PARAGRAPH_BOUNDARY.split`, with what has been read of the first part. -/
def splitBoundary (read : Text) (text : Text) : List Text :=
  match text with
  | [] => [read]
  | c :: rest =>
    if c = '\n' then
      match _found : afterBoundary rest with
      | some behind => read :: splitBoundary [] behind
      | none => splitBoundary (read ++ [c]) rest
    else splitBoundary (read ++ [c]) rest
termination_by text.length
decreasing_by
  · have less := afterBoundary_length _found
    simp only [List.length_cons]
    omega
  · simp
  · simp

/-- `paragraph for paragraph in _PARAGRAPH_BOUNDARY.split(text) if paragraph`. -/
def paragraphsOf (text : Text) : List Text := (splitBoundary [] text).filter (· ≠ [])

/-- One past the last character of the kind; zero if there is none. -/
def pastLast (kind : Char → Bool) (text : Text) : Nat :=
  (text.rdropWhile fun c => !kind c).length

/-- Where `_split_oversized` cuts an oversized text. -/
def splitPlace (text : Text) : Nat :=
  let prefix_ := takeUtf8 maxChunkTokens text
  if '\n' ∈ prefix_ then pastLast (· = '\n') prefix_
  else if prefix_.any isPythonSpace then pastLast isPythonSpace prefix_
  else prefix_.length

theorem pastLast_positive {kind : Char → Bool} {text : Text} (some_ : text.any kind = true) :
    0 < pastLast kind text := by
  unfold pastLast
  rw [List.length_pos_iff, ne_eq, List.rdropWhile_eq_nil_iff]
  intro all
  obtain ⟨c, member, holds⟩ := List.any_eq_true.mp some_
  have other := all c member
  rw [holds] at other
  cases other

theorem splitPlace_positive {text : Text} (shown : text ≠ []) : 0 < splitPlace text := by
  simp only [splitPlace]
  split
  next member => exact pastLast_positive (List.any_eq_true.mpr ⟨'\n', member, by simp⟩)
  split
  next blank => exact pastLast_positive blank
  · cases text with
    | nil => exact absurd rfl shown
    | cons c rest =>
      have small : c.utf8Size ≤ maxChunkTokens := c.utf8Size_le_four.trans (by decide)
      simp [takeUtf8, small]

/-- `_split_oversized`. -/
def splitOversized (remaining : Text) : List Text :=
  if _oversized : maxChunkTokens < utf8Length remaining then
    remaining.take (splitPlace remaining) :: splitOversized (remaining.drop (splitPlace remaining))
  else if remaining = [] then [] else [remaining]
termination_by remaining.length
decreasing_by
  have shown : remaining ≠ [] := by
    rintro rfl
    simp [utf8Length] at _oversized
  have place := splitPlace_positive shown
  have positive := List.length_pos_iff.mpr shown
  simp only [List.length_drop]
  omega

/-! ## Chunks -/

/-- The pieces of a section, each with the separator that joins it to what is before it. -/
def sectionPieces (text : Text) : List (Text × Text) :=
  (paragraphsOf text).zipIdx.flatMap fun (paragraph, paragraphIndex) =>
    (splitOversized paragraph).zipIdx.map fun (piece, pieceIndex) =>
      (if 0 < paragraphIndex ∧ pieceIndex = 0 then "\n\n".toList else [], piece)

/-- `if current: chunks.append(...)`. -/
def emittedChunk (current : Text) : List Text := if current ≠ [] then [current] else []

/-- `candidate`. -/
def joinPiece (current separator piece : Text) : Text :=
  if current ≠ [] then current ++ separator ++ piece else piece

/-- The loops of `_chunk_section` over the pieces. -/
def packPieces (current : Text) : List (Text × Text) → List Text
  | [] => emittedChunk current
  | (separator, piece) :: rest =>
    if utf8Length (joinPiece current separator piece) ≤ maxChunkTokens then
      packPieces (joinPiece current separator piece) rest
    else emittedChunk current ++ packPieces piece rest

/-- `_chunk_section`. -/
def chunkSection (section_ : Option Text) (text : Text) : List (Option Text × Text) :=
  (packPieces [] (sectionPieces text)).map fun chunk => (section_, chunk)

variable (sha256 : Text → Text)

/-- `_chunk_content`. -/
def chunkContent (content : Text) (sourceType : String) : List PreparedDocumentChunk :=
  let structural := if sourceType = "markdown" then markdownSections content else [(none, content)]
  (structural.flatMap fun (section_, text) => chunkSection section_ text).zipIdx.map
    fun ((section_, text), ordinal) =>
      { ordinal := ordinal, section_ := section_, text := text, contentHash := sha256 text,
        tokenCount := utf8Length text }

variable (isPrintable : Char → Bool) (nfc : Text → Text)

/-- `_safe_source_name`. -/
def safeSourceName (sourceName : Text) : Option Text :=
  let safe := (sourceName.map fun c => if isPrintable c then c else '?').take 255
  if safe = [] then none else some safe

/-- `_validate_and_normalize_source`. -/
def validateAndNormalizeSource (source : ValidatedIngestionSource) (fileIndex : Nat) :
    Except IngestionInputError Text :=
  let failure := fun code =>
    Except.error ⟨code, some fileIndex, safeSourceName isPrintable source.sourceName⟩
  if maxDocumentCharacters < source.rawText.length then failure .documentTooLarge
  else if maxDocumentBytes < utf8Length source.rawText then failure .documentTooLarge
  else
    let content := normalizeDocumentContent nfc source.rawText
    if stripText content = [] then failure .emptyDocument else .ok content

/-- `normalize_and_chunk_batch` of one source. -/
def prepareSource (source : ValidatedIngestionSource) (fileIndex : Nat) :
    Except IngestionInputError PreparedIngestionSource := do
  let content ← validateAndNormalizeSource isPrintable nfc source fileIndex
  pure { sourceName := source.sourceName, sourceType := source.sourceType, title := source.title,
         content := content, contentHash := sha256 content,
         normalizationVersion := "nfc-lf-v1".toList,
         chunkingVersion := "heading-paragraph-utf8-budget-800-v1".toList,
         chunks := chunkContent sha256 content source.sourceType }

/-- `normalize_and_chunk_batch`. -/
def normalizeAndChunkBatch (sources : List ValidatedIngestionSource) :
    Except IngestionInputError (List PreparedIngestionSource) :=
  if sources = [] then .error ⟨.noDocuments, none, none⟩
  else if maxDocumentsPerCommand < sources.length then .error ⟨.tooManyDocuments, none, none⟩
  else (sources.zipIdx 1).mapM fun (source, fileIndex) =>
    prepareSource sha256 isPrintable nfc source fileIndex

/-- `DocumentIngestionInvariantError`. -/
structure DocumentIngestionInvariantError where
  deriving DecidableEq, Repr

/-- `texts[index:index + size]` for every multiple of the size. -/
def batchesOf (size : Nat) (texts : List Text) : List (List Text) :=
  (List.range ((texts.length + size - 1) / size)).map fun index =>
    (texts.drop (index * size)).take size

/-- `partition_embedding_texts`. -/
def partitionEmbeddingTexts (texts : List Text) :
    Except DocumentIngestionInvariantError (List (List Text)) :=
  if texts = [] ∨ texts.any (fun text => decide (stripText text = [])) then .error ⟨⟩
  else .ok (batchesOf maxEmbeddingBatchSize texts)

example : (chunkContent id "# One\n\nfirst\n\n\nsecond\n## Two ##\nthird\n".toList "markdown").map
    (fun chunk => (chunk.ordinal, chunk.section_, chunk.text)) =
    [(0, some "One".toList, "# One\n\nfirst\n\nsecond\n".toList),
      (1, some "Two".toList, "## Two ##\nthird\n".toList)] := by decide +kernel

end Pathfinder
