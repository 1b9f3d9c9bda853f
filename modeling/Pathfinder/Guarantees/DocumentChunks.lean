import Pathfinder.Material.Numbering
import Pathfinder.Retrieval.Pieces

/-!
# Chunks keep the text

Whatever the chunker cuts a document into, and whatever a material file is cut into by its
lines, the visible characters are those of the normalized content in their order, and every
chunk fits the budget.
-/
namespace Pathfinder
open Conditional

/-- Chunks that hold a document's text, numbered from zero. -/
structure DocumentChunked (content : Text) (chunks : List PreparedDocumentChunk) : Prop where
  ordinals : chunks.map PreparedDocumentChunk.ordinal = List.range chunks.length
  bounds : ∀ chunk ∈ chunks, 1 ≤ utf8Length chunk.text ∧ utf8Length chunk.text ≤ 800
  conserved : chunks.flatMap (fun chunk => visible chunk.text) = visible content

theorem utf8Length_positive {text : Text} (shown : text ≠ []) : 1 ≤ utf8Length text :=
  Nat.le_trans (List.length_pos_iff.mpr shown) (length_le_utf8Length text)

theorem chunkContent_chunked (sha256 : Text → Text) (content : Text) (sourceType : String) :
    DocumentChunked content (chunkContent sha256 content sourceType) where
  ordinals := chunkContent_ordinals content sourceType
  bounds chunk member := by
    obtain ⟨-, -, part, -, -, packed⟩ := mem_chunkContent member
    obtain ⟨shown, small⟩ :=
      packPieces_chunk (fun _ => sectionPieces_sound) (Nat.zero_le _) packed
    exact ⟨utf8Length_positive shown, small⟩
  conserved := by
    have texts := congrArg (fun texts => texts.flatMap visible)
      (@chunkContent_texts sha256 content sourceType)
    have cut (part : Option Text × Text) :
        (packPieces [] (sectionPieces part.2)).flatMap visible = visible part.2 := by
      rw [packPieces_visible fun _ => sectionPieces_sound, sectionPieces_visible]
      rfl
    simp only [List.flatMap_map, List.flatMap_assoc, cut, structuralSections_visible] at texts
    exact texts

/-! ## Material files -/

theorem emittedPart_visible (part : Text) :
    (emittedPart part).flatMap visible = visible part := by
  unfold emittedPart
  split
  next blank => rw [visible_eq_nil.mpr blank, List.flatMap_nil]
  · rw [List.flatMap_singleton]

theorem linePieces_visible (part rest : Text) :
    (linePieces part rest).flatMap visible = visible part ++ visible rest := by
  induction rest generalizing part with
  | nil => rw [linePieces, emittedPart_visible, visible_nil, List.append_nil]
  | cons c rest ih =>
    rw [linePieces]
    split
    · rw [List.flatMap_append, emittedPart_visible, ih, ← visible_append]
      rfl
    · rw [ih, visible_append, List.append_assoc, ← visible_append]
      rfl

theorem numberedPieces_visible (content : Text) :
    (numberedPieces content).flatMap (fun entry => visible entry.1) = visible content := by
  have line (entry : Text × Nat) : ((linePieces [] entry.1).map fun piece =>
      (piece, entry.2)).flatMap (fun entry => visible entry.1) = visible entry.1 := by
    rw [List.flatMap_map, linePieces_visible]
    rfl
  have lines := splitlinesKeepends_flatten content
  simp only [numberedPieces, List.flatMap_assoc, line]
  conv_rhs => rw [← lines, visible_flatten, ← List.zipIdx_map_fst 1 (splitlinesKeepends content),
    List.flatMap_map]

theorem numberedPieces_sorted (content : Text) :
    (numberedPieces content).Pairwise fun first second => first.2 ≤ second.2 := by
  have numbers : ((splitlinesKeepends content).zipIdx 1).Pairwise fun first second =>
      first.2 < second.2 := by
    rw [← List.pairwise_map (R := (· < ·)) (f := Prod.snd), List.zipIdx_map_snd]
    exact List.pairwise_lt_range'
  refine List.pairwise_flatMap.mpr ⟨fun entry _ => ?_, numbers.imp ?_⟩
  · rw [List.pairwise_map]
    exact List.pairwise_of_forall fun _ _ => Nat.le_refl _
  · intro first second less piece member piece' member'
    obtain ⟨-, -, rfl⟩ := List.mem_map.mp member
    obtain ⟨-, -, rfl⟩ := List.mem_map.mp member'
    exact Nat.le_of_lt less

/-- A piece stands in the line with its number. -/
theorem mem_numberedPieces {content piece : Text} {number : Nat}
    (member : (piece, number) ∈ numberedPieces content) :
    (∃ line, 1 ≤ number ∧ (splitlinesKeepends content)[number - 1]? = some line ∧
        piece <:+: line) ∧
      stripText piece ≠ [] ∧ utf8Length piece ≤ 800 := by
  obtain ⟨⟨line, index⟩, numbered, cut⟩ := List.mem_flatMap.mp member
  obtain ⟨piece, inside, same⟩ := List.mem_map.mp cut
  cases same
  obtain ⟨positive, located⟩ := List.mem_zipIdx_iff_le_and_getElem?_sub.mp numbered
  obtain ⟨within, shown, small⟩ := linePieces_piece (Nat.zero_le _) inside
  exact ⟨⟨line, positive, located, within⟩, shown, small⟩

/-- Pieces that hold a file's text, numbered from zero, each inside one line. -/
structure MaterialChunked (content : Text) (chunks : List PreparedIngestionChunk) : Prop where
  ordinals : chunks.map PreparedIngestionChunk.ordinal = List.range chunks.length
  bounds : ∀ chunk ∈ chunks, stripText chunk.text ≠ [] ∧ 1 ≤ utf8Length chunk.text ∧
    utf8Length chunk.text ≤ 800
  lines : ∀ chunk ∈ chunks, chunk.endLine = chunk.startLine ∧ 1 ≤ chunk.startLine ∧
    ∃ line, (splitlinesKeepends content)[chunk.startLine - 1]? = some line ∧ chunk.text <:+: line
  sorted : chunks.Pairwise fun first second => first.startLine ≤ second.startLine
  conserved : chunks.flatMap (fun chunk => visible chunk.text) = visible content

theorem prepareMaterialFile_chunked {nfc : Text → Text} {item : MaterialFile}
    {chunks : List PreparedIngestionChunk} (prepared : prepareMaterialFile nfc item = .ok chunks) :
    ∃ text, decodeUtf8 item.content = some text ∧
      MaterialChunked (normalizeDocumentContent nfc text) chunks := by
  unfold prepareMaterialFile at prepared
  split at prepared
  · cases prepared
  next text decoded =>
  refine ⟨text, decoded, ?_⟩
  dsimp only at prepared
  split at prepared
  · cases prepared
  split at prepared
  · cases prepared
  cases prepared
  generalize normalizeDocumentContent nfc text = content
  have piece {chunk : PreparedIngestionChunk} (member : chunk ∈ (numberedPieces content).zipIdx.map
      fun entry => (⟨entry.2, entry.1.1, entry.1.2, entry.1.2⟩ : PreparedIngestionChunk)) :
      (chunk.text, chunk.startLine) ∈ numberedPieces content ∧ chunk.endLine = chunk.startLine := by
    obtain ⟨⟨entry, ordinal⟩, numbered, rfl⟩ := List.mem_map.mp member
    exact ⟨List.fst_mem_of_mem_zipIdx numbered, rfl⟩
  constructor
  · rw [List.map_map, List.length_map, List.length_zipIdx, List.range_eq_range']
    exact List.zipIdx_map_snd 0 _
  · intro chunk member
    obtain ⟨-, shown, small⟩ := mem_numberedPieces (piece member).1
    have nonempty : chunk.text ≠ [] := fun empty => shown (by rw [empty]; rfl)
    exact ⟨shown, utf8Length_positive nonempty, small⟩
  · intro chunk member
    obtain ⟨inside, same⟩ := piece member
    obtain ⟨⟨line, positive, located, within⟩, -⟩ := mem_numberedPieces inside
    exact ⟨same, positive, line, located, within⟩
  · have numbers := numberedPieces_sorted content
    rw [← List.zipIdx_map_fst 0 (numberedPieces content), List.pairwise_map] at numbers
    exact List.pairwise_map.mpr numbers
  · have texts := numberedPieces_visible content
    rw [← List.zipIdx_map_fst 0 (numberedPieces content), List.flatMap_map] at texts
    rw [List.flatMap_map]
    exact texts

/-! ## Both chunkers -/

/-- Every batch within the limits is prepared, and what either chunker prepares holds the
normalized content in chunks of 1 to 800 bytes. -/
theorem chunks_conserve (sha256 : Text → Text) (isPrintable : Char → Bool) (nfc : Text → Text) :
    (∀ sources, (∃ prepared,
        normalizeAndChunkBatch sha256 isPrintable nfc sources = .ok prepared) ↔
      sources ≠ [] ∧ sources.length ≤ maxDocumentsPerCommand ∧
        ∀ source ∈ sources, Acceptable nfc source) ∧
    (∀ sources prepared,
      normalizeAndChunkBatch sha256 isPrintable nfc sources = .ok prepared →
        prepared.map PreparedIngestionSource.content =
            sources.map (fun source => normalizeDocumentContent nfc source.rawText) ∧
          ∀ source ∈ prepared, DocumentChunked source.content source.chunks) ∧
    (∀ item chunks, prepareMaterialFile nfc item = .ok chunks →
      ∃ text, decodeUtf8 item.content = some text ∧
        MaterialChunked (normalizeDocumentContent nfc text) chunks) := by
  refine ⟨fun sources => (normalizeAndChunkBatch_yields sources).succeeds_iff,
    fun sources prepared accepted => ?_, fun item chunks => prepareMaterialFile_chunked⟩
  obtain ⟨-, rfl⟩ := ((normalizeAndChunkBatch_yields sources).iff_ok prepared).mp accepted
  refine ⟨by rw [List.map_map]; rfl, ?_⟩
  intro source member
  obtain ⟨raw, -, rfl⟩ := List.mem_map.mp member
  exact chunkContent_chunked sha256 _ _

def notesSource : ValidatedIngestionSource :=
  ⟨"notes.md".toList, "markdown", "notes".toList, "# One\r\n\r\nfirst\n\n\nsecond\n".toList⟩

/-- The digests of the sample texts, and some digest of any other. -/
def sampleSha256 (text : Text) : Text :=
  if text = "# One\n\nfirst\n\n\nsecond\n".toList then
    "26e76e35580e4be50c702e04a54a10f142a005e28b48308d22fc09f27eabb2b3".toList
  else if text = "# One\n\nfirst\n\nsecond\n".toList then
    "5f8758ddc274df8127964ae712d6d16dd5aa4f399a1b41d89bff8e90b9c1c1cb".toList
  else if text = "#\n\ntext\n".toList then
    "ff7a8006c11c116f06ce06d1682ef4350fe6f26b79d3befcee145da4e7bbdb79".toList
  else if text = List.replicate 266 'あ' ++ "\n\n\u3000".toList then
    "15c0fe1d70874ec965d09064862ad5e6ea927ac9a6fa0181ca1117f97e56b6ae".toList
  else if text = List.replicate 266 'あ' then
    "3f8fe177e772bb64a2114ba7992bb8fe830870c13c056f4335cde378d631e471".toList
  else if text = "\u3000".toList then
    "4d76d53623bce61648f75eea1d3190e13bad4be01ffe064659b445e443fb1db4".toList
  else List.replicate 64 '0'

/-- A document and a file, prepared and conserved. -/
theorem notesSource_chunked :
    (∃ prepared, normalizeAndChunkBatch sampleSha256 (fun _ => true) id [notesSource] = .ok prepared ∧
      ∀ source ∈ prepared, DocumentChunked source.content source.chunks) ∧
    ∃ chunks, prepareMaterialFile id ⟨"a.txt", "one\ntwo\n".toByteArray, 2⟩ = .ok chunks ∧
      MaterialChunked (normalizeDocumentContent id "one\ntwo\n".toList) chunks := by
  obtain ⟨accepts, documents, materials⟩ := chunks_conserve sampleSha256 (fun _ => true) id
  obtain ⟨prepared, accepted⟩ := (accepts [notesSource]).mpr
    ⟨by simp, by decide, by simpa [Acceptable] using by decide +kernel⟩
  refine ⟨⟨prepared, accepted, (documents _ _ accepted).2⟩, ?_⟩
  have decoded : decodeUtf8 "one\ntwo\n".toByteArray = some "one\ntwo\n".toList :=
    decodeUtf8_toByteArray _
  have written : ∃ chunks, prepareMaterialFile id ⟨"a.txt", "one\ntwo\n".toByteArray, 2⟩ =
      .ok chunks := by
    refine ⟨[⟨0, "one\n".toList, 1, 1⟩, ⟨1, "two\n".toList, 2, 2⟩], ?_⟩
    simp only [prepareMaterialFile, decoded]
    decide +kernel
  obtain ⟨chunks, prepared⟩ := written
  obtain ⟨text, same, chunked⟩ := materials _ _ prepared
  rw [decoded] at same
  cases same
  exact ⟨chunks, prepared, chunked⟩

end Pathfinder
