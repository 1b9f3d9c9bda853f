import Pathfinder.Library.Conditional
import Pathfinder.Library.Trim
import Pathfinder.Retrieval.Chunking

/-!
# What the chunker keeps

Cutting and joining only ever touch whitespace: the visible characters of a document go
through lines, sections, paragraphs, pieces and chunks in their order. A piece is not empty
and fits the budget, and so does what is joined from pieces.
-/
namespace Pathfinder
open Conditional

/-- The characters that are not whitespace. -/
def visible (text : Text) : Text := text.filter fun c => !isPythonSpace c

section Visible
variable {first second text : Text}

@[simp] theorem visible_append : visible (first ++ second) = visible first ++ visible second :=
  List.filter_append ..

theorem visible_nil : visible [] = [] := rfl

theorem visible_blank (blank : ∀ c ∈ text, isPythonSpace c = true) : visible text = [] := by
  rw [visible, List.filter_eq_nil_iff]
  intro c member
  simp [blank c member]

theorem visible_flatten (parts : List Text) : visible parts.flatten = parts.flatMap visible := by
  induction parts with
  | nil => rfl
  | cons part rest ih => rw [List.flatten_cons, visible_append, ih, List.flatMap_cons]

theorem visible_eq_nil : visible text = [] ↔ stripText text = [] := by
  have trimmed : stripText text = [] ↔ ∀ c ∈ text, isPythonSpace c = true := Trimming.trim_eq_nil
  rw [visible, List.filter_eq_nil_iff, trimmed]
  simp

theorem inlineBlank_space {c : Char} (blank : inlineBlank c = true) : isPythonSpace c = true := by
  simp only [inlineBlank, Bool.or_eq_true, decide_eq_true_eq] at blank
  rcases blank with rfl | rfl
  · decide
  · decide

theorem newline_space : isPythonSpace '\n' = true := by decide

end Visible

/-! ## Sections -/

theorem flushSection_visible (section_ : Option Text) (accumulated : List Text) :
    (flushSection section_ accumulated).flatMap (fun part => visible part.2) =
      visible accumulated.flatten := by
  unfold flushSection
  split
  · simp
  next none =>
    rw [List.flatMap_nil]
    by_cases empty : accumulated = []
    · rw [empty]
      rfl
    · have blank : stripText accumulated.flatten = [] := by
        by_contra shown
        exact none ⟨empty, shown⟩
      exact (visible_eq_nil.mpr blank).symm

theorem markdownSectionsFrom_visible (section_ : Option Text) (accumulated lines : List Text) :
    (markdownSectionsFrom section_ accumulated lines).flatMap (fun part => visible part.2) =
      visible accumulated.flatten ++ visible lines.flatten := by
  fun_induction markdownSectionsFrom section_ accumulated lines with
  | case1 => simp [flushSection_visible, visible_nil]
  | case2 section_ accumulated line rest heading titled ih =>
    rw [List.flatMap_append, flushSection_visible, ih]
    simp
  | case3 section_ accumulated line rest plain ih =>
    rw [ih]
    simp

theorem markdownSections_visible (content : Text) :
    (markdownSections content).flatMap (fun part => visible part.2) = visible content := by
  rw [markdownSections, markdownSectionsFrom_visible, splitlinesKeepends_flatten]
  rfl

/-! ## Paragraphs -/

theorem afterBoundary_visible {rest behind : Text} (found : afterBoundary rest = some behind) :
    visible behind = visible rest := by
  have skip (kind : Char → Bool) (spaces : ∀ c, kind c = true → isPythonSpace c = true)
      (text : Text) : visible (text.dropWhile kind) = visible text := by
    conv_rhs => rw [← List.takeWhile_append_dropWhile (p := kind) (l := text)]
    rw [visible_append, visible_blank fun c member => spaces c (List.mem_takeWhile_imp member),
      List.nil_append]
  simp only [afterBoundary] at found
  split at found
  · cases found
    rw [skip _ (fun c newline => by
      obtain rfl : c = '\n' := by simpa using newline
      exact newline_space), skip _ fun c => inlineBlank_space]
  · cases found

theorem splitBoundary_visible (read text : Text) :
    (splitBoundary read text).flatMap visible = visible read ++ visible text := by
  have newline (rest : Text) : visible ('\n' :: rest) = visible rest := by
    simp [visible, newline_space]
  fun_induction splitBoundary read text with
  | case1 read => simp [visible_nil]
  | case2 read rest behind found ih =>
    rw [List.flatMap_cons, ih, afterBoundary_visible found, newline]
    rfl
  | case3 read rest none ih =>
    rw [ih, visible_append, List.append_assoc, newline]
    rfl
  | case4 read c rest other ih =>
    rw [ih, visible_append, List.append_assoc, ← visible_append]
    rfl

theorem paragraphsOf_visible (text : Text) :
    (paragraphsOf text).flatMap visible = visible text := by
  have nonempty (parts : List Text) :
      (parts.filter (· ≠ [])).flatMap visible = parts.flatMap visible := by
    induction parts with
    | nil => rfl
    | cons part rest ih =>
      rw [List.filter_cons]
      split
      · rw [List.flatMap_cons, List.flatMap_cons, ih]
      next empty =>
        obtain rfl : part = [] := by simpa using empty
        rw [ih, List.flatMap_cons, visible_nil, List.nil_append]
  rw [paragraphsOf, nonempty, splitBoundary_visible]
  rfl

/-! ## Pieces -/

theorem splitOversized_flatten (text : Text) : (splitOversized text).flatten = text := by
  fun_induction splitOversized text with
  | case1 remaining oversized ih => rw [List.flatten_cons, ih, List.take_append_drop]
  | case2 => rfl
  | case3 remaining small shown => simp

theorem pastLast_le (kind : Char → Bool) (text : Text) : pastLast kind text ≤ text.length :=
  (List.rdropWhile_prefix _ _).length_le

theorem splitPlace_le (text : Text) : splitPlace text ≤ (takeUtf8 maxChunkTokens text).length := by
  simp only [splitPlace]
  split
  · exact pastLast_le _ _
  split
  · exact pastLast_le _ _
  · exact Nat.le_refl _

/-- A piece is not empty and fits the budget. -/
theorem splitOversized_piece {text piece : Text} (member : piece ∈ splitOversized text) :
    piece ≠ [] ∧ utf8Length piece ≤ maxChunkTokens := by
  fun_induction splitOversized text with
  | case1 remaining oversized ih =>
    rcases List.mem_cons.mp member with rfl | later
    · have shown : remaining ≠ [] := by
        rintro rfl
        simp [utf8Length] at oversized
      have positive := splitPlace_positive shown
      have begins := takeUtf8_begins maxChunkTokens remaining
      have within : remaining.take (splitPlace remaining) <:+: takeUtf8 maxChunkTokens remaining := by
        rw [List.prefix_iff_eq_take] at begins
        have cut : (takeUtf8 maxChunkTokens remaining).take (splitPlace remaining) =
            remaining.take (splitPlace remaining) := by
          rw [begins, List.take_take, Nat.min_eq_left]
          exact splitPlace_le remaining
        rw [← cut]
        exact (List.take_prefix _ _).isInfix
      refine ⟨?_, (utf8Length_mono within).trans (takeUtf8_length _ _)⟩
      rw [ne_eq, List.take_eq_nil_iff]
      rintro (none | empty)
      · omega
      · exact shown empty
    · exact ih later
  | case2 => cases member
  | case3 remaining small shown =>
    obtain rfl := List.mem_singleton.mp member
    exact ⟨shown, Nat.le_of_not_lt small⟩

/-- The pieces of a section, without their separators. -/
theorem sectionPieces_pieces (text : Text) :
    (sectionPieces text).map Prod.snd = (paragraphsOf text).flatMap splitOversized := by
  have bare (entry : Text × Nat) : ((splitOversized entry.1).zipIdx.map fun part =>
      (if 0 < entry.2 ∧ part.2 = 0 then "\n\n".toList else [], part.1)).map Prod.snd =
        splitOversized entry.1 := by
    rw [List.map_map]
    exact List.zipIdx_map_fst 0 _
  have whole := List.flatMap_congr fun entry (_ : entry ∈ (paragraphsOf text).zipIdx) => bare entry
  rw [sectionPieces, List.map_flatMap, whole]
  conv_rhs => rw [← List.zipIdx_map_fst 0 (paragraphsOf text), List.flatMap_map]

/-- A piece is not empty and fits the budget; what stands in front of it is whitespace. -/
structure SoundPiece (entry : Text × Text) : Prop where
  separator : visible entry.1 = []
  nonempty : entry.2 ≠ []
  small : utf8Length entry.2 ≤ maxChunkTokens

theorem sectionPieces_sound {text : Text} {entry : Text × Text}
    (member : entry ∈ sectionPieces text) : SoundPiece entry := by
  obtain ⟨⟨paragraph, index⟩, -, inside⟩ := List.mem_flatMap.mp member
  obtain ⟨⟨piece, place⟩, numbered, rfl⟩ := List.mem_map.mp inside
  obtain ⟨nonempty, small⟩ := splitOversized_piece (List.fst_mem_of_mem_zipIdx numbered)
  refine ⟨?_, nonempty, small⟩
  dsimp only
  split
  · decide
  · rfl

theorem sectionPieces_visible (text : Text) :
    (sectionPieces text).flatMap (fun entry => visible entry.2) = visible text := by
  have pieces := congrArg (fun pieces => pieces.flatMap visible) (sectionPieces_pieces text)
  have each (paragraph : Text) : (splitOversized paragraph).flatMap visible = visible paragraph := by
    rw [← visible_flatten, splitOversized_flatten]
  simp only [List.flatMap_map, List.flatMap_assoc, each, paragraphsOf_visible] at pieces
  exact pieces

/-! ## Chunks -/

theorem emittedChunk_visible (current : Text) :
    (emittedChunk current).flatMap visible = visible current := by
  unfold emittedChunk
  split
  · simp
  next empty =>
    obtain rfl : current = [] := by simpa using empty
    rfl

theorem mem_emittedChunk {current chunk : Text} :
    chunk ∈ emittedChunk current ↔ chunk = current ∧ current ≠ [] := by
  unfold emittedChunk
  split
  next shown => simp [shown]
  next empty => simp [Decidable.of_not_not empty]

theorem joinPiece_visible {current separator piece : Text} (blank : visible separator = []) :
    visible (joinPiece current separator piece) = visible current ++ visible piece := by
  unfold joinPiece
  split
  · rw [visible_append, visible_append, blank, List.append_nil]
  next empty =>
    obtain rfl : current = [] := by simpa using empty
    rfl

theorem packPieces_visible {current : Text} {pieces : List (Text × Text)}
    (sound : ∀ entry ∈ pieces, SoundPiece entry) :
    (packPieces current pieces).flatMap visible =
      visible current ++ pieces.flatMap fun entry => visible entry.2 := by
  induction pieces generalizing current with
  | nil => rw [packPieces, emittedChunk_visible, List.flatMap_nil, List.append_nil]
  | cons entry rest ih =>
    obtain ⟨separator, piece⟩ := entry
    have later := fun other member => sound other (List.mem_cons_of_mem _ member)
    have blank : visible separator = [] := (sound _ List.mem_cons_self).separator
    rw [packPieces, List.flatMap_cons]
    split
    · rw [ih later, joinPiece_visible blank, List.append_assoc]
    · rw [List.flatMap_append, ih later, emittedChunk_visible]

/-- A chunk is not empty and fits the budget. -/
theorem packPieces_chunk {current chunk : Text} {pieces : List (Text × Text)}
    (sound : ∀ entry ∈ pieces, SoundPiece entry) (small : utf8Length current ≤ maxChunkTokens)
    (member : chunk ∈ packPieces current pieces) :
    chunk ≠ [] ∧ utf8Length chunk ≤ maxChunkTokens := by
  induction pieces generalizing current with
  | nil =>
    obtain ⟨rfl, shown⟩ := mem_emittedChunk.mp member
    exact ⟨shown, small⟩
  | cons entry rest ih =>
    obtain ⟨separator, piece⟩ := entry
    have later := fun other member => sound other (List.mem_cons_of_mem _ member)
    have fits : utf8Length piece ≤ maxChunkTokens := (sound _ List.mem_cons_self).small
    rw [packPieces] at member
    split at member
    next room => exact ih later room member
    · rcases List.mem_append.mp member with early | late
      · obtain ⟨rfl, shown⟩ := mem_emittedChunk.mp early
        exact ⟨shown, small⟩
      · exact ih later fits late

theorem chunkSection_visible (section_ : Option Text) (text : Text) :
    (chunkSection section_ text).flatMap (fun chunk => visible chunk.2) = visible text := by
  rw [chunkSection, List.flatMap_map, packPieces_visible fun _ => sectionPieces_sound,
    sectionPieces_visible]
  rfl

theorem chunkSection_chunk {section_ : Option Text} {text : Text} {chunk : Option Text × Text}
    (member : chunk ∈ chunkSection section_ text) :
    chunk.1 = section_ ∧ chunk.2 ≠ [] ∧ utf8Length chunk.2 ≤ maxChunkTokens := by
  obtain ⟨piece, inside, rfl⟩ := List.mem_map.mp member
  exact ⟨rfl, packPieces_chunk (fun _ => sectionPieces_sound) (Nat.zero_le _) inside⟩

/-! ## Documents -/

/-- The sections of a document. -/
def structuralSections (content : Text) (sourceType : String) : List (Option Text × Text) :=
  if sourceType = "markdown" then markdownSections content else [(none, content)]

theorem structuralSections_visible (content : Text) (sourceType : String) :
    (structuralSections content sourceType).flatMap (fun part => visible part.2) =
      visible content := by
  unfold structuralSections
  split
  · exact markdownSections_visible content
  · simp

section Documents
variable {sha256 : Text → Text} {isPrintable : Char → Bool} {nfc : Text → Text}

/-- A chunk comes from one of the sections. -/
theorem mem_chunkContent {content : Text} {sourceType : String} {chunk : PreparedDocumentChunk}
    (member : chunk ∈ chunkContent sha256 content sourceType) :
    chunk.contentHash = sha256 chunk.text ∧ chunk.tokenCount = utf8Length chunk.text ∧
      ∃ part ∈ structuralSections content sourceType, chunk.section_ = part.1 ∧
        chunk.text ∈ packPieces [] (sectionPieces part.2) := by
  obtain ⟨⟨⟨section_, text⟩, ordinal⟩, numbered, rfl⟩ := List.mem_map.mp member
  obtain ⟨part, inside, cut⟩ := List.mem_flatMap.mp (List.fst_mem_of_mem_zipIdx numbered)
  obtain ⟨piece, packed, same⟩ := List.mem_map.mp cut
  cases same
  exact ⟨rfl, rfl, part, inside, rfl, packed⟩

theorem chunkContent_texts (content : Text) (sourceType : String) :
    (chunkContent sha256 content sourceType).map PreparedDocumentChunk.text =
      (structuralSections content sourceType).flatMap fun part =>
        packPieces [] (sectionPieces part.2) := by
  have texts (chunks : List (Option Text × Text)) :
      (chunks.zipIdx.map fun entry =>
        (⟨entry.2, entry.1.1, entry.1.2, sha256 entry.1.2, utf8Length entry.1.2⟩ :
          PreparedDocumentChunk)).map
          PreparedDocumentChunk.text = chunks.map Prod.snd := by
    rw [List.map_map]
    conv_rhs => rw [← List.zipIdx_map_fst 0 chunks, List.map_map]
    rfl
  have cut (part : Option Text × Text) : (chunkSection part.1 part.2).map Prod.snd =
      packPieces [] (sectionPieces part.2) := by
    rw [chunkSection, List.map_map]
    exact List.map_id _
  have whole := texts ((structuralSections content sourceType).flatMap fun part =>
    chunkSection part.1 part.2)
  simp only [List.map_flatMap, cut] at whole
  exact whole

theorem chunkContent_ordinals (content : Text) (sourceType : String) :
    (chunkContent sha256 content sourceType).map PreparedDocumentChunk.ordinal =
      List.range (chunkContent sha256 content sourceType).length := by
  simp only [chunkContent, List.map_map, List.length_map, List.length_zipIdx]
  rw [List.range_eq_range']
  exact List.zipIdx_map_snd 0 _

/-- What the chunker accepts of a source. -/
def Acceptable (nfc : Text → Text) (source : ValidatedIngestionSource) : Prop :=
  source.rawText.length ≤ maxDocumentCharacters ∧ utf8Length source.rawText ≤ maxDocumentBytes ∧
    stripText (normalizeDocumentContent nfc source.rawText) ≠ []

/-- What it prepares. -/
def preparedOf (sha256 nfc : Text → Text) (source : ValidatedIngestionSource) :
    PreparedIngestionSource :=
  let content := normalizeDocumentContent nfc source.rawText
  { sourceName := source.sourceName, sourceType := source.sourceType, title := source.title,
    content := content, contentHash := sha256 content,
    normalizationVersion := "nfc-lf-v1".toList,
    chunkingVersion := "heading-paragraph-utf8-budget-800-v1".toList,
    chunks := chunkContent sha256 content source.sourceType }

theorem prepareSource_yields (source : ValidatedIngestionSource) (fileIndex : Nat) :
    Yields (prepareSource sha256 isPrintable nfc source fileIndex) (Acceptable nfc source)
      (preparedOf sha256 nfc source) := by
  have content : Yields (validateAndNormalizeSource isPrintable nfc source fileIndex)
      (Acceptable nfc source) (normalizeDocumentContent nfc source.rawText) := by
    refine Yields.congr (Yields.guarded (Yields.guarded (Yields.guarded (Yields.pure _)))) ?_
    simp [Acceptable]
  exact Yields.congr (Yields.bind content (Yields.pure _)) (by simp)

theorem normalizeAndChunkBatch_yields (sources : List ValidatedIngestionSource) :
    Yields (normalizeAndChunkBatch sha256 isPrintable nfc sources)
      (sources ≠ [] ∧ sources.length ≤ maxDocumentsPerCommand ∧
        ∀ source ∈ sources, Acceptable nfc source)
      (sources.map (preparedOf sha256 nfc)) := by
  refine Yields.value_eq (Yields.congr (Yields.guarded (Yields.guarded
    (Yields.mapM fun entry _ => prepareSource_yields entry.1 entry.2))) ?_) ?_
  · have entries : (∀ entry ∈ sources.zipIdx 1, Acceptable nfc entry.1) ↔
        ∀ source ∈ sources, Acceptable nfc source := by
      conv_rhs => rw [← List.zipIdx_map_fst 1 sources]
      exact List.forall_mem_map.symm
    rw [entries, Nat.not_lt]
  · conv_rhs => rw [← List.zipIdx_map_fst 1 sources, List.map_map]
    rfl

end Documents
end Pathfinder
