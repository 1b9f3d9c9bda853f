import Pathfinder.Guarantees.DocumentChunks

/-!
# Chunks that can be embedded

The packer closes a chunk where the next piece does not fit, whatever the chunk holds. So a
document's chunks are all visible exactly where a chunk that begins with whitespace always
has room for what comes next.
-/
namespace Pathfinder
open Conditional

/-- The text of pieces that are joined to one chunk. -/
def joined (run : List (Text × Text)) : Text :=
  run.foldl (fun current entry => joinPiece current entry.1 entry.2) []

def Fits (run : List (Text × Text)) : Prop := utf8Length (joined run) ≤ maxChunkTokens

/-- The rests of the pieces with which a chunk begins: all of them, and what is behind a run
that fits with a piece that does not. -/
inductive ChunkAt (pieces : List (Text × Text)) : List (Text × Text) → Prop
  | first : ChunkAt pieces pieces
  | next {run rest : List (Text × Text)} {entry : Text × Text}
      (here : ChunkAt pieces (run ++ entry :: rest)) (nonempty : run ≠ []) (fits : Fits run)
      (full : ¬ Fits (run ++ [entry])) : ChunkAt pieces (entry :: rest)

/-- A chunk that begins with whitespace has room for the piece behind it. -/
def RoomBehindBlanks (pieces : List (Text × Text)) : Prop :=
  ∀ run rest, ChunkAt pieces (run ++ rest) → run ≠ [] → Fits run →
    (∀ entry ∈ run, visible entry.2 = []) →
      ∃ entry later, rest = entry :: later ∧ Fits (run ++ [entry])

section Packing
variable {pieces run : List (Text × Text)}

theorem ChunkAt.suffix {rest : List (Text × Text)} (here : ChunkAt pieces rest) :
    rest <:+ pieces := by
  induction here with
  | first => exact List.suffix_rfl
  | next here nonempty fits full ih => exact (List.suffix_append _ _).trans ih

/-- Where every piece shows something, no chunk begins with whitespace. -/
theorem roomBehindBlanks_of_visible (shown : ∀ entry ∈ pieces, visible entry.2 ≠ []) :
    RoomBehindBlanks pieces := by
  intro run rest here nonempty fits blank
  obtain ⟨entry, member⟩ := List.exists_mem_of_ne_nil _ nonempty
  exact absurd (blank entry member)
    (shown entry (here.suffix.subset (List.mem_append_left _ member)))

theorem joined_snoc (run : List (Text × Text)) (entry : Text × Text) :
    joined (run ++ [entry]) = joinPiece (joined run) entry.1 entry.2 := by
  rw [joined, List.foldl_append]
  rfl

theorem joined_visible (sound : ∀ entry ∈ run, SoundPiece entry) :
    visible (joined run) = run.flatMap fun entry => visible entry.2 := by
  induction run using List.reverseRecOn with
  | nil => rfl
  | append_singleton run entry ih =>
    have before := ih fun other member => sound other (List.mem_append_left _ member)
    have last := sound entry (List.mem_append_right _ (List.mem_singleton_self _))
    rw [joined_snoc, joinPiece_visible last.separator, before, List.flatMap_append,
      List.flatMap_singleton]

theorem joined_nonempty (sound : ∀ entry ∈ run, SoundPiece entry) (nonempty : run ≠ []) :
    joined run ≠ [] := by
  obtain ⟨before, entry, rfl⟩ := List.eq_nil_or_concat run |>.resolve_left nonempty
  have last := sound entry (by simp)
  rw [List.concat_eq_append, joined_snoc, joinPiece]
  split
  · simp [last.nonempty]
  · exact last.nonempty

/-- A chunk is a run of pieces that begins where a chunk does and ends where the next piece
does not fit. -/
theorem mem_packPieces {rest : List (Text × Text)} {chunk : Text}
    (sound : ∀ entry ∈ run ++ rest, SoundPiece entry) (here : ChunkAt pieces (run ++ rest))
    (fits : Fits run) (member : chunk ∈ packPieces (joined run) rest) :
    ∃ run' rest', ChunkAt pieces (run' ++ rest') ∧ run' ≠ [] ∧ Fits run' ∧ chunk = joined run' ∧
      (∀ entry ∈ run' ++ rest', SoundPiece entry) ∧
      ∀ entry later, rest' = entry :: later → ¬ Fits (run' ++ [entry]) := by
  induction rest generalizing run with
  | nil =>
    obtain ⟨rfl, shown⟩ := mem_emittedChunk.mp member
    refine ⟨run, [], here, ?_, fits, rfl, sound, nofun⟩
    rintro rfl
    exact shown rfl
  | cons entry rest ih =>
    have regrouped : run ++ entry :: rest = run ++ [entry] ++ rest := by simp
    rw [packPieces, ← joined_snoc] at member
    split at member
    next room => exact ih (regrouped ▸ sound) (regrouped ▸ here) room member
    next full =>
      rcases List.mem_append.mp member with early | late
      · obtain ⟨rfl, shown⟩ := mem_emittedChunk.mp early
        refine ⟨run, entry :: rest, here, ?_, fits, rfl, sound, ?_⟩
        · rintro rfl
          exact shown rfl
        · intro other later same
          cases same
          exact full
      · have later : ∀ other ∈ entry :: rest, SoundPiece other := fun other inside =>
          sound other (List.mem_append_right _ inside)
        have single : joined [entry] = entry.2 := by simp [joined, joinPiece]
        have small : Fits [entry] := by
          rw [Fits, single]
          exact (later entry List.mem_cons_self).small
        have nonempty : run ≠ [] := by
          rintro rfl
          exact full small
        rw [← single] at late
        exact ih later (.next here nonempty fits full) small late

theorem Fits.before {entry : Text × Text} (fits : Fits (run ++ [entry])) : Fits run := by
  have grows : utf8Length (joined run) ≤ utf8Length (joined (run ++ [entry])) := by
    rw [joined_snoc, joinPiece]
    split
    · rw [utf8Length_append, utf8Length_append]
      omega
    next empty =>
      rw [Decidable.of_not_not empty]
      exact Nat.zero_le _
  exact grows.trans fits

/-- A run that fits is read into the current chunk. -/
theorem packPieces_run (rest : List (Text × Text)) (fits : Fits run) :
    packPieces [] (run ++ rest) = packPieces (joined run) rest := by
  induction run using List.reverseRecOn generalizing rest with
  | nil => rfl
  | append_singleton run entry ih =>
    rw [List.append_assoc, ih _ fits.before, List.singleton_append, packPieces, ← joined_snoc]
    exact if_pos fits

theorem packPieces_closed {entry : Text × Text} {rest : List (Text × Text)} (fits : Fits run)
    (full : ¬ Fits (run ++ [entry])) :
    packPieces [] (run ++ entry :: rest) = emittedChunk (joined run) ++ packPieces entry.2 rest := by
  rw [packPieces_run _ fits, packPieces, ← joined_snoc]
  exact if_neg full

/-- What is packed from where a chunk begins is packed. -/
theorem chunkAt_packs {rest : List (Text × Text)} (sound : ∀ entry ∈ pieces, SoundPiece entry)
    (here : ChunkAt pieces rest) :
    (∀ entry ∈ rest, SoundPiece entry) ∧ packPieces [] rest ⊆ packPieces [] pieces := by
  induction here with
  | first => exact ⟨sound, List.Subset.refl _⟩
  | @next run rest entry here nonempty fits full ih =>
    have later : ∀ other ∈ entry :: rest, SoundPiece other := fun other inside =>
      ih.1 other (List.mem_append_right _ inside)
    have alone : packPieces [] (entry :: rest) = packPieces entry.2 rest := by
      have small : utf8Length (joinPiece [] entry.1 entry.2) ≤ maxChunkTokens :=
        (later entry List.mem_cons_self).small
      rw [packPieces, if_pos small]
      rfl
    refine ⟨later, fun chunk member => ih.2 ?_⟩
    rw [packPieces_closed fits full]
    exact List.mem_append_right _ (alone ▸ member)

/-- And every such run is a chunk. -/
theorem packPieces_mem {rest : List (Text × Text)}
    (sound : ∀ entry ∈ pieces, SoundPiece entry) (here : ChunkAt pieces (run ++ rest))
    (nonempty : run ≠ []) (fits : Fits run)
    (closed : ∀ entry later, rest = entry :: later → ¬ Fits (run ++ [entry])) :
    joined run ∈ packPieces [] pieces := by
  obtain ⟨soundHere, inside⟩ := chunkAt_packs sound here
  have shown : joined run ≠ [] :=
    joined_nonempty (fun entry member => soundHere entry (List.mem_append_left _ member)) nonempty
  have emitted : joined run ∈ emittedChunk (joined run) := mem_emittedChunk.mpr ⟨rfl, shown⟩
  refine inside ?_
  cases rest with
  | nil => rwa [packPieces_run _ fits, packPieces]
  | cons entry later =>
    rw [packPieces_closed fits (closed entry later rfl)]
    exact List.mem_append_left _ emitted

/-- The chunks are visible exactly where blank beginnings have room. -/
theorem packPieces_shown_iff (sound : ∀ entry ∈ pieces, SoundPiece entry) :
    (∀ chunk ∈ packPieces [] pieces, stripText chunk ≠ []) ↔ RoomBehindBlanks pieces := by
  constructor
  · intro shown run rest here nonempty fits blank
    by_contra closed
    have chunk := packPieces_mem sound here nonempty fits fun entry later same room =>
      closed ⟨entry, later, same, room⟩
    have soundRun : ∀ entry ∈ run, SoundPiece entry := fun entry member =>
      (chunkAt_packs sound here).1 entry (List.mem_append_left _ member)
    refine shown _ chunk (visible_eq_nil.mp ?_)
    rw [joined_visible soundRun, List.flatMap_eq_nil_iff]
    exact blank
  · intro room chunk member blank
    obtain ⟨run, rest, here, nonempty, fits, rfl, soundHere, closed⟩ :=
      @mem_packPieces pieces [] pieces chunk sound .first (Nat.zero_le _) member
    have soundRun : ∀ entry ∈ run, SoundPiece entry := fun entry member =>
      soundHere entry (List.mem_append_left _ member)
    have none := visible_eq_nil.mpr blank
    rw [joined_visible soundRun, List.flatMap_eq_nil_iff] at none
    obtain ⟨entry, later, rfl, fitting⟩ := room run rest here nonempty fits none
    exact closed entry later rfl fitting

end Packing

/-! ## Embedding -/

section Embedding
variable {sha256 : Text → Text} {isPrintable : Char → Bool} {nfc : Text → Text}

theorem partitionEmbeddingTexts_yields (texts : List Text) :
    Yields (partitionEmbeddingTexts texts) (texts ≠ [] ∧ ∀ text ∈ texts, stripText text ≠ [])
      (batchesOf maxEmbeddingBatchSize texts) := by
  refine Yields.congr (Yields.guarded (Yields.pure _)) ?_
  simp [not_or]

/-- Every chunk shows something, and the embedder takes them all. -/
def Embeddable (source : PreparedIngestionSource) : Prop :=
  (∀ chunk ∈ source.chunks, stripText chunk.text ≠ []) ∧
    ∃ batches, partitionEmbeddingTexts (source.chunks.map PreparedDocumentChunk.text) = .ok batches

/-- In every section of the document, blank beginnings of chunks have room. -/
def RoomInDocument (nfc : Text → Text) (source : ValidatedIngestionSource) : Prop :=
  ∀ part ∈ structuralSections (normalizeDocumentContent nfc source.rawText) source.sourceType,
    RoomBehindBlanks (sectionPieces part.2)

theorem preparedOf_embeddable_iff {source : ValidatedIngestionSource}
    (acceptable : Acceptable nfc source) :
    Embeddable (preparedOf sha256 nfc source) ↔ RoomInDocument nfc source := by
  have chunks : (∀ chunk ∈ (preparedOf sha256 nfc source).chunks, stripText chunk.text ≠ []) ↔
      RoomInDocument nfc source := by
    have texts := @chunkContent_texts sha256
      (normalizeDocumentContent nfc source.rawText) source.sourceType
    have mapped : (∀ chunk ∈ (preparedOf sha256 nfc source).chunks, stripText chunk.text ≠ []) ↔
        ∀ text ∈ (preparedOf sha256 nfc source).chunks.map PreparedDocumentChunk.text,
          stripText text ≠ [] := by
      rw [List.forall_mem_map]
    rw [mapped]
    simp only [preparedOf, texts, List.forall_mem_flatMap, RoomInDocument,
      packPieces_shown_iff fun _ => sectionPieces_sound]
  have some_ : (preparedOf sha256 nfc source).chunks.map PreparedDocumentChunk.text ≠ [] := by
    intro none
    have conserved := (chunkContent_chunked sha256
      (normalizeDocumentContent nfc source.rawText) source.sourceType).conserved
    rw [List.map_eq_nil_iff] at none
    have content : chunkContent sha256 (normalizeDocumentContent nfc source.rawText)
        source.sourceType = [] := none
    rw [content, List.flatMap_nil] at conserved
    exact acceptable.2.2 (visible_eq_nil.mp conserved.symm)
  rw [Embeddable, (partitionEmbeddingTexts_yields _).succeeds_iff, List.forall_mem_map, chunks]
  simp [some_]

/-- The chunks of an accepted batch can be embedded exactly where, in every section, a chunk
that begins with whitespace has room for the next piece. -/
theorem chunks_embeddable_iff {sources : List ValidatedIngestionSource}
    {prepared : List PreparedIngestionSource}
    (accepted : normalizeAndChunkBatch sha256 isPrintable nfc sources = .ok prepared) :
    (∀ source ∈ prepared, Embeddable source) ↔ ∀ source ∈ sources, RoomInDocument nfc source := by
  obtain ⟨⟨-, -, acceptable⟩, rfl⟩ :=
    ((normalizeAndChunkBatch_yields sources).iff_ok prepared).mp accepted
  rw [List.forall_mem_map]
  exact forall₂_congr fun source member => preparedOf_embeddable_iff (acceptable source member)

end Embedding

/-! ## A page of wide characters -/

/-- A paragraph that fills a chunk, and a line with one ideographic space. -/
def filledPage : ValidatedIngestionSource :=
  ⟨"page.txt".toList, "text", "page".toList,
    List.replicate 266 'あ' ++ "\n\n\u3000".toList⟩

theorem filledPage_refused :
    ¬ ∀ (sources : List ValidatedIngestionSource) (prepared : List PreparedIngestionSource),
      normalizeAndChunkBatch sampleSha256 (fun _ => true) id sources = .ok prepared →
        ∀ source ∈ prepared, Embeddable source := by
  intro all
  have chunks : ((preparedOf sampleSha256 id filledPage).chunks.any fun chunk =>
      decide (stripText chunk.text = [])) = true := by decide +kernel
  have accepted : normalizeAndChunkBatch sampleSha256 (fun _ => true) id [filledPage] =
      .ok [preparedOf sampleSha256 id filledPage] := by
    refine (normalizeAndChunkBatch_yields [filledPage]).1 ⟨by simp, by decide, ?_⟩
    intro source member
    obtain rfl := List.mem_singleton.mp member
    exact ⟨by decide +kernel, by decide +kernel, by decide +kernel⟩
  obtain ⟨chunk, member, blank⟩ := List.any_eq_true.mp chunks
  exact (all _ _ accepted _ (List.mem_singleton_self _)).1 chunk member (of_decide_eq_true blank)

theorem notes_embeddable : ∃ prepared,
    normalizeAndChunkBatch sampleSha256 (fun _ => true) id [notesSource] = .ok prepared ∧
    ∀ source ∈ prepared, Embeddable source := by
  have accepted : normalizeAndChunkBatch sampleSha256 (fun _ => true) id [notesSource] =
      .ok [preparedOf sampleSha256 id notesSource] := by
    refine (normalizeAndChunkBatch_yields [notesSource]).1 ⟨by simp, by decide, ?_⟩
    intro source member
    obtain rfl := List.mem_singleton.mp member
    exact ⟨by decide +kernel, by decide +kernel, by decide +kernel⟩
  have shown : ((structuralSections (normalizeDocumentContent id notesSource.rawText)
      notesSource.sourceType).all fun part =>
        (sectionPieces part.2).all fun entry => visible entry.2 ≠ []) = true := by
    decide +kernel
  refine ⟨_, accepted, (chunks_embeddable_iff accepted).mpr ?_⟩
  intro source member part inside
  obtain rfl := List.mem_singleton.mp member
  have pieces := List.all_eq_true.mp (List.all_eq_true.mp shown part inside)
  exact roomBehindBlanks_of_visible fun entry listed => of_decide_eq_true (pieces entry listed)

end Pathfinder
