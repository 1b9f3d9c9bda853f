import Pathfinder.Db.Documents
import Pathfinder.Guarantees.DocumentChunks

/-!
# Sources that the database takes

The chunker measures a text before it is normalized and takes a heading as it stands. So a
prepared source is refused by its tables exactly where its names, its normalized size, a
character zero or a heading is outside what they take.
-/
namespace Pathfinder
open Conditional

/-! ## Headings -/

theorem withoutNewline_begins (line : Text) : withoutNewline line <+: line := by
  unfold withoutNewline
  split
  · exact List.dropLast_prefix line
  · exact List.prefix_refl line

theorem withoutClosing_begins (title : Text) : withoutClosing title <+: title := by
  simp only [withoutClosing]
  split
  · exact ((List.rdropWhile_prefix _ _).trans (List.rdropWhile_prefix _ _)).trans
      (List.rdropWhile_prefix _ _)
  · exact List.prefix_refl title

/-- A heading's title stands in its line, behind a number sign. -/
theorem headingTitle_inside {line heading : Text} (titled : headingTitle line = some heading) :
    heading <:+: line ∧ '#' ∈ line := by
  simp only [headingTitle] at titled
  split at titled
  · exact nomatch titled
  next shape =>
  obtain rfl := Option.some.inj titled
  simp only [not_or] at shape
  constructor
  · refine (stripText_inside _).trans ((withoutClosing_begins _).isInfix.trans
      ((stripText_inside _).trans ((List.rdropWhile_prefix _ _).isInfix.trans ?_)))
    exact (((List.dropWhile_suffix _).trans (List.dropWhile_suffix _)).trans
      (List.dropWhile_suffix _)).isInfix
  · have some_ := shape.2.2.1
    have hashes : (line.dropWhile (· = ' ')).takeWhile (· = '#') ≠ [] := fun none => by
      simp [none] at some_
    obtain ⟨c, member⟩ := List.exists_mem_of_ne_nil _ hashes
    have same : c = '#' := by simpa using List.mem_takeWhile_imp member
    subst same
    exact (List.dropWhile_sublist _).subset ((List.takeWhile_prefix _).subset member)

theorem visible_ne_nil {text : Text} {c : Char} (member : c ∈ text)
    (shown : isPythonSpace c = false) : visible text ≠ [] := by
  intro none
  rw [visible, List.filter_eq_nil_iff] at none
  simpa [shown] using none c member

/-! ## Sections -/

theorem mem_flushSection {section_ : Option Text} {accumulated : List Text}
    {part : Option Text × Text} :
    part ∈ flushSection section_ accumulated ↔
      part = (section_, accumulated.flatten) ∧ visible accumulated.flatten ≠ [] := by
  unfold flushSection
  split
  next shown => simp [visible_eq_nil, shown.2]
  next none =>
    refine ⟨nofun, fun both => absurd ⟨?_, fun blank => both.2 (visible_eq_nil.mpr blank)⟩ none⟩
    intro empty
    exact both.2 (by rw [empty]; rfl)

/-- A section is named by a heading, or by what it was begun with, and shows something. -/
theorem mem_markdownSectionsFrom {section_ : Option Text} {accumulated lines : List Text}
    {part : Option Text × Text} (member : part ∈ markdownSectionsFrom section_ accumulated lines) :
    visible part.2 ≠ [] ∧ (part.1 = section_ ∨
      ∃ line ∈ lines, ∃ heading, headingTitle (withoutNewline line) = some heading ∧
        part.1 = some heading) := by
  fun_induction markdownSectionsFrom section_ accumulated lines with
  | case1 =>
    obtain ⟨rfl, shown⟩ := mem_flushSection.mp member
    exact ⟨shown, .inl rfl⟩
  | case2 section_ accumulated line rest heading titled ih =>
    rcases List.mem_append.mp member with flushed | later
    · obtain ⟨rfl, shown⟩ := mem_flushSection.mp flushed
      exact ⟨shown, .inl rfl⟩
    · obtain ⟨shown, named | ⟨other, inside, found⟩⟩ := ih later
      · exact ⟨shown, .inr ⟨line, List.mem_cons_self, heading, titled, named⟩⟩
      · exact ⟨shown, .inr ⟨other, List.mem_cons_of_mem _ inside, found⟩⟩
  | case3 section_ accumulated line rest plain ih =>
    obtain ⟨shown, named | ⟨other, inside, found⟩⟩ := ih member
    · exact ⟨shown, .inl named⟩
    · exact ⟨shown, .inr ⟨other, List.mem_cons_of_mem _ inside, found⟩⟩

/-- What has been begun and shows something becomes a section. -/
theorem markdownSectionsFrom_begun {section_ : Option Text} {accumulated lines : List Text}
    (shown : visible accumulated.flatten ≠ []) :
    ∃ part ∈ markdownSectionsFrom section_ accumulated lines, part.1 = section_ := by
  fun_induction markdownSectionsFrom section_ accumulated lines with
  | case1 => exact ⟨_, mem_flushSection.mpr ⟨rfl, shown⟩, rfl⟩
  | case2 section_ accumulated line rest heading titled ih =>
    exact ⟨_, List.mem_append_left _ (mem_flushSection.mpr ⟨rfl, shown⟩), rfl⟩
  | case3 section_ accumulated line rest plain ih =>
    refine ih ?_
    rw [List.flatten_append, visible_append]
    exact fun none => shown (List.append_eq_nil_iff.mp none).1

/-- Every heading opens a section. -/
theorem markdownSectionsFrom_headed {section_ : Option Text} {accumulated lines : List Text}
    {line heading : Text} (member : line ∈ lines)
    (titled : headingTitle (withoutNewline line) = some heading) :
    ∃ part ∈ markdownSectionsFrom section_ accumulated lines, part.1 = some heading := by
  fun_induction markdownSectionsFrom section_ accumulated lines with
  | case1 => cases member
  | case2 section_ accumulated first rest opening titled' ih =>
    rcases List.mem_cons.mp member with rfl | later
    · obtain rfl : opening = heading := Option.some.inj (titled'.symm.trans titled)
      have sign := (withoutNewline_begins line).subset (headingTitle_inside titled).2
      have shown : visible [line].flatten ≠ [] := by
        rw [List.flatten_singleton]
        exact visible_ne_nil sign (by decide)
      obtain ⟨part, inside, named⟩ := @markdownSectionsFrom_begun (some opening) _ rest shown
      exact ⟨part, List.mem_append_right _ inside, named⟩
    · obtain ⟨part, inside, named⟩ := ih later
      exact ⟨part, List.mem_append_right _ inside, named⟩
  | case3 section_ accumulated first rest plain ih =>
    rcases List.mem_cons.mp member with rfl | later
    · rw [plain] at titled
      cases titled
    · exact ih later

/-! ## Rows -/

section Rows
variable {sha256 : Text → Text} {isPrintable : Char → Bool} {nfc : Text → Text}

/-- A section that shows something has a chunk. -/
theorem section_chunk {content : Text} {sourceType : String} {part : Option Text × Text}
    (member : part ∈ structuralSections content sourceType) (shown : visible part.2 ≠ []) :
    ∃ chunk ∈ chunkContent sha256 content sourceType, chunk.section_ = part.1 := by
  have kept := chunkSection_visible part.1 part.2
  obtain ⟨chunk, inside⟩ : ∃ chunk, chunk ∈ chunkSection part.1 part.2 := by
    refine List.exists_mem_of_ne_nil _ fun none => shown ?_
    rw [none] at kept
    exact kept.symm
  have listed : chunk ∈ (structuralSections content sourceType).flatMap fun part =>
      chunkSection part.1 part.2 := List.mem_flatMap.mpr ⟨part, member, inside⟩
  obtain ⟨ordinal, here⟩ := List.getElem?_of_mem listed
  exact ⟨_, List.mem_map.mpr ⟨(chunk, ordinal), List.mem_zipIdx_iff_getElem?.mpr here, rfl⟩,
    (chunkSection_chunk inside).1⟩

/-- A chunk holds no character that its document does not, whitespace apart. -/
theorem chunk_char {content : Text} {sourceType : String} {chunk : PreparedDocumentChunk}
    (member : chunk ∈ chunkContent sha256 content sourceType) {c : Char} (inside : c ∈ chunk.text)
    (shown : isPythonSpace c = false) : c ∈ content := by
  have kept := (chunkContent_chunked sha256 content sourceType).conserved
  have seen : c ∈ visible chunk.text := by simp [visible, inside, shown]
  have whole : c ∈ visible content := kept ▸ List.mem_flatMap.mpr ⟨chunk, member, seen⟩
  exact (List.mem_filter.mp whole).1

/-- The section of a chunk is a heading of the document. -/
theorem chunk_section {content : Text} {sourceType : String} {chunk : PreparedDocumentChunk}
    (member : chunk ∈ chunkContent sha256 content sourceType) {section_ : Text}
    (named : chunk.section_ = some section_) :
    sourceType = "markdown" ∧ ∃ line ∈ splitlinesKeepends content,
      headingTitle (withoutNewline line) = some section_ := by
  obtain ⟨-, -, part, inside, same, -⟩ := mem_chunkContent member
  unfold structuralSections at inside
  split at inside
  next markdown =>
    refine ⟨markdown, ?_⟩
    obtain ⟨-, unnamed | ⟨line, here, heading, titled, found⟩⟩ := mem_markdownSectionsFrom inside
    · rw [same, unnamed] at named
      cases named
    · rw [same, found] at named
      cases named
      exact ⟨line, here, titled⟩
  · obtain rfl := List.mem_singleton.mp inside
    rw [same] at named
    cases named

/-- What the tables take of a source. -/
structure DatabaseTakes (nfc : Text → Text) (source : ValidatedIngestionSource) : Prop where
  sourceType : source.sourceType = "markdown" ∨ source.sourceType = "text" ∨
    source.sourceType = "code"
  title : charLengthWithin 255 source.title = true ∧ '\x00' ∉ source.title
  sourceName : charLengthWithin 255 source.sourceName = true ∧ '\x00' ∉ source.sourceName
  size : utf8Length (normalizeDocumentContent nfc source.rawText) ≤ 1048576
  zero : '\x00' ∉ normalizeDocumentContent nfc source.rawText
  headings : source.sourceType = "markdown" →
    ∀ line ∈ splitlinesKeepends (normalizeDocumentContent nfc source.rawText), ∀ heading,
      headingTitle (withoutNewline line) = some heading → charLengthWithin 800 heading = true

theorem documentAccepted_iff (digest : ∀ text, isHexDigest (sha256 text) = true)
    {source : ValidatedIngestionSource} (acceptable : Acceptable nfc source) :
    documentAccepted (preparedOf sha256 nfc source) = true ↔
      (source.sourceType = "markdown" ∨ source.sourceType = "text" ∨ source.sourceType = "code") ∧
      (charLengthWithin 255 source.title = true ∧ '\x00' ∉ source.title) ∧
      (charLengthWithin 255 source.sourceName = true ∧ '\x00' ∉ source.sourceName) ∧
      utf8Length (normalizeDocumentContent nfc source.rawText) ≤ 1048576 ∧
      '\x00' ∉ normalizeDocumentContent nfc source.rawText := by
  have shown : 1 ≤ utf8Length (normalizeDocumentContent nfc source.rawText) :=
    utf8Length_positive fun empty => acceptable.2.2 (by rw [empty]; rfl)
  have versions : isVersionName "nfc-lf-v1".toList = true ∧
      isVersionName "heading-paragraph-utf8-budget-800-v1".toList = true ∧
      isVersionName embeddingProfile = true := by decide +kernel
  simp only [documentAccepted, preparedOf, Bool.and_eq_true, Bool.or_eq_true, beq_iff_eq, digest,
    versions, and_true, octetLengthWithin_iff, shown, true_and, storableText_iff]
  tauto

theorem chunkAccepted_iff (digest : ∀ text, isHexDigest (sha256 text) = true) {content : Text}
    {sourceType : String} (zero : '\x00' ∉ content) {chunk : PreparedDocumentChunk}
    (member : chunk ∈ chunkContent sha256 content sourceType) :
    chunkAccepted chunk = true ↔ chunk.section_.all (charLengthWithin 800) = true := by
  have bounds := (chunkContent_chunked sha256 content sourceType).bounds chunk member
  obtain ⟨hash, count, -⟩ := mem_chunkContent member
  have text : '\x00' ∉ chunk.text := fun inside => zero (chunk_char member inside (by decide))
  have section_ : chunk.section_.all storableText = true := by
    cases named : chunk.section_ with
    | none => rfl
    | some section_ =>
      obtain ⟨-, line, here, titled⟩ := chunk_section member named
      rw [Option.all_some, storableText_iff]
      intro inside
      have within := (headingTitle_inside titled).1.subset inside
      have lines := List.mem_flatten.mpr
        ⟨line, here, (withoutNewline_begins line).subset within⟩
      exact zero (splitlinesKeepends_flatten content ▸ lines)
  have profile : isVersionName embeddingProfile = true := by decide +kernel
  simp [chunkAccepted, octetLengthWithin_iff, bounds, hash, digest, count, profile, section_,
    storableText_iff, text]

theorem preparedOf_persistable_iff (digest : ∀ text, isHexDigest (sha256 text) = true)
    {source : ValidatedIngestionSource} (acceptable : Acceptable nfc source) :
    Persistable (preparedOf sha256 nfc source) ↔ DatabaseTakes nfc source := by
  have ordinals : ((preparedOf sha256 nfc source).chunks.map
      PreparedDocumentChunk.ordinal).Nodup := by
    rw [show (preparedOf sha256 nfc source).chunks = chunkContent sha256
      (normalizeDocumentContent nfc source.rawText) source.sourceType from rfl,
      chunkContent_ordinals]
    exact List.nodup_range
  rw [Persistable, documentAccepted_iff digest acceptable]
  constructor
  · rintro ⟨⟨sourceType, title, sourceName, size, zero⟩, chunks, -⟩
    refine ⟨sourceType, title, sourceName, size, zero, fun markdown line here heading titled => ?_⟩
    obtain ⟨part, inside, named⟩ := @markdownSectionsFrom_headed none [] _ _ _ here titled
    have listed : part ∈ structuralSections (normalizeDocumentContent nfc source.rawText)
        source.sourceType := by
      rw [structuralSections, if_pos markdown]
      exact inside
    obtain ⟨chunk, member, same⟩ :=
      @section_chunk sha256 _ _ _ listed (mem_markdownSectionsFrom inside).1
    have bounded := (chunkAccepted_iff digest zero member).mp (chunks chunk member)
    rwa [same, named, Option.all_some] at bounded
  · intro takes
    refine ⟨⟨takes.sourceType, takes.title, takes.sourceName, takes.size, takes.zero⟩, ?_, ordinals⟩
    intro chunk member
    refine (chunkAccepted_iff digest takes.zero member).mpr ?_
    cases named : chunk.section_ with
    | none => rfl
    | some section_ =>
      obtain ⟨markdown, line, here, titled⟩ := chunk_section member named
      exact takes.headings markdown line here section_ titled

/-- The tables take every row of an accepted batch exactly where its sources have names of 1 to
255 characters, a normalized text of at most 1048576 bytes, no character zero, and headings
with titles of 1 to 800 characters. -/
theorem sources_persistable_iff (digest : ∀ text, isHexDigest (sha256 text) = true)
    {sources : List ValidatedIngestionSource} {prepared : List PreparedIngestionSource}
    (accepted : normalizeAndChunkBatch sha256 isPrintable nfc sources = .ok prepared) :
    (∀ source ∈ prepared, Persistable source) ↔ ∀ source ∈ sources, DatabaseTakes nfc source := by
  obtain ⟨⟨-, -, acceptable⟩, rfl⟩ :=
    ((normalizeAndChunkBatch_yields sources).iff_ok prepared).mp accepted
  rw [List.forall_mem_map]
  exact forall₂_congr fun source member =>
    preparedOf_persistable_iff digest (acceptable source member)

end Rows
/-! ## A heading without a title -/

theorem sampleSha256_digest (text : Text) : isHexDigest (sampleSha256 text) = true := by
  unfold sampleSha256
  split_ifs
  · exact isHexDigest_ofList (by decide)
  · exact isHexDigest_ofList (by decide)
  · exact isHexDigest_ofList (by decide)
  · exact isHexDigest_ofList (by decide)
  · exact isHexDigest_ofList (by decide)
  · exact isHexDigest_ofList (by decide)
  · decide

def untitledSource : ValidatedIngestionSource :=
  ⟨"untitled.md".toList, "markdown", "untitled".toList, "#\n\ntext\n".toList⟩

theorem sample_accepted {source : ValidatedIngestionSource} (acceptable : Acceptable id source) :
    normalizeAndChunkBatch sampleSha256 (fun _ => true) id [source] =
      .ok [preparedOf sampleSha256 id source] := by
  refine (normalizeAndChunkBatch_yields [source]).1 ⟨by simp, by simp [maxDocumentsPerCommand], ?_⟩
  intro other member
  rwa [List.mem_singleton.mp member]

theorem untitledSource_refused :
    ¬ ∀ (sources : List ValidatedIngestionSource) (prepared : List PreparedIngestionSource),
      normalizeAndChunkBatch sampleSha256 (fun _ => true) id sources = .ok prepared →
        ∀ source ∈ prepared, Persistable source := by
  intro all
  have acceptable : Acceptable id untitledSource :=
    ⟨by decide +kernel, by decide +kernel, by decide +kernel⟩
  have chunks : ((preparedOf sampleSha256 id untitledSource).chunks.all chunkAccepted) = false := by
    decide +kernel
  have stored := all _ _ (sample_accepted acceptable) _ (List.mem_singleton_self _)
  rw [List.all_eq_true.mpr stored.2.1] at chunks
  cases chunks

theorem notesSource_persistable : ∃ prepared,
    normalizeAndChunkBatch sampleSha256 (fun _ => true) id [notesSource] = .ok prepared ∧
    ∀ source ∈ prepared, Persistable source := by
  have acceptable : Acceptable id notesSource :=
    ⟨by decide +kernel, by decide +kernel, by decide +kernel⟩
  refine ⟨_, sample_accepted acceptable,
    (sources_persistable_iff sampleSha256_digest (sample_accepted acceptable)).mpr ?_⟩
  intro source member
  obtain rfl := List.mem_singleton.mp member
  have headings : ((splitlinesKeepends (normalizeDocumentContent id notesSource.rawText)).all
      fun line => (headingTitle (withoutNewline line)).all (charLengthWithin 800)) = true := by
    decide +kernel
  refine ⟨.inl rfl, by decide +kernel, by decide +kernel, by decide +kernel, by decide +kernel, ?_⟩
  intro _ line here heading titled
  have bounded := List.all_eq_true.mp headings line here
  rwa [titled, Option.all_some] at bounded

end Pathfinder
