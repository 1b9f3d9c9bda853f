import Pathfinder.Material.Numbering
import Pathfinder.Material.Shown

/-!
# Quoting what was shown

A line of the context and a line of an excerpt are the file's own: quoted at the number
shown they are accepted. A chunk is cut from the normal form of its line: its number is
the line's, and it is accepted exactly when what it shows stands in the line as the file
has it, as it does wherever normalization leaves the line alone.
-/
namespace Pathfinder

/-- Quoting `shown`, trimmed, as evidence for line `number` of a file is well formed and passes
`check_evidence`. -/
def Addressable (allowedFiles : UUID → Option ByteArray) (fileId : UUID) (number : Nat)
    (shown : Text) : Prop :=
  ∃ evidence : FactEvidenceV1, evidence.snapshotFileId = fileId ∧ evidence.startLine = number ∧
    evidence.endLine = number ∧ evidence.quote = stripText shown ∧
    checkEvidence allowedFiles evidence = .ok ()

section Quotes
variable {allowedFiles : UUID → Option ByteArray} {fileId : UUID} {content : ByteArray}
  {text line shown : Text} {number : Nat}

theorem addressable_iff (allowed : allowedFiles fileId = some content)
    (decoded : decodeUtf8 content = some text) (positive : 1 ≤ number)
    (here : (splitlines text)[number - 1]? = some line) (visible : stripText shown ≠ [])
    (small : utf8Length shown ≤ 4000) :
    Addressable allowedFiles fileId number shown ↔ stripText shown <:+: line := by
  constructor
  · rintro ⟨evidence, rfl, rfl, same, quoted, accepted⟩
    exact quoted ▸ (checkEvidence_line allowed decoded same here).mp accepted
  · intro inside
    have short : (stripText shown).length ≤ 4000 :=
      (length_le_utf8Length _).trans ((utf8Length_mono (stripText_inside shown)).trans small)
    refine ⟨{ snapshotFileId := fileId, startLine := number, endLine := number
              quote := stripText shown, placed := ⟨positive, positive⟩
              bounded := ⟨List.length_pos_iff.mpr visible, short⟩ }, rfl, rfl, rfl, rfl, ?_⟩
    exact (checkEvidence_line allowed decoded rfl here).mpr inside

/-- What stands in its line is addressable. -/
theorem addressable_of_infix (allowed : allowedFiles fileId = some content)
    (decoded : decodeUtf8 content = some text) (positive : 1 ≤ number)
    (here : (splitlines text)[number - 1]? = some line) (visible : stripText shown ≠ [])
    (small : utf8Length shown ≤ 4000) (inside : shown <:+: line) :
    Addressable allowedFiles fileId number shown :=
  (addressable_iff allowed decoded positive here visible small).mpr
    ((stripText_inside shown).trans inside)

end Quotes

/-! ## The context -/

theorem line_feed_free {text line : Text} (member : line ∈ splitlines text) : '\n' ∉ line := by
  intro inside
  exact absurd (splitlines_unbroken member '\n' inside) (by decide)

theorem digits_free {c : Char} (other : c.isDigit = false) (number : Nat) :
    c ∉ (toString number).toList := by
  intro member
  change c ∈ (Nat.repr number).toList at member
  rw [Nat.toList_repr] at member
  rw [Nat.isDigit_of_mem_toDigits (by decide) (by decide) member] at other
  cases other

theorem digits_injective {first second : Nat}
    (same : (toString first).toList = (toString second).toList) : first = second := by
  change (Nat.repr first).toList = (Nat.repr second).toList at same
  rw [Nat.toList_repr, Nat.toList_repr] at same
  have read := congrArg (fun digits => Nat.ofDigitChars 10 digits 0) same
  rwa [Nat.ofDigitChars_toDigits (by decide) (by decide),
    Nat.ofDigitChars_toDigits (by decide) (by decide)] at read

theorem numberedLine_beginning {first second : Nat} {shown line : Text}
    (cut : numberedLine first shown <+: numberedLine second line) :
    first = second ∧ shown <+: line := by
  obtain ⟨digits, behind⟩ := Lines.prefix_of_separated (digits_free (by decide) first)
    (digits_free (by decide) second) cut
  exact ⟨digits_injective digits, (List.cons_prefix_cons.mp behind).2⟩

/-- Each part of the context is a file of the scope with its cut body. -/
theorem contextParts_part {remaining : Nat} {files : List SnapshotText}
    {parts : List (SnapshotText × Text)} (built : contextParts remaining files = some parts)
    {item : SnapshotText} {body : Text} (member : (item, body) ∈ parts) :
    item ∈ files ∧ ∃ text bound, decodeUtf8 item.content = some text ∧
      bound ≤ maxContextFileBytes ∧ body = contextBody bound (splitlines text) := by
  induction files generalizing remaining parts with
  | nil =>
    cases built
    cases member
  | cons first rest ih =>
    unfold contextParts at built
    split at built
    · cases built
      cases member
    · simp only [Option.bind_eq_bind, Option.bind_eq_some_iff, Option.pure_def,
        Option.some.injEq] at built
      obtain ⟨text, decoded, later, tail, rfl⟩ := built
      rcases List.mem_cons.mp member with same | behind
      · cases same
        exact ⟨List.mem_cons_self, text, _, decoded, Nat.min_le_left _ _, rfl⟩
      · obtain ⟨inside, facts⟩ := ih tail behind
        exact ⟨List.mem_cons_of_mem _ inside, facts⟩

/-- A line the body shows with its number is a beginning of that line of the file. -/
theorem contextBody_line {bound number place : Nat} {text shown : Text}
    (here : ((contextBody bound (splitlines text)).splitOn '\n')[place]? =
      some (numberedLine number shown)) :
    1 ≤ number ∧ ∃ line, (splitlines text)[number - 1]? = some line ∧ shown <+: line := by
  have cut : contextBody bound (splitlines text) <+:
      ['\n'].intercalate (numberedLines (splitlines text)) := takeUtf8_begins _ _
  have free : ∀ segment ∈ numberedLines (splitlines text), '\n' ∉ segment := by
    intro segment member inside
    obtain ⟨⟨line, index⟩, counted, rfl⟩ := List.mem_map.mp member
    have stored := (List.mem_zipIdx_iff_le_and_getElem?_sub.mp counted).2
    rcases List.mem_append.mp inside with digits | behind
    · exact digits_free (by decide) index digits
    · simp only [List.mem_cons] at behind
      rcases behind with same | same | inLine
      · exact absurd same (by decide)
      · exact absurd same (by decide)
      · exact line_feed_free (List.mem_of_getElem? stored) inLine
  have nonempty : numberedLines (splitlines text) ≠ [] := by
    intro none
    rw [none] at cut
    rw [List.prefix_nil.mp cut, List.splitOn_nil] at here
    cases place with
    | zero => simp [numberedLine] at here
    | succ place => cases here
  obtain ⟨segment, found, beginning⟩ := Lines.segment_of_beginning free cut here nonempty
  obtain ⟨⟨line, index⟩, counted, rfl⟩ := List.mem_map.mp (List.mem_of_getElem? found)
  obtain ⟨positive, stored⟩ := List.mem_zipIdx_iff_le_and_getElem?_sub.mp counted
  obtain ⟨rfl, inside⟩ := numberedLine_beginning beginning
  exact ⟨positive, line, stored, inside⟩

/-- A line shown in the context is addressable at the number before it. -/
theorem context_addressable {allowedFiles : UUID → Option ByteArray} {remaining number place : Nat}
    {files : List SnapshotText} {parts : List (SnapshotText × Text)}
    (built : contextParts remaining files = some parts) {item : SnapshotText} {body shown : Text}
    (member : (item, body) ∈ parts) (allowed : allowedFiles item.id = some item.content)
    (here : (body.splitOn '\n')[place]? = some (numberedLine number shown))
    (visible : stripText shown ≠ []) : Addressable allowedFiles item.id number shown := by
  obtain ⟨-, text, bound, decoded, bounded, rfl⟩ := contextParts_part built member
  obtain ⟨positive, line, stored, inside⟩ := contextBody_line here
  have within : shown <:+: contextBody bound (splitlines text) :=
    (List.suffix_append_of_suffix (List.suffix_cons_iff.mpr (.inr (List.suffix_cons _ _)))).isInfix
      |>.trans (Lines.infix_of_mem_splitOn (List.mem_of_getElem? here))
  have small : utf8Length shown ≤ 4000 :=
    (utf8Length_mono within).trans ((takeUtf8_length _ _).trans bounded)
  exact addressable_of_infix allowed decoded positive stored visible small inside.isInfix

/-! ## Excerpts -/

/-- What an excerpt holds. -/
theorem readExcerpt_ok {files : List SnapshotText} {toolInput : ReadExcerptInputV1}
    {output : ReadExcerptOutputV1} (read : readExcerpt files toolInput = .ok output) :
    ∃ item ∈ files, ∃ text, decodeUtf8 item.content = some text ∧ output.fileRef = item.id ∧
      1 ≤ output.startLine ∧ output.startLine ≤ output.endLine ∧
      output.endLine ≤ (splitlines text).length ∧
      output.untrustedText = joinedLines (splitlines text) output.startLine output.endLine ∧
      utf8Length output.untrustedText ≤ 4000 := by
  unfold readExcerpt at read
  split at read
  · cases read
  next item found =>
    split at read
    · cases read
    next placed =>
      split at read
      · cases read
      next text decoded =>
        split at read
        · cases read
        next available =>
          dsimp only at read
          split at read
          · cases read
          next small =>
            cases read
            have positive := toolInput.placed.1
            exact ⟨item, List.mem_of_find?_eq_some found, text, decoded, rfl, positive,
              by dsimp only; omega, Nat.le_of_not_lt available, rfl, Nat.le_of_not_lt small⟩

/-- A line of an excerpt is addressable at its number. -/
theorem excerpt_addressable {allowedFiles : UUID → Option ByteArray} {files : List SnapshotText}
    (allowed : ∀ item ∈ files, allowedFiles item.id = some item.content)
    {toolInput : ReadExcerptInputV1} {output : ReadExcerptOutputV1}
    (read : readExcerpt files toolInput = .ok output) {place : Nat} {shown : Text}
    (here : (output.untrustedText.splitOn '\n')[place]? = some shown)
    (visible : stripText shown ≠ []) :
    Addressable allowedFiles output.fileRef (output.startLine + place) shown := by
  obtain ⟨item, member, text, decoded, same, positive, ordered, available, joined, small⟩ :=
    readExcerpt_ok read
  have short : utf8Length shown ≤ 4000 :=
    (utf8Length_mono (Lines.infix_of_mem_splitOn (List.mem_of_getElem? here))).trans small
  rw [joined, joinedLines, Lines.segment_of_join] at here
  · rw [List.getElem?_drop] at here
    obtain ⟨inside, taken⟩ := List.getElem?_eq_some_iff.mp here
    have stored : (splitlines text)[output.startLine + place - 1]? = some shown := by
      rw [show output.startLine + place - 1 = output.startLine - 1 + place by omega]
      exact List.getElem?_eq_some_iff.mpr ⟨_, List.getElem_take.symm.trans taken⟩
    rw [same]
    exact addressable_of_infix (allowed item member) decoded (by omega) stored visible short
      (List.infix_refl _)
  · intro segment inside
    exact line_feed_free (List.mem_of_mem_take (List.mem_of_mem_drop inside))
  · intro none
    have length := congrArg List.length none
    simp only [List.length_drop, List.length_take, List.length_nil] at length
    omega

/-! ## Chunks -/

/-- A chunk is addressable at its number exactly when what it shows stands in the line as
written. -/
theorem chunk_addressable {nfc : Text → Text} (inert : LineBreaksInert nfc)
    {allowedFiles : UUID → Option ByteArray} {fileId : UUID} {item : MaterialFile} {text : Text}
    {chunks : List PreparedIngestionChunk} (allowed : allowedFiles fileId = some item.content)
    (decoded : decodeUtf8 item.content = some text)
    (prepared : prepareMaterialFile nfc item = .ok chunks) {chunk : PreparedIngestionChunk}
    (member : chunk ∈ chunks) :
    chunk.endLine = chunk.startLine ∧
      ∃ line, (splitlines text)[chunk.startLine - 1]? = some line ∧
        stripText chunk.text <:+: nfc line ∧
        (Addressable allowedFiles fileId chunk.startLine chunk.text ↔
          stripText chunk.text <:+: line) := by
  obtain ⟨positive, single, visible, small, line, here, inside⟩ :=
    prepared_chunk inert decoded prepared member
  exact ⟨single, line, here, inside,
    addressable_iff allowed decoded positive here visible (small.trans (by decide))⟩

theorem boundedContent_ok {path : String} {content : ByteArray} {item : MaterialFile}
    (accepted : boundedContent path content = .ok item) :
    item.content = content ∧ ∃ text, decodeUtf8 content = some text := by
  unfold boundedContent at accepted
  split at accepted
  · cases accepted
  split at accepted
  · cases accepted
  split at accepted
  · cases accepted
  next text decoded =>
    cases accepted
    exact ⟨rfl, text, decoded⟩

/-- Whatever the extraction model is shown of a file can be quoted where it was shown. A chunk
shows a piece of the normal form of the line at its number, and can be quoted exactly when the
line as written has it. -/
theorem shown_text_quotable {nfc : Text → Text} (inert : LineBreaksInert nfc)
    {allowedFiles : UUID → Option ByteArray} {files : List SnapshotText}
    (allowed : ∀ item ∈ files, allowedFiles item.id = some item.content) :
    (∀ parts, contextParts maxContextBytes (files.mergeSort contextOrder) = some parts →
      ∀ item body, (item, body) ∈ parts → ∀ (place number : Nat) (shown : Text),
        (body.splitOn '\n')[place]? = some (numberedLine number shown) → stripText shown ≠ [] →
          Addressable allowedFiles item.id number shown) ∧
    (∀ toolInput output, readExcerpt files toolInput = .ok output →
      ∀ (place : Nat) (shown : Text), (output.untrustedText.splitOn '\n')[place]? = some shown →
        stripText shown ≠ [] →
          Addressable allowedFiles output.fileRef (output.startLine + place) shown) ∧
    ∀ item ∈ files, ∀ file, boundedContent item.path item.content = .ok file →
      ∀ chunks, prepareMaterialFile nfc file = .ok chunks → ∀ chunk ∈ chunks,
        chunk.endLine = chunk.startLine ∧ ∃ text line, decodeUtf8 item.content = some text ∧
          (splitlines text)[chunk.startLine - 1]? = some line ∧
          stripText chunk.text <:+: nfc line ∧
          (Addressable allowedFiles item.id chunk.startLine chunk.text ↔
            stripText chunk.text <:+: line) ∧
          (nfc line = line → Addressable allowedFiles item.id chunk.startLine chunk.text) := by
  refine ⟨?_, ?_, ?_⟩
  · intro parts built item body member place number shown here visible
    have stored := (contextParts_part built member).1
    exact context_addressable built member (allowed item (List.mem_mergeSort.mp stored)) here
      visible
  · intro toolInput output read place shown here visible
    exact excerpt_addressable allowed read here visible
  · intro item member file accepted chunks prepared chunk piece
    obtain ⟨same, text, decoded⟩ := boundedContent_ok accepted
    obtain ⟨single, line, here, inside, quotable⟩ := chunk_addressable inert
      (same ▸ allowed item member) (same ▸ decoded) prepared piece
    refine ⟨single, text, line, decoded, here, inside, quotable, fun kept => ?_⟩
    exact quotable.mpr (kept ▸ inside)

/-! ## The angstrom sign -/

/-- Composition on texts whose only character without a composed form of its own is the angstrom
sign. -/
def composeAngstrom (text : Text) : Text := text.map fun c => if c = '\u212B' then '\u00C5' else c

theorem composeAngstrom_inert : LineBreaksInert composeAngstrom where
  apart before c behind breaks := by
    have other : c ≠ '\u212B' := by
      rintro rfl
      exact absurd breaks (by decide)
    simp [composeAngstrom, other]
  unbroken text unbroken c member := by
    obtain ⟨d, inside, rfl⟩ := List.mem_map.mp member
    split
    · decide
    · exact unbroken d inside
  nonempty text := List.map_eq_nil_iff

def sensorNotes : SnapshotText where
  id := 1
  path := "notes.txt"
  content := "range 4 \u212B\r\nbuilt it".toByteArray

def sensorAllowed (id : UUID) : Option ByteArray :=
  if id = sensorNotes.id then some sensorNotes.content else none

def sensorFile : MaterialFile where
  path := sensorNotes.path
  content := sensorNotes.content
  lineCount := 2

theorem sensorNotes_decoded :
    decodeUtf8 sensorNotes.content = some "range 4 \u212B\r\nbuilt it".toList :=
  decodeUtf8_toByteArray "range 4 \u212B\r\nbuilt it"

theorem sensorFile_accepted :
    boundedContent sensorNotes.path sensorNotes.content = .ok sensorFile := by
  unfold boundedContent
  rw [sensorNotes_decoded, if_neg (by decide +kernel), if_neg (by decide +kernel)]
  rfl

def sensorChunks : List PreparedIngestionChunk :=
  [{ ordinal := 0, text := "range 4 \u00C5\n".toList, startLine := 1, endLine := 1 },
    { ordinal := 1, text := "built it".toList, startLine := 2, endLine := 2 }]

theorem sensorFile_prepared :
    prepareMaterialFile composeAngstrom sensorFile = .ok sensorChunks := by
  unfold prepareMaterialFile
  rw [show sensorFile.content = sensorNotes.content from rfl, sensorNotes_decoded]
  decide +kernel

theorem sensor_second_line_quotable :
    Addressable sensorAllowed sensorNotes.id 2 "built it".toList := by
  have chunks := (shown_text_quotable composeAngstrom_inert
    (show ∀ item ∈ [sensorNotes], sensorAllowed item.id = some item.content by
      simp [sensorAllowed])).2.2
  obtain ⟨-, text, line, decoded, here, -, -, kept⟩ := chunks sensorNotes (by simp) sensorFile
    sensorFile_accepted sensorChunks sensorFile_prepared _
    (List.mem_cons_of_mem _ List.mem_cons_self)
  refine kept ?_
  rw [sensorNotes_decoded] at decoded
  cases decoded
  have second : (splitlines "range 4 \u212B\r\nbuilt it".toList)[1]? = some "built it".toList := by
    decide +kernel
  rw [show (2 : Nat) - 1 = 1 from rfl, second] at here
  cases here
  decide +kernel

/-- The first chunk shows the composed letter, which the file does not hold. -/
theorem sensor_first_chunk_not_quotable :
    prepareMaterialFile composeAngstrom sensorFile = .ok sensorChunks ∧
      ¬Addressable sensorAllowed sensorNotes.id 1 "range 4 \u00C5\n".toList := by
  refine ⟨sensorFile_prepared, ?_⟩
  have first : (splitlines "range 4 \u212B\r\nbuilt it".toList)[1 - 1]? =
      some "range 4 \u212B".toList := by
    decide +kernel
  have allowed : sensorAllowed sensorNotes.id = some sensorNotes.content := if_pos rfl
  rw [addressable_iff allowed sensorNotes_decoded (Nat.le_refl 1) first (by decide +kernel)
    (by decide +kernel)]
  decide +kernel

end Pathfinder
