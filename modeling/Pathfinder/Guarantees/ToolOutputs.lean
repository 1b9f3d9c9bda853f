import Mathlib.Algebra.Order.BigOperators.Group.List
import Pathfinder.Guarantees.EvidenceAddressability
import Pathfinder.Tools.Search

/-!
# Results of read-only tools and their byte limits

The handlers bound characters, or bytes before escaping; the registry bounds the bytes of the
written JSON. A result fits exactly where what was found or asked for leaves room when it is escaped.
-/
namespace Pathfinder
open JsonTexts

/-! ## Sizes -/

/-- The bytes of a character inside a JSON string. -/
def escapedBytes (c : Char) : Nat :=
  if c = '"' ∨ c = '\\' ∨ c = '\n' ∨ c = '\r' ∨ c = '\t' ∨ c = '\u000c' ∨ c = '\u0008' then 2
  else if c.toNat < 32 then 6
  else c.utf8Size

/-- The bytes of a JSON string with its quotes. -/
def stringBytes (text : Text) : Nat := (text.map escapedBytes).sum + 2

def digitCount (number : Nat) : Nat := (Nat.toDigits 10 number).length

theorem escapedBytes_le (c : Char) : escapedBytes c ≤ 6 := by
  have width := c.utf8Size_le_four
  unfold escapedBytes
  split_ifs <;> omega

theorem stringBytes_le (text : Text) : stringBytes text ≤ 6 * text.length + 2 := by
  have each := List.sum_le_card_nsmul (text.map escapedBytes) 6 fun cost member => by
    obtain ⟨c, -, rfl⟩ := List.mem_map.mp member
    exact escapedBytes_le c
  rw [List.length_map, nsmul_eq_mul, Nat.cast_id] at each
  unfold stringBytes
  omega

/-- A line break between two lines takes as much as the quotes of one. -/
theorem stringBytes_join {lines : List Text} (some_ : lines ≠ []) :
    stringBytes (['\n'].intercalate lines) = (lines.map stringBytes).sum := by
  induction lines with
  | nil => exact absurd rfl some_
  | cons line rest ih =>
    cases rest with
    | nil => simp
    | cons next rest =>
      have tail := ih (List.cons_ne_nil _ _)
      have break_ : escapedBytes '\n' = 2 := by decide
      rw [List.intercalate_cons_cons, List.map_cons, List.sum_cons, ← tail]
      simp only [stringBytes, List.map_append, List.sum_append, List.map_cons, List.map_nil,
        List.sum_cons, List.sum_nil, break_]
      omega

theorem utf8Length_escape (c : Char) : utf8Length (escape c) = escapedBytes c := by
  by_cases special : c ∈ specials
  · have all : (specials.all fun c => decide (utf8Length (escape c) = escapedBytes c)) = true := by
      decide +kernel
    exact of_decide_eq_true (List.all_eq_true.mp all c special)
  · have apart (d : Char) (among : d ∈ specials) : c ≠ d := fun same => special (same ▸ among)
    have control : ¬c.toNat < 32 := fun below => special
      (.tail _ (.tail _ (List.mem_map.mpr ⟨c.toNat, List.mem_range.mpr below,
        Char.ofNat_toNat c⟩)))
    rw [escape_of_not_special special]
    simp [escapedBytes, utf8Length, control, apart '"' (by decide), apart '\\' (by decide),
      apart '\n' (by decide), apart '\r' (by decide), apart '\t' (by decide),
      apart '\u000c' (by decide), apart '\u0008' (by decide)]

theorem utf8Length_quoted (text : Text) : utf8Length (quoted text) = stringBytes text := by
  have inner : utf8Length (text.flatMap escape) = (text.map escapedBytes).sum := by
    induction text with
    | nil => rfl
    | cons c rest ih =>
      rw [List.flatMap_cons, utf8Length_append, ih, utf8Length_escape, List.map_cons,
        List.sum_cons]
  have quote : utf8Length ['"'] = 1 := by decide
  rw [quoted, ← List.singleton_append, utf8Length_append, utf8Length_append, inner, quote,
    stringBytes]
  omega

theorem utf8Length_number (number : Nat) :
    utf8Length (Nat.toDigits 10 number) = digitCount number := by
  have digits : ∀ c ∈ Nat.toDigits 10 number, c.utf8Size = 1 := by
    intro c member
    have digit : (decide (c.val ≥ '0'.val) && decide (c.val ≤ '9'.val)) = true :=
      Nat.isDigit_of_mem_toDigits (by decide) (by decide) member
    have small : c.val ≤ '9'.val := of_decide_eq_true (Bool.and_eq_true_iff.mp digit).2
    exact Char.utf8Size_eq_one_iff.mpr (UInt32.le_trans small (by decide))
  rw [utf8Length, List.map_congr_left digits, digitCount]
  simp

/-- An array takes a byte for every item and one more. -/
theorem utf8Length_array {items : List Json} (nonempty : items ≠ []) :
    utf8Length (write (.array items)) =
      (items.map fun item => utf8Length (write item) + 1).sum + 1 := by
  have comma : ','.utf8Size = 1 := by decide
  have bracket : '['.utf8Size = 1 := by decide
  have tail (items : List Json) : utf8Length (writeItems items) =
      (items.map fun item => utf8Length (write item) + 1).sum + 1 := by
    induction items with
    | nil => decide
    | cons item rest ih =>
      rw [writeItems, utf8Length_append, utf8Length_cons, comma, ih, List.map_cons, List.sum_cons]
      omega
  cases items with
  | nil => exact absurd rfl nonempty
  | cons item rest =>
    rw [write, utf8Length_append, utf8Length_cons, bracket, tail, List.map_cons, List.sum_cons]
    omega

/-- An object takes two bytes for every member and one more. -/
theorem utf8Length_object {members : List (Text × Json)} (nonempty : members ≠ []) :
    utf8Length (write (.object members)) = (members.map fun member =>
      stringBytes member.1 + utf8Length (write member.2) + 2).sum + 1 := by
  have comma : ','.utf8Size = 1 := by decide
  have colon : ':'.utf8Size = 1 := by decide
  have brace : '\x7b'.utf8Size = 1 := by decide
  have tail (members : List (Text × Json)) : utf8Length (writeMembers members) =
      (members.map fun member =>
        stringBytes member.1 + utf8Length (write member.2) + 2).sum + 1 := by
    induction members with
    | nil => decide
    | cons member rest ih =>
      rw [writeMembers, utf8Length_append, utf8Length_append, utf8Length_cons, utf8Length_cons,
        utf8Length_quoted, comma, colon, ih, List.map_cons, List.sum_cons]
      omega
  cases members with
  | nil => exact absurd rfl nonempty
  | cons member rest =>
    rw [write, utf8Length_append, utf8Length_append, utf8Length_cons, utf8Length_cons,
      utf8Length_quoted, brace, colon, tail, List.map_cons, List.sum_cons]
    omega

/-! ## The limit -/

theorem surrogate_char (c : Char) : surrogate c.toNat = false := by
  have valid := c.valid
  simp only [UInt32.isValidChar, Nat.isValidChar] at valid
  simp only [surrogate, Bool.and_eq_false_iff, decide_eq_false_iff_not, Char.toNat]
  omega

theorem utf8Size_toNat (c : Char) : c.utf8Size = if c.toNat < 0x80 then 1
    else if c.toNat < 0x800 then 2 else if c.toNat < 0x10000 then 3 else 4 := by
  have sizes : c.utf8Size = if c.toNat ≤ 0x7f then 1 else if c.toNat ≤ 0x7ff then 2
      else if c.toNat ≤ 0xffff then 3 else 4 := rfl
  rw [sizes]
  split_ifs <;> omega

/-- A text without lone surrogates is encoded. -/
theorem encodedLength_dumped (text : Text) :
    encodedLength (text.map Char.toNat) = some (utf8Length text) := by
  have plain : (text.map Char.toNat).any surrogate = false := by
    rw [List.any_map, List.any_eq_false]
    intro c _
    simp [surrogate_char c]
  have sizes : (text.map Char.toNat).foldr (fun c length => (if c < 0x80 then 1
      else if c < 0x800 then 2 else if c < 0x10000 then 3 else 4) + length) 0 =
        utf8Length text := by
    clear plain
    induction text with
    | nil => rfl
    | cons c rest ih => rw [List.map_cons, List.foldr_cons, ih, utf8Length_cons, utf8Size_toNat]
  rw [encodedLength, plain, sizes]
  rfl

/-- What a spec writes comes back exactly within its limit. -/
theorem normalizeOutput_iff {J O : Type} {spec : ToolSpec J O} {output : O} {payload : Json}
    (written : spec.serialize output = .ok (dumped payload)) :
    (∃ text, normalizeOutput spec output = .ok text) ↔
      utf8Length (write payload) ≤ spec.maxOutputBytes := by
  simp only [normalizeOutput, written, dumped, encodedLength_dumped]
  split
  next excess =>
    refine ⟨?_, fun fits => absurd fits excess.not_ge⟩
    rintro ⟨text, written⟩
    cases written
  next fits => exact ⟨fun _ => Nat.le_of_not_lt fits, fun _ => ⟨_, rfl⟩⟩

theorem stringBytes_uuid (value : UUID) : stringBytes (uuidText value) = 38 := by
  have digit (number : Nat) : escapedBytes (Nat.digitChar (number % 16)) = 1 := by
    have all : ∀ n < 16, escapedBytes (Nat.digitChar n) = 1 := by decide
    exact all _ (Nat.mod_lt _ (by decide))
  have dash : escapedBytes '-' = 1 := by decide
  simp [stringBytes, uuidText, List.range_succ, digit, dash]

/-- A digit of a digest is written as it is. -/
theorem escapedBytes_hex {c : Char} (hex : (c.isDigit || ('a' ≤ c && c ≤ 'f')) = true) :
    escapedBytes c = 1 := by
  have small : c.toNat < 103 := by
    have below : c.val ≤ 'f'.val := by
      rcases Bool.or_eq_true_iff.mp hex with digit | letter
      · exact UInt32.le_trans (of_decide_eq_true (Bool.and_eq_true_iff.mp digit).2) (by decide)
      · exact of_decide_eq_true (Bool.and_eq_true_iff.mp letter).2
    exact Nat.lt_succ_of_le below
  have all : ∀ n < 103, ((Char.ofNat n).isDigit || ('a' ≤ Char.ofNat n && Char.ofNat n ≤ 'f')) =
      true → escapedBytes (Char.ofNat n) = 1 := by decide
  have here := all c.toNat small
  rw [Char.ofNat_toNat] at here
  exact here hex

theorem stringBytes_source {sourceId : Text} (source : isSearchSourceId sourceId = true) :
    stringBytes sourceId = 73 := by
  simp only [isSearchSourceId, Bool.and_eq_true, decide_eq_true_eq, List.all_eq_true] at source
  obtain ⟨⟨front, length⟩, hex⟩ := source
  obtain ⟨digits, rfl⟩ := List.isPrefixOf_iff_prefix.mp front
  have behind : ("web-v1:".toList ++ digits).drop 7 = digits := List.drop_left' rfl
  rw [behind] at hex
  have plain : digits.map escapedBytes = digits.map fun _ => 1 :=
    List.map_congr_left fun c member => escapedBytes_hex (hex c member)
  have scheme : ("web-v1:".toList.map escapedBytes).sum = 7 := by decide
  have seven : "web-v1:".toList.length = 7 := by decide
  rw [List.length_append, seven] at length
  rw [stringBytes, List.map_append, List.sum_append, scheme, plain]
  simp
  omega

/-! ## The tools -/

/-- What a result of `search_web` takes in its array. -/
def resultBytes (result : SearchResult) : Nat :=
  163 + stringBytes result.url + result.publishedAt.elim 4 stringBytes +
    stringBytes result.snippet + stringBytes result.title + (if result.truncated then 4 else 5)

/-- The query and what the port answers leave room in 65536 bytes. -/
def SearchFits (query : Text) (results : List SearchResult) : Prop :=
  39 + stringBytes query + (results.map resultBytes).sum ≤ 64 * 1024

/-- The requested lines and the path of the file leave room in 5000 bytes. -/
def ExcerptFits (path : String) (lines : List Text) (toolInput : ReadExcerptInputV1) : Prop :=
  103 + digitCount toolInput.endLine + digitCount toolInput.startLine + stringBytes path.toList +
    (((lines.take toolInput.endLine).drop (toolInput.startLine - 1)).map stringBytes).sum ≤ 5000

instance (path : String) (lines : List Text) (toolInput : ReadExcerptInputV1) :
    Decidable (ExcerptFits path lines toolInput) :=
  inferInstanceAs (Decidable (_ ≤ _))

/-- The found chunks with the files they are chunks of, the first five of them. -/
def shownChunks (files : List ScopedMaterialFile) (found : List RetrievedDocumentChunk) :
    List (RetrievedDocumentChunk × ScopedMaterialFile) :=
  ((found.take retrievalTopK).flatMap fun chunk =>
    (files.filter fun file => file.documentId = some chunk.documentId).map (chunk, ·)).take 5

/-- What a chunk of a file takes in the array of `retrieve_project_material`. -/
def chunkBytes (chunk : RetrievedDocumentChunk) (file : ScopedMaterialFile) : Nat :=
  97 + stringBytes file.path.toList + stringBytes file.sourceRevision + stringBytes chunk.text

/-- The chunks, and the paths and revisions of their files, leave room in 8000 bytes. -/
def RetrievedFits (files : List ScopedMaterialFile) (found : List RetrievedDocumentChunk) : Prop :=
  13 + ((shownChunks files found).map fun hit => chunkBytes hit.1 hit.2).sum ≤ 8000

instance (files : List ScopedMaterialFile) (found : List RetrievedDocumentChunk) :
    Decidable (RetrievedFits files found) :=
  inferInstanceAs (Decidable (_ ≤ _))

/-- What was found are chunks of material files. -/
def FoundPrepared (nfc : Text → Text) (found : List RetrievedDocumentChunk) : Prop :=
  ∀ hit ∈ found, ∃ item chunks, prepareMaterialFile nfc item = .ok chunks ∧
    ∃ chunk ∈ chunks, chunk.text = hit.text

theorem excerpt_size (output : ReadExcerptOutputV1) :
    utf8Length (write output.payload) = 103 + digitCount output.endLine +
      digitCount output.startLine + stringBytes output.path.toList +
        stringBytes output.untrustedText := by
  have keys : stringBytes "end_line".toList = 10 ∧ stringBytes "file_ref".toList = 10 ∧
      stringBytes "path".toList = 6 ∧ stringBytes "start_line".toList = 12 ∧
      stringBytes "untrusted_text".toList = 16 := by decide +kernel
  rw [ReadExcerptOutputV1.payload, utf8Length_object (by simp)]
  simp only [List.map_cons, List.map_nil, List.sum_cons, List.sum_nil, write, utf8Length_number,
    utf8Length_quoted, stringBytes_uuid, keys]
  omega

theorem hit_size (hit : MaterialHitV1) : utf8Length (write hit.payload) =
    96 + stringBytes hit.path + stringBytes hit.sourceRevision + stringBytes hit.untrustedText := by
  have keys : stringBytes "file_ref".toList = 10 ∧ stringBytes "path".toList = 6 ∧
      stringBytes "source_revision".toList = 17 ∧ stringBytes "untrusted_text".toList = 16 := by
    decide +kernel
  rw [MaterialHitV1.payload, utf8Length_object (by simp)]
  simp only [List.map_cons, List.map_nil, List.sum_cons, List.sum_nil, write, utf8Length_quoted,
    stringBytes_uuid, keys]
  omega

/-- A list of hits fits exactly where their fields leave room. -/
theorem retrieved_fits (hits : List MaterialHitV1) :
    utf8Length (write (retrievedPayload hits)) ≤ 8000 ↔
      13 + (hits.map fun hit => 97 + stringBytes hit.path + stringBytes hit.sourceRevision +
        stringBytes hit.untrustedText).sum ≤ 8000 := by
  have key : stringBytes "results".toList = 9 := by decide +kernel
  rw [retrievedPayload, utf8Length_object (by simp)]
  simp only [List.map_cons, List.map_nil, List.sum_cons, List.sum_nil, key]
  by_cases none : hits = []
  · subst none
    decide
  · rw [utf8Length_array (by simpa using none), List.map_map]
    have each : (hits.map ((fun item => utf8Length (write item) + 1) ∘ MaterialHitV1.payload)) =
        hits.map fun hit => 97 + stringBytes hit.path + stringBytes hit.sourceRevision +
          stringBytes hit.untrustedText := by
      refine List.map_congr_left fun hit _ => ?_
      rw [Function.comp_apply, hit_size]
      omega
    rw [each]
    omega

theorem result_size {canonicalizeSearchUrl : Text → Option Text} {sha256 : Text → Text}
    {rank : Nat} (single : digitCount rank = 1) {result : SearchResult}
    (contract : searchContract canonicalizeSearchUrl sha256 result = true) :
    utf8Length (write (result.payload rank)) + 1 = resultBytes result := by
  have keys : stringBytes "canonical_url".toList = 15 ∧ stringBytes "published_at".toList = 14 ∧
      stringBytes "rank".toList = 6 ∧ stringBytes "snippet".toList = 9 ∧
      stringBytes "source_id".toList = 11 ∧ stringBytes "title".toList = 7 ∧
      stringBytes "truncated".toList = 11 := by decide +kernel
  have published : utf8Length (write (result.publishedAt.elim .null .string)) =
      result.publishedAt.elim 4 stringBytes := by
    cases result.publishedAt with
    | none => decide
    | some text => exact utf8Length_quoted text
  have truncated : utf8Length (write (.bool result.truncated)) =
      if result.truncated then 4 else 5 := by
    cases result.truncated <;> decide
  have source : stringBytes result.sourceId = 73 := by
    simp only [searchContract, Bool.and_eq_true] at contract
    exact stringBytes_source contract.1.1.1.1.1.1.1
  rw [SearchResult.payload, utf8Length_object (by simp)]
  simp only [List.map_cons, List.map_nil, List.sum_cons, List.sum_nil, published, truncated]
  simp only [write, utf8Length_number, utf8Length_quoted, keys, single, source, resultBytes]
  omega

/-- What `search_web` answers fits exactly where the query and the results leave room. -/
theorem search_fits {canonicalizeSearchUrl : Text → Option Text} {sha256 : Text → Text}
    {query : Text} {results : List SearchResult} (few : results.length ≤ 8)
    (short : query.length ≤ 2000)
    (contract : ∀ result ∈ results, searchContract canonicalizeSearchUrl sha256 result = true) :
    utf8Length (write (SearchWebOutputV1.payload ⟨query, results⟩)) ≤ 64 * 1024 ↔
      SearchFits query results := by
  have keys : stringBytes "query".toList = 7 ∧ stringBytes "result_count".toList = 14 ∧
      stringBytes "results".toList = 9 := by decide +kernel
  have single : ∀ number ≤ 8, digitCount number = 1 := by decide
  have items : ((results.zipIdx 1).map fun entry =>
      utf8Length (write (entry.1.payload entry.2)) + 1) = results.map resultBytes := by
    conv_rhs => rw [← List.zipIdx_map_fst 1 results, List.map_map]
    refine List.map_congr_left fun entry member => ?_
    have below := List.snd_lt_of_mem_zipIdx member
    have listed := List.mem_map_of_mem (f := Prod.fst) member
    rw [List.zipIdx_map_fst] at listed
    exact result_size (single _ (by omega)) (contract _ listed)
  rw [SearchWebOutputV1.payload, utf8Length_object (by simp), SearchFits]
  simp only [List.map_cons, List.map_nil, List.sum_cons, List.sum_nil, keys]
  have count : utf8Length (write (.number results.length)) = 1 :=
    (utf8Length_number _).trans (single _ few)
  have written : utf8Length (write (.string query)) = stringBytes query := utf8Length_quoted _
  rw [count, written]
  by_cases none : results = []
  · -- a query alone is far from the limit
    subst none
    have empty : utf8Length (write (.array [])) = 2 := by decide
    have bound := stringBytes_le query
    simp only [List.zipIdx_nil, List.map_nil, empty, List.sum_nil]
    exact iff_of_true (by omega) (by omega)
  · rw [utf8Length_array (by simpa using none), List.map_map, ← items]
    simp only [Function.comp_def]
    omega

/-- A chunk of a file is shown as it is. -/
theorem prepared_small {nfc : Text → Text} {item : MaterialFile}
    {chunks : List PreparedIngestionChunk} (prepared : prepareMaterialFile nfc item = .ok chunks)
    {chunk : PreparedIngestionChunk} (member : chunk ∈ chunks) :
    chunk.text ≠ [] ∧ utf8Length chunk.text ≤ 800 := by
  unfold prepareMaterialFile at prepared
  split at prepared
  · cases prepared
  dsimp only at prepared
  split at prepared
  · cases prepared
  split at prepared
  · cases prepared
  cases prepared
  obtain ⟨⟨⟨piece, line⟩, ordinal⟩, listed, rfl⟩ := List.mem_map.mp member
  have numbered := List.mem_map_of_mem (f := Prod.fst) listed
  rw [List.zipIdx_map_fst] at numbered
  obtain ⟨entry, -, inside⟩ := List.mem_flatMap.mp numbered
  obtain ⟨cut, pieces, same⟩ := List.mem_map.mp inside
  cases same
  obtain ⟨-, visible, small⟩ := linePieces_piece (Nat.zero_le _) pieces
  refine ⟨?_, small⟩
  rintro rfl
  exact visible rfl

/-- Five chunks are within the budget of the retrieval, and none is cut. -/
theorem boundedHits_all {remaining : Nat} {found : List RetrievedDocumentChunk}
    (room : 800 * found.length ≤ remaining)
    (small : ∀ hit ∈ found, hit.text ≠ [] ∧ utf8Length hit.text ≤ 800) :
    boundedHits remaining found = found := by
  induction found generalizing remaining with
  | nil => rfl
  | cons hit rest ih =>
    obtain ⟨visible, fits⟩ := small hit List.mem_cons_self
    rw [List.length_cons] at room
    have whole : takeUtf8 (min retrievedChunkTextByteLimit remaining) hit.text = hit.text :=
      takeUtf8_of_fits (Nat.le_min.mpr ⟨fits, by omega⟩)
    have later := @ih (remaining - utf8Length hit.text) (by omega)
      fun other member => small other (List.mem_cons_of_mem _ member)
    unfold boundedHits
    simp only [whole, if_neg visible]
    split
    next spent =>
      cases rest with
      | nil => rfl
      | cons => simp only [List.length_cons] at room; omega
    · rw [later]

/-- The tool answers the first five chunks, each with the files it is a chunk of. -/
theorem retrieveMaterial_shown {nfc : Text → Text} {files : List ScopedMaterialFile}
    {found : List RetrievedDocumentChunk} (prepared : FoundPrepared nfc found) :
    retrieveMaterial files found = (shownChunks files found).map fun hit =>
      { fileRef := hit.2.id, path := hit.2.path.toList, sourceRevision := hit.2.sourceRevision
        untrustedText := hit.1.text } := by
  have small : ∀ hit ∈ found.take retrievalTopK, hit.text ≠ [] ∧ utf8Length hit.text ≤ 800 := by
    intro hit member
    obtain ⟨item, chunks, cut, chunk, listed, same⟩ := prepared hit (List.mem_of_mem_take member)
    rw [← same]
    exact prepared_small cut listed
  have five : 800 * (found.take retrievalTopK).length ≤ retrievalContextByteBudget := by
    have := List.length_take_le retrievalTopK found
    unfold retrievalTopK retrievalContextByteBudget at *
    omega
  rw [retrieveMaterial, boundedHits_all five small, shownChunks, List.map_take, List.map_flatMap]
  simp only [List.map_map, Function.comp_def]

/-- A result of a read-only tool fits its limit exactly where the escaped bytes of what the search
has found, of the requested lines and of the found chunks leave room in it. -/
theorem tool_outputs_fit_iff (canonicalizeSearchUrl : Text → Option Text)
    (sha256 nfkc nfc : Text → Text) :
    (∀ toolInput results output,
      searchWeb canonicalizeSearchUrl sha256 nfkc toolInput results = some output →
        ((∃ text, normalizeOutput (searchWebSpec nfkc) output = .ok text) ↔
          SearchFits toolInput.query results)) ∧
    (∀ files toolInput output, readExcerpt files toolInput = .ok output →
      ∃ file text, (files.find? fun item => decide (uuidText item.id = toolInput.fileRef)) =
          some file ∧ decodeUtf8 file.content = some text ∧
        ((∃ text, normalizeOutput readExcerptSpec output = .ok text) ↔
          ExcerptFits file.path (splitlines text) toolInput)) ∧
    ∀ files found, FoundPrepared nfc found →
      ((∃ text, normalizeOutput retrieveMaterialSpec (retrieveMaterial files found) = .ok text) ↔
        RetrievedFits files found) := by
  refine ⟨fun toolInput results output built => ?_, fun files toolInput output read => ?_,
    fun files found prepared => ?_⟩
  · unfold searchWeb at built
    split at built
    · cases built
    next accepted =>
    cases built
    simp only [not_or, Nat.not_lt, List.any_eq_true, Bool.not_eq_true', not_exists, not_and,
      Bool.not_eq_false] at accepted
    obtain ⟨-, few, -, short, -, contract, -⟩ := accepted
    rw [normalizeOutput_iff rfl]
    exact search_fits few short contract
  · unfold readExcerpt at read
    split at read
    · cases read
    next file found =>
    split at read
    · cases read
    next ordered =>
    split at read
    · cases read
    next text decoded =>
    split at read
    · cases read
    next inside =>
    dsimp only at read
    split at read
    · cases read
    cases read
    refine ⟨file, text, found, decoded, ?_⟩
    have positive := toolInput.placed
    have some_ : ((splitlines text).take toolInput.endLine).drop (toolInput.startLine - 1) ≠ [] := by
      intro none
      have length := congrArg List.length none
      rw [List.length_drop, List.length_take, List.length_nil] at length
      omega
    rw [normalizeOutput_iff rfl, excerpt_size, joinedLines, stringBytes_join some_]
    rfl
  · rw [normalizeOutput_iff rfl, retrieveMaterial_shown prepared]
    refine (retrieved_fits _).trans ?_
    rw [List.map_map]
    rfl

/-! ## Samples -/

/-- A page of a sample site. -/
def pageUrl (number : Nat) : Text := "https://example.com/".toList ++ Nat.toDigits 10 number

/-- The digests of the sample pages, and some digest of any other text. -/
def pageSha256 (text : Text) : Text :=
  if text = pageUrl 1 then
    "f2f9784142e4d11e32b550593e53fa187718c7c3435936d7845bf0300d28391c".toList
  else if text = pageUrl 2 then
    "10534fd4c57f8a69960452d4ea8a76ed0acbb2df0c18e736f5e1384bf499fc5f".toList
  else if text = pageUrl 3 then
    "2d395023221efc9151bf54dc886b24ad10b424f581d519466b8464b81981b427".toList
  else if text = pageUrl 4 then
    "5af70f50b6d9996eef0d6bbede35fb8796ef425428e7df29167eb0b9c40a9cb7".toList
  else if text = pageUrl 5 then
    "6ba7a06e00d4f77d0d9b0dd04f9038a1eed6579d2d1dfc8541a11ded2a4cceb0".toList
  else if text = pageUrl 6 then
    "c0fd8645865aaab6c2c285fdc6367e343bf403957a3d25705c15d662513a18eb".toList
  else List.replicate 64 '0'

/-- The result for a page with one character often enough to fill a snippet. -/
def pageResult (length number : Nat) : SearchResult where
  sourceId := "web-v1:".toList ++ pageSha256 (pageUrl number)
  title := "页".toList
  url := pageUrl number
  snippet := List.replicate length '页'
  publishedAt := none
  truncated := false

theorem stripText_replicate {c : Char} (shown : isPythonSpace c = false) (length : Nat) :
    stripText (List.replicate length c) = List.replicate length c := by
  simp [stripText, shown]

/-- A result without a date that keeps the contract is its own normal form. -/
theorem normalizeSearchResult_own {canonicalizeSearchUrl : Text → Option Text}
    {sha256 : Text → Text} {result : SearchResult}
    (contract : searchContract canonicalizeSearchUrl sha256 result = true)
    (undated : result.publishedAt = none) (whole : result.truncated = false) :
    normalizeSearchResult canonicalizeSearchUrl sha256 result.title result.url result.snippet none =
      some result := by
  have kept := contract
  simp only [searchContract, trimmed, Bool.and_eq_true, decide_eq_true_eq] at kept
  obtain ⟨⟨⟨⟨⟨⟨⟨-, short⟩, short'⟩, -⟩, url⟩, source⟩, shown, title⟩, snippet⟩ := kept
  obtain ⟨sourceId, title_, url_, snippet_, publishedAt, truncated⟩ := result
  cases undated
  cases whole
  dsimp only at *
  unfold normalizeSearchResult
  simp only [← title, ← snippet, url, source, Option.bind_eq_bind, Option.bind_some,
    List.take_of_length_le short, List.take_of_length_le short', short.not_gt, short'.not_gt,
    or_self, decide_false, contract, if_true]
  exact if_neg fun empty => shown (title.symm.trans empty)

theorem pageSha256_hex (text : Text) : isHexDigest (pageSha256 text) = true := by
  unfold pageSha256
  split_ifs
  · exact isHexDigest_ofList (by decide)
  · exact isHexDigest_ofList (by decide)
  · exact isHexDigest_ofList (by decide)
  · exact isHexDigest_ofList (by decide)
  · exact isHexDigest_ofList (by decide)
  · exact isHexDigest_ofList (by decide)
  · decide

theorem pageResult_contract {length number : Nat} (short : length ≤ 4000) :
    searchContract some pageSha256 (pageResult length number) = true := by
  have shown : (pageResult length number).snippet = stripText (pageResult length number).snippet :=
    (stripText_replicate (by decide) length).symm
  have source : isSearchSourceId (pageResult length number).sourceId = true :=
    isSearchSourceId_digest (pageSha256_hex _)
  have title : (pageResult length number).title = ['页'] := rfl
  have snippet : (pageResult length number).snippet.length ≤ 4000 := by
    rw [show (pageResult length number).snippet = List.replicate length '页' from rfl,
      List.length_replicate]
    exact short
  have undated : (pageResult length number).publishedAt = none := rfl
  have own : searchSourceId some pageSha256 (pageResult length number).url =
      some (pageResult length number).sourceId := rfl
  generalize pageResult length number = result at *
  unfold searchContract
  rw [source, title, undated, own, ← shown]
  simp only [snippet]
  decide

/-- The results for six pages. -/
def pageResults (length : Nat) : List SearchResult :=
  (List.range' 1 6).map (pageResult length)

theorem pageResults_found {length : Nat} (short : length ≤ 4000) :
    (∀ result ∈ pageResults length, ∃ title url snippet,
      normalizeSearchResult some pageSha256 title url snippet none = some result) ∧
    searchWeb some pageSha256 id ⟨"页".toList, 8⟩ (pageResults length) =
      some ⟨"页".toList, pageResults length⟩ := by
  have contract : ∀ result ∈ pageResults length,
      searchContract some pageSha256 result = true := by
    intro result member
    obtain ⟨number, -, rfl⟩ := List.mem_map.mp member
    exact pageResult_contract short
  constructor
  · intro result member
    have plain : result.publishedAt = none ∧ result.truncated = false := by
      obtain ⟨number, -, rfl⟩ := List.mem_map.mp member
      exact ⟨rfl, rfl⟩
    exact ⟨_, _, _, normalizeSearchResult_own (contract result member) plain.1 plain.2⟩
  · have ids : ((pageResults length).map SearchResult.sourceId).Nodup := by
      have same : (pageResults length).map SearchResult.sourceId =
          (List.range' 1 6).map fun number => "web-v1:".toList ++ pageSha256 (pageUrl number) := by
        rw [pageResults, List.map_map]
        rfl
      rw [same]
      decide +kernel
    have six : (pageResults length).length = 6 := by rw [pageResults, List.length_map]; rfl
    have query : ("页".toList : Text) = normalizeWebSearchQuery id "页".toList := by decide +kernel
    refine if_neg ?_
    rw [six]
    simp only [not_or, not_not, List.any_eq_true, Bool.not_eq_true', not_exists, not_and,
      Bool.not_eq_false]
    exact ⟨by decide, by decide, by decide, by decide, query, contract, ids⟩

theorem stringBytes_replicate (c : Char) (length : Nat) :
    stringBytes (List.replicate length c) = length * escapedBytes c + 2 := by
  simp [stringBytes]

/-- Six results of 12000 bytes are too many. -/
theorem search_over {query : Text} {results : List SearchResult} (six : results.length = 6)
    (each : ∀ result ∈ results, 12000 ≤ resultBytes result) : ¬SearchFits query results := by
  have total := List.card_nsmul_le_sum (results.map resultBytes) 12000 fun cost member => by
    obtain ⟨result, listed, rfl⟩ := List.mem_map.mp member
    exact each result listed
  rw [List.length_map, six] at total
  have least : 72000 ≤ 6 • 12000 := by decide
  unfold SearchFits
  omega

/-- Six full snippets of Chinese text are found and cannot be returned. -/
theorem chineseSnippets_refused :
    ¬ ∀ (toolInput : SearchWebInputV1) (results : List SearchResult) (output : SearchWebOutputV1),
      (∀ result ∈ results, ∃ title url snippet,
        normalizeSearchResult some pageSha256 title url snippet none = some result) →
      searchWeb some pageSha256 id toolInput results = some output →
        ∃ text, normalizeOutput (searchWebSpec id) output = .ok text := by
  intro all
  obtain ⟨normal, found⟩ := @pageResults_found 4000 (Nat.le_refl _)
  have contract : ∀ result ∈ pageResults 4000, searchContract some pageSha256 result = true := by
    intro result member
    obtain ⟨number, -, rfl⟩ := List.mem_map.mp member
    exact pageResult_contract (Nat.le_refl _)
  have six : (pageResults 4000).length = 6 := (List.length_map _).trans rfl
  have fits := all _ _ _ normal found
  rw [normalizeOutput_iff rfl] at fits
  refine search_over six ?_ ((search_fits (by rw [six]; decide) (by decide) contract).mp fits)
  intro result listed
  obtain ⟨number, -, rfl⟩ := List.mem_map.mp listed
  have snippet : stringBytes (pageResult 4000 number).snippet = 4000 * 3 + 2 :=
    stringBytes_replicate '页' 4000
  generalize pageResult 4000 number = result at snippet
  unfold resultBytes
  omega

/-- Small results of all three tools are returned. -/
theorem smallResults_returned :
    (∃ text, normalizeOutput (searchWebSpec id) ⟨"页".toList, pageResults 3⟩ = .ok text) ∧
    (∃ output, readExcerpt [⟨7, "app.py", "x = 1".toByteArray⟩]
        ⟨uuidText 7, 1, 1, by decide⟩ = .ok output ∧
      ∃ text, normalizeOutput readExcerptSpec output = .ok text) ∧
    ∃ text, normalizeOutput retrieveMaterialSpec (retrieveMaterial
      [⟨⟨7, "app.py", "x = 1".toByteArray⟩, some 9, "main".toList⟩] [⟨9, "x = 1".toList⟩]) =
        .ok text := by
  obtain ⟨search, excerpt, retrieval⟩ := tool_outputs_fit_iff some pageSha256 id id
  refine ⟨?_, ?_, (retrieval _ _ ?_).mpr (by decide +kernel)⟩
  · exact (search _ _ _ (pageResults_found (by decide)).2).mpr
      (by unfold SearchFits; decide +kernel)
  · have read : (readExcerpt [⟨7, "app.py", "x = 1".toByteArray⟩]
        ⟨uuidText 7, 1, 1, by decide⟩).toOption.isSome = true := by decide +kernel
    cases done : readExcerpt [⟨7, "app.py", "x = 1".toByteArray⟩] ⟨uuidText 7, 1, 1, by decide⟩ with
    | error reason =>
      rw [done] at read
      cases read
    | ok output =>
      obtain ⟨file, text, found, decoded, exactly⟩ := excerpt _ _ _ done
      refine ⟨output, rfl, exactly.mpr ?_⟩
      have only : (⟨7, "app.py", "x = 1".toByteArray⟩ : SnapshotText) = file := by
        simpa using found
      have plain : decodeUtf8 "x = 1".toByteArray = some "x = 1".toList := by decide +kernel
      subst only
      obtain rfl := Option.some.inj (plain.symm.trans decoded)
      decide +kernel
  · have cut : (prepareMaterialFile id ⟨"app.py", "x = 1".toByteArray, 1⟩).toOption.any
        (fun chunks => chunks.map PreparedIngestionChunk.text = ["x = 1".toList]) = true := by
      decide +kernel
    intro hit member
    obtain rfl := List.mem_singleton.mp member
    cases done : prepareMaterialFile id ⟨"app.py", "x = 1".toByteArray, 1⟩ with
    | error reason =>
      rw [done] at cut
      cases cut
    | ok chunks =>
      rw [done] at cut
      have texts : chunks.map PreparedIngestionChunk.text = ["x = 1".toList] := by
        simpa [Except.toOption] using cut
      refine ⟨_, chunks, done, List.mem_map.mp ?_⟩
      rw [texts]
      exact List.mem_cons_self

end Pathfinder
