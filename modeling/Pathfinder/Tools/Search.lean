import Pathfinder.Domain.PythonText
import Pathfinder.Library.Json
import Pathfinder.Material.Shown
import Pathfinder.Tools.Registry

/-!
# The search tool

`normalize_search_result` of `tools/search.py` and `tools/web_search.py`.
`canonicalize_search_url` is a parameter: its answers are those of the URL parser, the `idna`
codec and pydantic's URL. So are NFKC and the digest of a text.
-/
namespace Pathfinder
open JsonTexts

structure SearchResult where
  sourceId : Text
  title : Text
  url : Text
  snippet : Text
  publishedAt : Option Text
  truncated : Bool
  deriving DecidableEq, Repr

variable (canonicalizeSearchUrl : Text → Option Text) (sha256 nfkc : Text → Text)

/-- `search_source_id`. -/
def searchSourceId (canonicalUrl : Text) : Option Text :=
  (canonicalizeSearchUrl canonicalUrl).map fun normalized =>
    "web-v1:".toList ++ sha256 normalized

/-- `^web-v1:[0-9a-f]{64}$`. -/
def isSearchSourceId (text : Text) : Bool :=
  "web-v1:".toList.isPrefixOf text && text.length = 71 &&
    (text.drop 7).all fun c => c.isDigit || ('a' ≤ c && c ≤ 'f')

theorem isSearchSourceId_digest {digits : Text} (hex : isHexDigest digits = true) :
    isSearchSourceId ("web-v1:".toList ++ digits) = true := by
  obtain ⟨length, digits_⟩ := isHexDigest_iff.mp hex
  have prefixed : "web-v1:".toList.isPrefixOf ("web-v1:".toList ++ digits) = true :=
    List.isPrefixOf_iff_prefix.mpr (List.prefix_append _ _)
  have whole : ("web-v1:".toList ++ digits).length = 71 := by
    rw [List.length_append, length]
    rfl
  have rest : ("web-v1:".toList ++ digits).drop 7 = digits := List.drop_left' rfl
  rw [isSearchSourceId, prefixed, whole, rest]
  simpa using digits_

/-- The text is its own `strip()` and shows something. -/
def trimmed (text : Text) : Bool := stripText text ≠ [] && text = stripText text

/-- The fields of `SearchResult` and its validator; `SearchWebResultV1` has the same ones. -/
def searchContract (result : SearchResult) : Bool :=
  isSearchSourceId result.sourceId && result.title.length ≤ 500 && result.snippet.length ≤ 4000 &&
    result.publishedAt.all (fun published => published.length ≤ 64 && trimmed published) &&
    canonicalizeSearchUrl result.url = some result.url &&
    searchSourceId canonicalizeSearchUrl sha256 result.url = some result.sourceId &&
    trimmed result.title && result.snippet = stripText result.snippet

/-- `normalize_search_result`; none where it raises `SearchResponseError`. -/
def normalizeSearchResult (title url snippet : Text) (publishedAt : Option Text) :
    Option SearchResult := do
  let normalizedTitle := stripText title
  let normalizedSnippet := stripText snippet
  if normalizedTitle = [] then none
  let normalizedPublishedAt ← match publishedAt with
    | none => some none
    | some published =>
      if stripText published = [] ∨ 64 < (stripText published).length then none
      else some (some (stripText published))
  let canonicalUrl ← canonicalizeSearchUrl url
  let result : SearchResult :=
    { sourceId := ← searchSourceId canonicalizeSearchUrl sha256 canonicalUrl
      title := normalizedTitle.take 500
      url := canonicalUrl
      snippet := normalizedSnippet.take 4000
      publishedAt := normalizedPublishedAt
      truncated := 500 < normalizedTitle.length ∨ 4000 < normalizedSnippet.length }
  if searchContract canonicalizeSearchUrl sha256 result then some result else none

/-! ## The tool -/

/-- `text.split()`, with what has been read of the first word. -/
def splitWords (word : Text) : Text → List Text
  | [] => if word = [] then [] else [word]
  | c :: rest =>
    if isPythonSpace c then (if word = [] then [] else [word]) ++ splitWords [] rest
    else splitWords (word ++ [c]) rest

/-- `normalize_web_search_query`. -/
def normalizeWebSearchQuery (value : Text) : Text :=
  [' '].intercalate (splitWords [] (nfkc value))

structure SearchWebInputV1 where
  query : Text
  maxResults : Nat

/-- `SearchWebInputV1.model_validate` of the arguments of a call. -/
def searchWebInput (arguments : List (String × Json)) : Option SearchWebInputV1 :=
  match arguments.lookup "query", arguments.lookup "max_results" with
  | some (.string query), some (.number maxResults) =>
    if arguments.length = 2 ∧ 1 ≤ query.length ∧ query.length ≤ 2000 ∧ 1 ≤ maxResults ∧
        maxResults ≤ 8 ∧ normalizeWebSearchQuery nfkc query ≠ [] then
      some ⟨normalizeWebSearchQuery nfkc query, maxResults⟩
    else none
  | _, _ => none

/-- `SearchWebOutputV1`; the rank of a result is its position. -/
structure SearchWebOutputV1 where
  query : Text
  results : List SearchResult
  deriving DecidableEq, Repr

/-- `SearchWebHandler.__call__` with what the port answers; none where a check raises. -/
def searchWeb (toolInput : SearchWebInputV1) (results : List SearchResult) :
    Option SearchWebOutputV1 :=
  if toolInput.maxResults < results.length ∨ 8 < results.length ∨ toolInput.query.length < 1 ∨
      2000 < toolInput.query.length ∨
      toolInput.query ≠ normalizeWebSearchQuery nfkc toolInput.query ∨
      (results.any fun result => !searchContract canonicalizeSearchUrl sha256 result) ∨
      ¬(results.map SearchResult.sourceId).Nodup then none
  else some ⟨toolInput.query, results⟩

/-- A result as `model_dump` and `json.dumps` write it, its keys sorted. -/
def SearchResult.payload (rank : Nat) (result : SearchResult) : Json :=
  .object [("canonical_url".toList, .string result.url),
    ("published_at".toList, result.publishedAt.elim .null .string),
    ("rank".toList, .number rank), ("snippet".toList, .string result.snippet),
    ("source_id".toList, .string result.sourceId), ("title".toList, .string result.title),
    ("truncated".toList, .bool result.truncated)]

def SearchWebOutputV1.payload (output : SearchWebOutputV1) : Json :=
  .object [("query".toList, .string output.query),
    ("result_count".toList, .number output.results.length),
    ("results".toList, .array ((output.results.zipIdx 1).map fun (result, rank) =>
      result.payload rank))]

/-- The text of a payload, as code points. -/
def dumped (payload : Json) : CodePoints := (write payload).map Char.toNat

def searchWebSpec : ToolSpec Json SearchWebOutputV1 where
  name := "search_web"
  effect := .readOnly
  timeoutSeconds := 10
  maxAttempts := 2
  perRunCallLimit := 8
  maxOutputBytes := 64 * 1024
  validInput arguments := (searchWebInput nfkc arguments).isSome
  serialize output := .ok (dumped output.payload)
  positive := by norm_num
  retries _ := rfl

end Pathfinder

/-!
## The material tools

`tools/material_retrieval.py` and the bounds of `DocumentRetrievalService`. A file of the scope has
its text in `SnapshotText`; an embedding and the distance of a hit do not touch what is shown.
-/
namespace Pathfinder
open JsonTexts

/-- `ScopedMaterialFile`. -/
structure ScopedMaterialFile extends SnapshotText where
  documentId : Option UUID
  sourceRevision : Text

/-- A chunk that the repository found, as far as the tool reads it. -/
structure RetrievedDocumentChunk where
  documentId : UUID
  text : Text

def retrievalTopK : Nat := 5
def retrievalContextByteBudget : Nat := 4000
def retrievedChunkTextByteLimit : Nat := 800

/-- The loop of `_retrieve_bounded` over at most `retrievalTopK` hits. -/
def boundedHits : Nat → List RetrievedDocumentChunk → List RetrievedDocumentChunk
  | _, [] => []
  | remaining, hit :: rest =>
    let text := takeUtf8 (min retrievedChunkTextByteLimit remaining) hit.text
    if text = [] then []
    else if remaining - utf8Length text = 0 then [{ hit with text := text }]
    else { hit with text := text } :: boundedHits (remaining - utf8Length text) rest

structure MaterialHitV1 where
  fileRef : UUID
  path : Text
  sourceRevision : Text
  untrustedText : Text

/-- `RetrieveMaterialHandler.__call__` with what the repository found. -/
def retrieveMaterial (files : List ScopedMaterialFile) (found : List RetrievedDocumentChunk) :
    List MaterialHitV1 :=
  ((boundedHits retrievalContextByteBudget (found.take retrievalTopK)).flatMap fun hit =>
    (files.filter fun file => file.documentId = some hit.documentId).map fun file =>
      { fileRef := file.id, path := file.path.toList, sourceRevision := file.sourceRevision
        untrustedText := hit.text }).take 5

def MaterialHitV1.payload (hit : MaterialHitV1) : Json :=
  .object [("file_ref".toList, .string (uuidText hit.fileRef)), ("path".toList, .string hit.path),
    ("source_revision".toList, .string hit.sourceRevision),
    ("untrusted_text".toList, .string hit.untrustedText)]

/-- `RetrieveMaterialOutputV1` as it is dumped. -/
def retrievedPayload (hits : List MaterialHitV1) : Json :=
  .object [("results".toList, .array (hits.map MaterialHitV1.payload))]

def ReadExcerptOutputV1.payload (output : ReadExcerptOutputV1) : Json :=
  .object [("end_line".toList, .number output.endLine),
    ("file_ref".toList, .string (uuidText output.fileRef)),
    ("path".toList, .string output.path.toList), ("start_line".toList, .number output.startLine),
    ("untrusted_text".toList, .string output.untrustedText)]

/-- `RetrieveMaterialInputV1` accepts the arguments. -/
def retrieveMaterialInput (arguments : List (String × Json)) : Bool :=
  match arguments with
  | [("query", .string query)] => 1 ≤ query.length && query.length ≤ 2000
  | _ => false

/-- `ReadExcerptInputV1` accepts the arguments. -/
def readExcerptInput (arguments : List (String × Json)) : Bool :=
  match arguments.lookup "file_ref", arguments.lookup "start_line", arguments.lookup "end_line" with
  | some (.string fileRef), some (.number startLine), some (.number endLine) =>
    arguments.length = 3 && fileRef.length = 36 &&
      (fileRef.all fun c => c.isDigit || ('a' ≤ c && c ≤ 'f') || c = '-') && 1 ≤ startLine &&
      1 ≤ endLine
  | _, _, _ => false

def retrieveMaterialSpec : ToolSpec Json (List MaterialHitV1) where
  name := "retrieve_project_material"
  effect := .readOnly
  timeoutSeconds := 30
  maxAttempts := 1
  perRunCallLimit := 8
  maxOutputBytes := 8000
  validInput := retrieveMaterialInput
  serialize hits := .ok (dumped (retrievedPayload hits))
  positive := by norm_num
  retries _ := rfl

theorem readExcerptSpec_positive : (0 : ℚ) < 10 ∧ 1 ≤ 1 ∧ 1 ≤ 8 ∧ 1 ≤ 5000 := by norm_num

def readExcerptSpec : ToolSpec Json ReadExcerptOutputV1 where
  name := "read_material_excerpt"
  effect := .readOnly
  timeoutSeconds := 10
  maxAttempts := 1
  perRunCallLimit := 8
  maxOutputBytes := 5000
  validInput := readExcerptInput
  serialize output := .ok (dumped output.payload)
  positive := readExcerptSpec_positive
  retries _ := rfl

end Pathfinder
