import Pathfinder.Domain.PythonText

/-!
# Material files and their chunks

`_bounded_content` of `material/reader.py` and `prepare_material_file` of
`material/chunking.py`. Canonical composition (NFC) enters as a function of the
interpreter's Unicode tables. Digests, titles and types of a prepared source do not touch
its chunks and are left out.
-/
namespace Pathfinder

/-- `MaterialReadError`. -/
structure MaterialReadError where
  code : String
  deriving DecidableEq, Repr

attribute [local instance (2000)] ByteArray.instDecidableEq

structure MaterialFile where
  path : String
  content : ByteArray
  lineCount : Nat
  deriving DecidableEq

/-- `MAX_FILE_BYTES`. -/
def maxMaterialFileBytes : Nat := 1024 * 1024

/-- `_bounded_content`. -/
def boundedContent (path : String) (content : ByteArray) : Except MaterialReadError MaterialFile :=
  if maxMaterialFileBytes < content.size then .error ⟨"file_too_large"⟩
  else if content.data.contains 0 then .error ⟨"binary_file"⟩
  else match decodeUtf8 content with
  | none => .error ⟨"invalid_utf8"⟩
  | some text =>
    .ok { path := path, content := content, lineCount := (splitlines text).length }

/-- `text.replace("\r\n", "\n")`. -/
def replaceCrLf : Text → Text
  | [] => []
  | '\r' :: '\n' :: rest => '\n' :: replaceCrLf rest
  | c :: rest => c :: replaceCrLf rest

/-- `raw_text.replace("\r\n", "\n").replace("\r", "\n")`. -/
def normalizeNewlines (text : Text) : Text :=
  (replaceCrLf text).map fun c => if c = '\r' then '\n' else c

variable (nfc : Text → Text)

/-- `normalize_document_content`. -/
def normalizeDocumentContent (text : Text) : Text := nfc (normalizeNewlines text)

/-- `PreparedIngestionChunk`. -/
structure PreparedIngestionChunk where
  ordinal : Nat
  text : Text
  startLine : Nat
  endLine : Nat
  deriving DecidableEq, Repr

/-- The part read so far, unless it is blank. -/
def emittedPart (part : Text) : List Text := if stripText part = [] then [] else [part]

/-- The pieces of a line, of at most 800 bytes each; `part` has been read of the first. -/
def linePieces (part : Text) : Text → List Text
  | [] => emittedPart part
  | c :: rest =>
    if 800 < utf8Length (part ++ [c]) then emittedPart part ++ linePieces [c] rest
    else linePieces (part ++ [c]) rest

/-- The pieces of a text with the numbers of their lines. -/
def numberedPieces (content : Text) : List (Text × Nat) :=
  ((splitlinesKeepends content).zipIdx 1).flatMap fun entry =>
    (linePieces [] entry.1).map fun piece => (piece, entry.2)

/-- `prepare_material_file`. -/
def prepareMaterialFile (item : MaterialFile) :
    Except MaterialReadError (List PreparedIngestionChunk) :=
  match decodeUtf8 item.content with
  | none => .error ⟨"invalid_utf8"⟩
  | some text =>
    let content := normalizeDocumentContent nfc text
    if stripText content = [] ∨ 1024 * 1024 < utf8Length content then
      .error ⟨"empty_or_oversize_file"⟩
    else if numberedPieces content = [] then .error ⟨"empty_file"⟩
    else .ok ((numberedPieces content).zipIdx.map fun entry =>
      { ordinal := entry.2, text := entry.1.1, startLine := entry.1.2, endLine := entry.1.2 })

end Pathfinder
