import Mathlib.Data.String.Basic
import Pathfinder.Domain.ProjectFacts

/-!
# How material reaches the extraction model

`_context` of `agents/material_facts.py` and `ReadExcerptHandler` of
`tools/material_retrieval.py`.
-/
namespace Pathfinder

/-- What both take of a snapshot file. -/
structure SnapshotText where
  id : UUID
  path : String
  content : ByteArray

def maxContextBytes : Nat := 16000
def maxContextFileBytes : Nat := 4000

/-- `f"{index}: {line}"`. -/
def numberedLine (number : Nat) (line : Text) : Text :=
  (toString number).toList ++ ':' :: ' ' :: line

/-- The numbered lines of a file, from 1. -/
def numberedLines (lines : List Text) : List Text :=
  (lines.zipIdx 1).map fun entry => numberedLine entry.2 entry.1

/-- The body of a file in the context, cut at `bound` bytes. -/
def contextBody (bound : Nat) (lines : List Text) : Text :=
  takeUtf8 bound (['\n'].intercalate (numberedLines lines))

/-- The loop of `_context` over the sorted files; none where one cannot be decoded. -/
def contextParts : Nat → List SnapshotText → Option (List (SnapshotText × Text))
  | _, [] => some []
  | remaining, item :: rest =>
    if remaining = 0 then some []
    else do
      let text ← decodeUtf8 item.content
      let body := contextBody (min maxContextFileBytes remaining) (splitlines text)
      let parts ← contextParts (remaining - utf8Length body) rest
      return (item, body) :: parts

/-- `(value.path, str(value.id))`, as the files are sorted. -/
def contextOrder (first second : SnapshotText) : Bool :=
  decide (first.path < second.path) ||
    (first.path == second.path && decide (uuidText first.id ≤ uuidText second.id))

/-- `_context`. -/
def materialContext (files : List SnapshotText) : Option Text := do
  let parts ← contextParts maxContextBytes (files.mergeSort contextOrder)
  return "\n\n".toList.intercalate (parts.map fun part =>
    "FILE_REF ".toList ++ uuidText part.1.id ++ " PATH ".toList ++ part.1.path.toList ++
      '\n' :: part.2)

structure ReadExcerptInputV1 where
  fileRef : Text
  startLine : Nat
  endLine : Nat
  placed : 1 ≤ startLine ∧ 1 ≤ endLine

structure ReadExcerptOutputV1 where
  fileRef : UUID
  path : String
  startLine : Nat
  endLine : Nat
  untrustedText : Text

/-- `ReadExcerptHandler.__call__`. -/
def readExcerpt (files : List SnapshotText) (toolInput : ReadExcerptInputV1) :
    Except String ReadExcerptOutputV1 :=
  match files.find? fun item => decide (uuidText item.id = toolInput.fileRef) with
  | none => .error "material excerpt is outside allowed scope"
  | some file =>
    if toolInput.endLine < toolInput.startLine ∨
        80 ≤ toolInput.endLine - toolInput.startLine then
      .error "material excerpt is outside allowed scope"
    else match decodeUtf8 file.content with
    | none => .error "invalid utf-8"
    | some text =>
      if (splitlines text).length < toolInput.endLine then
        .error "material excerpt lines are unavailable"
      else
        let value := joinedLines (splitlines text) toolInput.startLine toolInput.endLine
        if 4000 < utf8Length value then .error "material excerpt exceeds the byte limit"
        else .ok
          { fileRef := file.id, path := file.path, startLine := toolInput.startLine
            endLine := toolInput.endLine, untrustedText := value }

end Pathfinder
