import Pathfinder.Domain.IgnoringCase
import Pathfinder.Domain.PythonText
import Pathfinder.Domain.Status
import Pathfinder.Library.AsciiJson
import Pathfinder.Material.Chunking

/-!
# Reading material

`material/reader.py` and `safe_relative_path` of `material/aliases.py`. The answers of Git and of
the file system are parameters, as are the digest of bytes and `str.lower`.
-/
namespace Pathfinder
open JsonTexts

/-- `safe_relative_path` accepts the value. -/
def safeRelativePath (value : Text) : Bool :=
  !(value.isEmpty || value.contains '\\' || value.contains '\x00' || value.head? == some '/' ||
    (value.splitOn '/').any (fun part => part == [] || part == ['.'] || part == ['.', '.']) ||
    pathText value != value)

/-! ## Secret names -/

/-- `$`: the end, or a line feed at the end. -/
def atEnd (rest : Text) : Bool := rest = [] || rest = ['\n']

/-- `.*$`. -/
def lineToEnd : Text → Bool
  | [] => true
  | c :: rest => if c = '\n' then rest = [] else lineToEnd rest

/-- `.*\.(?:word)$` for one of the words. -/
def endsInExtension (words : List Text) : Text → Bool
  | [] => false
  | c :: rest =>
    (c = '.' && words.any fun word => (behindWord word rest).any atEnd) ||
      (c ≠ '\n' && endsInExtension words rest)

/-- The words of `_SECRET` that stand alone. -/
def secretNames : List Text := [".git", "id_rsa", "id_ed25519"].map String.toList

/-- The words of `_SECRET` that a dot and more may follow. -/
def secretStems : List Text := [".env", "credentials", "secret", "secrets"].map String.toList

def secretExtensions : List Text := ["pem", "key", "p12", "pfx"].map String.toList

/-- `_SECRET` behind its `(^|/)`. -/
def secretHere (text : Text) : Bool :=
  (secretNames.any fun word => (behindWord word text).any atEnd) ||
  (secretStems.any fun word => (behindWord word text).any fun rest =>
    atEnd rest || (rest.head? == some '.' && lineToEnd rest.tail)) ||
  endsInExtension secretExtensions text

/-- `_SECRET` behind one of the slashes. -/
def secretBehindSlash : Text → Bool
  | [] => false
  | c :: rest => (c = '/' && secretHere rest) || secretBehindSlash rest

/-- `_SECRET.search(path)`. -/
def secretSearch (path : Text) : Bool := secretHere path || secretBehindSlash path

/-! ## Files -/

/-- `_TEXT_SUFFIXES`. -/
def textSuffixes : List Text :=
  [".py", ".js", ".jsx", ".ts", ".tsx", ".cjs", ".mjs", ".sql", ".sh", ".md", ".txt", ".toml",
    ".json", ".yaml", ".yml"].map String.toList

/-- `MAX_SNAPSHOT_BYTES` and `MAX_SNAPSHOT_FILES`. -/
def maxSnapshotBytes : Nat := 20 * 1024 * 1024

def maxSnapshotFiles : Nat := 2000

/-- `_DEPENDENCY_NAMES`. -/
def dependencyNames : List Text :=
  ["pyproject.toml", "requirements.txt", "package.json", "Cargo.toml", "go.mod"].map String.toList

/-- `_ENTRY_NAMES`. -/
def entryNames : List Text :=
  ["main.py", "app.py", "__main__.py", "index.js", "index.ts", "server.js", "server.ts"].map
    String.toList

/-- `MaterialFile` with its digest. -/
structure DigestedFile extends MaterialFile where
  digest : Text
  deriving DecidableEq

inductive AliasKind where
  | git | file
  deriving DecidableEq, Repr

/-- `MaterialAlias` as `__post_init__` accepts it; a UUID has 128 bits. -/
@[ext]
structure MaterialAlias where
  name : Text
  kind : AliasKind
  root : Text
  paths : List Text
  workspaceIds : List UUID
  commit : Option Text
  named : ∃ first rest, name = first :: rest ∧ first.isLower = true ∧ rest.length ≤ 63 ∧
    ∀ c ∈ rest, c.isLower || c.isDigit || c = '_' || c = '-'
  rooted : root.head? = some '/'
  nonempty : paths ≠ [] ∧ workspaceIds ≠ []
  distinct : paths.Nodup ∧ workspaceIds.Nodup
  sized : ∀ id ∈ workspaceIds, id < 2 ^ 128
  committed : kind = .git ↔ commit.isSome = true
  commitValid : ∀ value ∈ commit, value.length = 40 ∧
    ∀ c ∈ value, c.isDigit || ('a' ≤ c && c ≤ 'f')
  safe : ∀ path ∈ paths, safeRelativePath path = true

def AliasKind.value : AliasKind → Text
  | git => "git".toList
  | file => "file".toList

/-- `json.dumps` of a commit. -/
def commitJson : Option Text → Text
  | none => "null".toList
  | some commit => quotedAscii commit

/-- `canonical` of `MaterialAlias.digest`, in the order of the keys. -/
def MaterialAlias.canonical (alias_ : MaterialAlias) : Text :=
  "\x7b\"commit\":".toList ++ (commitJson alias_.commit ++
    (",\"kind\":".toList ++ (quotedAscii alias_.kind.value ++
    (",\"name\":".toList ++ (quotedAscii alias_.name ++
    (",\"paths\":".toList ++ (arrayAscii alias_.paths ++
    (",\"root\":".toList ++ (quotedAscii alias_.root ++
    (",\"workspace_ids\":".toList ++ (arrayAscii (alias_.workspaceIds.map uuidText) ++
    "\x7d".toList)))))))))))

structure MaterialRead where
  sourceRevision : Text
  authorizedPaths : List Text
  files : List DigestedFile
  dependencyFiles : List Text
  entrypointFiles : List Text
  omittedFiles : List Text
  digest : Text
  deriving DecidableEq

/-! ## The reader -/

/-- The commands of `_git`. -/
inductive GitCommand where
  | revParse (commit : Text)
  | lsTree (commit : Text) (paths : List Text)
  | catFile (oid : List UInt8)

/-- What the reader calls: `str.lower`, the hexadecimal digits of SHA-256, a run of Git below a
root, and a regular file of at most `MAX_FILE_BYTES + 1` bytes read below a root. -/
structure ReaderPorts where
  lower : Text → Text
  sha256 : ByteArray → Text
  runGit : Text → GitCommand → Except MaterialReadError (List UInt8)
  readFile : Text → Text → Except MaterialReadError ByteArray

/-- `_MAX_GIT_OUTPUT`. -/
def maxGitOutput : Nat := 4 * 1024 * 1024

variable (ports : ReaderPorts)

/-- `_validate_name`. -/
def validateName (path : Text) : Except MaterialReadError Unit :=
  if !safeRelativePath path then .error ⟨"unsafe_path"⟩
  else if secretSearch path || !textSuffixes.contains (ports.lower (pathSuffix path)) then
    .error ⟨"forbidden_file"⟩
  else .ok ()

/-- `_bounded_content`. -/
def digestedContent (path : Text) (content : ByteArray) : Except MaterialReadError DigestedFile :=
  (boundedContent (String.ofList path) content).map fun file =>
    { file with digest := ports.sha256 content }

/-- `path == allowed`, or for Git `path.startswith(allowed.rstrip("/") + "/")`. -/
def authorizes (kind : AliasKind) (path allowed : Text) : Bool :=
  path == allowed || (kind == .git && (allowed.rdropWhile (· = '/') ++ ['/']).isPrefixOf path)

def git (root : Text) (command : GitCommand) : Except MaterialReadError (List UInt8) := do
  let output ← ports.runGit root command
  if maxGitOutput < output.length then .error ⟨"inventory_too_large"⟩ else pure output

/-- `bytes.split(separator, 1)` into two. -/
def splitOnce (separator : UInt8) (bytes : List UInt8) : Option (List UInt8 × List UInt8) :=
  if bytes.contains separator then
    some (bytes.takeWhile (· ≠ separator), (bytes.dropWhile (· ≠ separator)).tail)
  else none

/-- An item of `ls-tree`. -/
structure TreeItem where
  mode : List UInt8
  objectType : List UInt8
  oid : List UInt8
  path : Text

/-- The `try` of `_read_git`. -/
def treeItem (item : List UInt8) : Option TreeItem := do
  let (meta_, rawPath) ← splitOnce 9 item
  let (mode, typed) ← splitOnce 32 meta_
  let (objectType, oid) ← splitOnce 32 typed
  let path ← decodeUtf8 ⟨rawPath.toArray⟩
  some { mode, objectType, oid, path }

/-- The bytes of an ASCII text. -/
def asciiBytes (text : String) : List UInt8 := text.toList.map fun c => c.toNat.toUInt8

/-- What the loop of `_read_git` does with an item that is not empty. -/
def readItem (alias_ : MaterialAlias) (files : List DigestedFile) (totalBytes : Nat)
    (item : List UInt8) : Except MaterialReadError DigestedFile :=
  match treeItem item with
  | none => .error ⟨"git_tree_invalid"⟩
  | some entry =>
    if !alias_.paths.any (authorizes .git entry.path) then .error ⟨"git_tree_invalid"⟩
    else do
      validateName ports entry.path
      if (entry.mode ≠ asciiBytes "100644" ∧ entry.mode ≠ asciiBytes "100755") ∨
          entry.objectType ≠ asciiBytes "blob" then .error ⟨"symlink_or_submodule"⟩
      else if maxSnapshotFiles ≤ files.length then .error ⟨"too_many_files"⟩
      else do
        let content ← git ports alias_.root (.catFile entry.oid)
        let file ← digestedContent ports entry.path ⟨content.toArray⟩
        if maxSnapshotBytes < totalBytes + content.length then .error ⟨"snapshot_too_large"⟩
        else pure file

/-- The loop of `_read_git`. -/
def readItems (alias_ : MaterialAlias) (files : List DigestedFile) (totalBytes : Nat) :
    List (List UInt8) → Except MaterialReadError (List DigestedFile)
  | [] => .ok files
  | item :: rest =>
    if item = [] then readItems alias_ files totalBytes rest
    else do
      let file ← readItem ports alias_ files totalBytes item
      readItems alias_ (files ++ [file]) (totalBytes + file.content.size) rest

/-- `bytes.strip()`. -/
def stripBytes (bytes : List UInt8) : List UInt8 :=
  let space := fun byte : UInt8 => byte = 32 || (9 ≤ byte && byte ≤ 13)
  (bytes.dropWhile space).rdropWhile space

/-- `bytes.decode("ascii", errors="ignore")`. -/
def decodeAscii (bytes : List UInt8) : Text :=
  (bytes.filter (· < 128)).map fun byte => Char.ofNat byte.toNat

/-- `_read_git`, of a commit. -/
def readGit (alias_ : MaterialAlias) (commit : Text) :
    Except MaterialReadError (List DigestedFile) := do
  let resolved ← git ports alias_.root (.revParse commit)
  if decodeAscii (stripBytes resolved) ≠ commit then .error ⟨"git_object_missing"⟩
  else do
    let tree ← git ports alias_.root (.lsTree commit alias_.paths)
    let files ← readItems ports alias_ [] 0 (tree.splitOn 0)
    if files = [] then .error ⟨"no_files"⟩ else pure files

/-- `_read_regular`. -/
def readRegular (root relative : Text) : Except MaterialReadError ByteArray := do
  validateName ports relative
  ports.readFile root relative

/-- The loop of `read_alias` over the paths of files. -/
def readPaths (root : Text) (totalBytes : Nat) :
    List Text → Except MaterialReadError (List DigestedFile)
  | [] => .ok []
  | path :: rest => do
    let content ← readRegular ports root path
    let file ← digestedContent ports path content
    if maxSnapshotBytes < totalBytes + content.size then .error ⟨"snapshot_too_large"⟩
    else do
      let files ← readPaths root (totalBytes + content.size) rest
      pure (file :: files)

/-- `f"{item.path}:{item.digest}\n"`. -/
def manifestLine (item : DigestedFile) : Text := item.path.toList ++ ':' :: (item.digest ++ ['\n'])

def manifest (files : List DigestedFile) : Text := files.flatMap manifestLine

def MaterialAlias.digest (alias_ : MaterialAlias) : Text :=
  ports.sha256 (encodeUtf8 alias_.canonical)

/-- The text whose digest identifies a snapshot. -/
def snapshotText (alias_ : MaterialAlias) (revision : Text) (files : List DigestedFile) : Text :=
  alias_.digest ports ++ revision ++ manifest files

def totalContent (files : List DigestedFile) : Nat := (files.map (·.content.size)).sum

/-- What `read_alias` makes of the files of a revision. -/
def materialRead (alias_ : MaterialAlias) (revision : Text) (files : List DigestedFile) :
    MaterialRead :=
  let paths := files.map (·.path.toList)
  { sourceRevision := revision
    authorizedPaths := alias_.paths
    files
    dependencyFiles := paths.filter fun path => dependencyNames.contains (pathName path)
    entrypointFiles := paths.filter fun path => entryNames.contains (pathName path)
    omittedFiles := []
    digest := ports.sha256 (encodeUtf8 (snapshotText ports alias_ revision files)) }

/-- The revision and the files that `read_alias` reads; an alias for Git is one with a commit. -/
def readRevision (alias_ : MaterialAlias) : Except MaterialReadError (Text × List DigestedFile) :=
  match alias_.commit with
  | some commit => do
    let files ← readGit ports alias_ commit
    pure (commit, files)
  | none => do
    let files ← readPaths ports alias_.root 0 alias_.paths
    pure (ports.sha256 (encodeUtf8 (manifest files)), files)

/-- `read_alias`. -/
def readAlias (alias_ : MaterialAlias) : Except MaterialReadError MaterialRead :=
  if maxSnapshotFiles < alias_.paths.length then .error ⟨"too_many_files"⟩
  else do
    let (revision, files) ← readRevision ports alias_
    if maxSnapshotBytes < totalContent files then .error ⟨"snapshot_too_large"⟩
    else pure (materialRead ports alias_ revision files)

/-- The loop of `validate_material_read` over the files. -/
def validateFiles (alias_ : MaterialAlias) (seen : List Text) :
    List DigestedFile → Except MaterialReadError Unit
  | [] => .ok ()
  | item :: rest => do
    let path := item.path.toList
    validateName ports path
    if seen.contains path || !alias_.paths.any (authorizes alias_.kind path) then
      .error ⟨"unauthorized_scope"⟩
    else do
      let file ← digestedContent ports path item.content
      if file ≠ item then .error ⟨"content_identity_invalid"⟩
      else validateFiles alias_ (path :: seen) rest

/-- `validate_material_read`. -/
def validateMaterialRead (alias_ : MaterialAlias) (result : MaterialRead) :
    Except MaterialReadError MaterialRead :=
  if result.authorizedPaths ≠ alias_.paths then .error ⟨"unauthorized_scope"⟩
  else if result.omittedFiles ≠ [] then .error ⟨"partial_read"⟩
  else if result.files = [] then .error ⟨"no_files"⟩
  else if maxSnapshotFiles < result.files.length then .error ⟨"too_many_files"⟩
  else if maxSnapshotBytes < totalContent result.files then .error ⟨"snapshot_too_large"⟩
  else do
    validateFiles ports alias_ [] result.files
    if alias_.paths.any fun path => !result.files.any fun item =>
        authorizes alias_.kind item.path.toList path then .error ⟨"partial_read"⟩
    else if alias_.kind = .git ∧ some result.sourceRevision ≠ alias_.commit then
      .error ⟨"source_revision_changed"⟩
    else if alias_.kind = .file ∧
        result.sourceRevision ≠ ports.sha256 (encodeUtf8 (manifest result.files)) then
      .error ⟨"source_revision_changed"⟩
    else if result.digest ≠ ports.sha256
        (encodeUtf8 (snapshotText ports alias_ result.sourceRevision result.files)) then
      .error ⟨"content_identity_invalid"⟩
    else pure result

end Pathfinder
