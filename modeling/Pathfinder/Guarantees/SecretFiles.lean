import Pathfinder.Material.SecretPaths

/-!
# Which secret files are not read

The paths that the reader and its check accept lie below the authorized paths and have no empty
component. The pattern for secrets ends at the end of a path, so that it finds a secret file but
not a directory of the same name, and stops at a line feed.
-/
namespace Pathfinder
open Conditional

-- What is said of the characters of a text is decided along the text, not over the type.
attribute [local instance (2000)] List.decidableBAll ByteArray.instDecidableEq

variable {ports : ReaderPorts} {alias_ : MaterialAlias} {file : DigestedFile}

/-- `str.lower` of an ASCII character or the Kelvin sign. -/
def lowerAscii (c : Char) : Char := if c = '\u212a' then 'k' else c.toLower

/-- What `str.lower` does with ASCII characters and the Kelvin sign. -/
def LowersAscii (lower : Text → Text) : Prop :=
  ∀ text : Text, (∀ c ∈ text, c.toNat < 128 ∨ c = '\u212a') → lower text = text.map lowerAscii

/-! ## Names that the suffixes exclude -/

theorem validateName_ok {path : Text} : validateName ports path = .ok () ↔
    safeRelativePath path = true ∧ secretSearch path = false ∧
      textSuffixes.contains (ports.lower (pathSuffix path)) = true := by
  rw [validateName]
  cases safeRelativePath path <;> cases secretSearch path <;>
    cases textSuffixes.contains (ports.lower (pathSuffix path)) <;> simp

theorem bareSecret_tail {part : Text} (bare : bareSecret part = true) :
    ∀ c ∈ part.tail, c ≠ '.' := by
  obtain ⟨word, listed, found⟩ := List.any_eq_true.mp bare
  obtain ⟨start, whole, written⟩ := behindWord_some.mp (eq_of_beq found)
  have letters : ∀ word ∈ secretNames ++ secretStems, ∀ letter ∈ word.tail,
      ∀ c ∈ letter :: letter.toUpper :: caseFixes letter, c ≠ '.' := by decide
  rw [whole, List.append_nil]
  cases written with
  | nil => exact List.forall_mem_nil _
  | cons here later => exact matched_all (letters _ listed) later

theorem extensionSecret_split {part : Text} (secret : extensionSecret part = true) :
    ∃ before extension word, part = before ++ '.' :: extension ∧ word ∈ secretExtensions ∧
      List.Forall₂ (fun letter c => matchesIgnoringCase letter c = true) word extension := by
  induction part with
  | nil => cases secret
  | cons c rest ih =>
    rw [extensionSecret, Bool.or_eq_true_iff] at secret
    rcases secret with here | later
    · obtain ⟨dot, found⟩ := (Bool.and_eq_true_iff).mp here
      obtain ⟨word, listed, found⟩ := List.any_eq_true.mp found
      obtain ⟨start, whole, written⟩ := behindWord_some.mp (eq_of_beq found)
      obtain rfl := of_decide_eq_true dot
      exact ⟨[], start, word, by rw [whole, List.append_nil, List.nil_append], listed, written⟩
    · obtain ⟨before, extension, word, rfl, listed, written⟩ := ih later
      exact ⟨c :: before, extension, word, rfl, listed, written⟩

/-- A letter of an extension is the lower case of what it matches. -/
theorem extension_letters : ∀ word ∈ secretExtensions, ∀ letter ∈ word,
    ∀ c ∈ letter :: letter.toUpper :: caseFixes letter,
      lowerAscii c = letter ∧ (c.toNat < 128 ∨ c = '\u212a') ∧ c ≠ '.' := by
  decide

theorem lowered_matched {word start : Text}
    (letters : ∀ letter ∈ word, ∀ c ∈ letter :: letter.toUpper :: caseFixes letter,
      lowerAscii c = letter)
    (written : List.Forall₂ (fun letter c => matchesIgnoringCase letter c = true) word start) :
    start.map lowerAscii = word := by
  induction written with
  | nil => rfl
  | cons here _ ih =>
    rw [List.map_cons, letters _ List.mem_cons_self _ (matchesIgnoringCase_mem.mp here),
      ih fun letter member => letters letter (List.mem_cons_of_mem _ member)]

/-- No file whose own name is bare or ends in a secret extension has a listed suffix. -/
theorem suffix_excludes (lowers : LowersAscii ports.lower) {path last : Text}
    (named : pathName path = last) (secret : bareSecret last = true ∨ extensionSecret last = true) :
    textSuffixes.contains (ports.lower (pathSuffix path)) = false := by
  have empty : ports.lower [] = [] := lowers [] (List.forall_mem_nil _)
  rcases secret with bare | ends
  · rw [pathSuffix_none named (bareSecret_tail bare), empty]
    decide
  · obtain ⟨before, extension, word, rfl, listed, written⟩ := extensionSecret_split ends
    have letters := extension_letters word listed
    have each : ∀ c ∈ extension, (c.toNat < 128 ∨ c = '\u212a') ∧ c ≠ '.' :=
      matched_all (fun letter member c other => (letters letter member c other).2) written
    rcases pathSuffix_cases named fun c member => (each c member).2 with none | suffix
    · rw [none, empty]
      decide
    · have low : ports.lower ('.' :: extension) = '.' :: word := by
        rw [lowers _ (List.forall_mem_cons.mpr
          ⟨.inl (by decide), fun c member => (each c member).1⟩), List.map_cons,
          lowered_matched (fun letter member c other => (letters letter member c other).1) written]
        rfl
      have excluded : ∀ word ∈ secretExtensions, textSuffixes.contains ('.' :: word) = false := by
        decide
      rw [suffix, low]
      exact excluded word listed

/-! ## Which components the pattern finds -/

/-- No directory has the name of a secret file or its extension, and no line ends in a dotted
secret component or behind it. -/
def GuardedPath (path : Text) : Prop :=
  ∀ before part behind, path.splitOn '/' = before ++ part :: behind →
    (bareSecret part = true ∨ extensionSecret part = true → behind = []) ∧
      (dottedSecret part = true → ∀ later ∈ part :: behind, '\n' ∉ later)

/-- An accepted name has a secret component exactly where it is not guarded. -/
theorem no_secret_component_iff (lowers : LowersAscii ports.lower) {path : Text}
    (named : validateName ports path = .ok ()) :
    (∀ part ∈ path.splitOn '/', secretComponent part = false) ↔ GuardedPath path := by
  obtain ⟨safe, search, listed⟩ := validateName_ok.mp named
  constructor
  · intro none before part behind parts
    have here := none part (by rw [parts]; exact List.mem_append_right _ List.mem_cons_self)
    simp only [secretComponent, Bool.or_eq_false_iff] at here
    obtain ⟨⟨bare, extension⟩, dotted⟩ := here
    refine ⟨fun secret => ?_, fun secret => ?_⟩
    · rw [bare, extension] at secret
      simp at secret
    · rw [dotted] at secret
      cases secret
  · intro guarded part member
    obtain ⟨before, behind, parts⟩ := List.append_of_mem member
    obtain ⟨directory, line⟩ := guarded before part behind parts
    have named (secret : bareSecret part = true ∨ extensionSecret part = true) : False := by
      rw [directory secret] at parts
      have last := (safeRelativePath_parts safe).pathName parts
      rw [suffix_excludes lowers last secret] at listed
      cases listed
    have dotted : dottedSecret part = false := by
      refine Bool.eq_false_iff.mpr fun secret => ?_
      have none := secretHere_of_parts search parts
      have line := line secret
      cases behind with
      | nil =>
        rw [List.intercalate_singleton, ← List.append_nil part, secretHere_of_dotted secret] at none
        · cases none
        · rw [List.append_nil]
          exact line part List.mem_cons_self
      | cons second rest =>
        rw [Lines.intercalate_cons_cons, secretHere_of_dotted secret] at none
        · cases none
        · intro inside
          rcases List.mem_append.mp inside with here | later
          · exact line part List.mem_cons_self here
          · have absent : '\n' ∉ ['/'].intercalate (second :: rest) :=
              Lines.intercalate_closed (P := fun text => '\n' ∉ text) List.not_mem_nil
                (fun first second left right both =>
                  (List.mem_append.mp both).elim left right)
                (by decide) fun segment member => line segment (List.mem_cons_of_mem _ member)
            rcases List.mem_cons.mp later with slash | behind
            · cases slash
            · exact absent behind
    have bare : bareSecret part = false := Bool.eq_false_iff.mpr fun secret => named (.inl secret)
    have extension : extensionSecret part = false :=
      Bool.eq_false_iff.mpr fun secret => named (.inr secret)
    rw [secretComponent, bare, extension, dotted]
    rfl

/-! ## What is read -/

theorem authorizes_inside {kind : AliasKind} {path allowed : Text}
    (safe : safeRelativePath allowed = true) (authorized : authorizes kind path allowed = true) :
    path = allowed ∨ allowed ++ ['/'] <+: path := by
  have bare : allowed.rdropWhile (· = '/') = allowed := by
    refine List.rdropWhile_eq_self_iff.mpr fun shown slash => ?_
    have last : allowed = allowed.dropLast ++ '/' :: [] := by
      rw [← of_decide_eq_true slash, List.dropLast_append_getLast]
    have parts := (safeRelativePath_parts safe).parts
    rw [last, List.splitOn_append_cons_self] at parts
    exact (parts [] (List.mem_append_right _ List.mem_cons_self)).1 rfl
  rw [authorizes, bare, Bool.or_eq_true_iff] at authorized
  rcases authorized with same | below
  · exact .inl (eq_of_beq same)
  · exact .inr (List.isPrefixOf_iff_prefix.mp (Bool.and_eq_true_iff.mp below).2)

/-- A path without secret components, below what the alias authorizes. -/
structure SafePath (alias_ : MaterialAlias) (path : Text) : Prop extends RelativeParts path where
  public_ : ∀ part ∈ path.splitOn '/', secretComponent part = false
  inside : ∃ allowed ∈ alias_.paths, path = allowed ∨ allowed ++ ['/'] <+: path

theorem AcceptedFile.safePath_iff (lowers : LowersAscii ports.lower)
    (accepted : AcceptedFile ports alias_ file) :
    SafePath alias_ file.path.toList ↔ GuardedPath file.path.toList := by
  rw [← no_secret_component_iff lowers accepted.named]
  constructor
  · exact SafePath.public_
  · intro none
    obtain ⟨safe, -, -⟩ := validateName_ok.mp accepted.named
    obtain ⟨allowed, listed, authorized⟩ := accepted.authorized
    exact { safeRelativePath_parts safe with
      public_ := none
      inside := ⟨allowed, listed, authorizes_inside (alias_.safe allowed listed) authorized⟩ }

theorem read_paths_safe_iff (lowers : LowersAscii ports.lower) (alias_ : MaterialAlias)
    (result : MaterialRead) :
    (readAlias ports alias_ = .ok result →
      ((∀ file ∈ result.files, SafePath alias_ file.path.toList) ↔
        ∀ path ∈ offeredPaths ports alias_, GuardedPath path)) ∧
    (validateMaterialRead ports alias_ result = .ok result →
      ((∀ file ∈ result.files, SafePath alias_ file.path.toList) ↔
        ∀ file ∈ result.files, GuardedPath file.path.toList)) := by
  constructor
  · intro runs
    obtain ⟨accepted, paths⟩ := readAlias_ok runs
    rw [← paths, List.forall_mem_map]
    exact forall₂_congr fun file member => (accepted file member).safePath_iff lowers
  · intro valid
    have accepted := (validateMaterialRead_ok.mp valid).accepted
    exact forall₂_congr fun file member => (accepted file member).safePath_iff lowers

/-! ## A directory of secrets -/

/-- A digest that is known for some texts. -/
def tableDigest (entries : List (Text × String)) (bytes : ByteArray) : Text :=
  match entries.find? fun entry => encodeUtf8 entry.1 = bytes with
  | some entry => entry.2.toList
  | none => List.replicate 64 '0'

def demoAlias : MaterialAlias where
  name := "demo".toList
  kind := .git
  root := "/srv/demo".toList
  paths := ["src".toList]
  workspaceIds := [1]
  commit := some (List.replicate 40 'a')
  named := ⟨'d', "emo".toList, by decide⟩
  rooted := rfl
  nonempty := by decide
  distinct := by decide
  sized := by decide
  committed := by decide
  commitValid := by decide
  safe := by decide

def printContent : Text := "print(1)\n".toList

def demoDigest : Text := "a3c1cfda81621dd404bfc9f46b70f6052630305340a18a6ad71ff0c02488170e".toList

def printDigest : Text := "cc42155088fca5730758db72b2a5bca33112a941dfaa2d43098ec422ce4ea213".toList

def printSnapshot (path : String) : Text :=
  demoDigest ++ List.replicate 40 'a' ++ path.toList ++ ':' :: printDigest ++ ['\n']

/-- A repository of one file. -/
def printPorts (path : String) : ReaderPorts where
  lower text := text.map lowerAscii
  sha256 := tableDigest [(printContent, String.ofList printDigest),
    (demoAlias.canonical, String.ofList demoDigest),
    (printSnapshot "src/app.py",
      "527899eb23a08264617ca2d3efdcea0008fe0b65d5c5a84600687ec8f5e3a88e"),
    (printSnapshot "src/secrets/app.py",
      "d26d12c71f8398fd1cbf048338c96dc18e3dd06b48783c1c9142102036d23b0a")]
  runGit _ command := match command with
    | .revParse commit => .ok (encodeUtf8 commit).toList
    | .lsTree _ _ =>
      .ok (asciiBytes "100644 blob b917a726c93f902e43291d9009d6488385133b67\t" ++
        asciiBytes path ++ [0])
    | .catFile _ => .ok (encodeUtf8 printContent).toList
  readFile _ _ := .error ⟨"file_unavailable"⟩

def printFile (path : String) : DigestedFile where
  path := path
  content := encodeUtf8 printContent
  lineCount := 1
  digest := printDigest

def printRead (path : String) : MaterialRead :=
  materialRead (printPorts path) demoAlias (List.replicate 40 'a') [printFile path]

theorem printPorts_lower (path : String) : LowersAscii (printPorts path).lower := fun _ _ => rfl

theorem printFile_accepted {path : String}
    (named : validateName (printPorts path) path.toList = .ok ())
    (authorized : authorizes .git path.toList "src".toList = true)
    (made : digestedContent (printPorts path) path.toList (encodeUtf8 printContent) =
      .ok (printFile path)) :
    validateMaterialRead (printPorts path) demoAlias (printRead path) = .ok (printRead path) := by
  refine validateMaterialRead_ok.mpr
    { scope := rfl, whole := rfl, shown := List.cons_ne_nil _ _
      count := show 1 ≤ maxSnapshotFiles by decide
      size := show totalContent [printFile path] ≤ maxSnapshotBytes from ?_
      accepted := ?_, distinct := List.pairwise_singleton _ _, covered := ?_
      gitRevision := fun _ => rfl, fileRevision := fun other => by cases other
      digest := by rw [printRead, materialRead] }
  · have size : (encodeUtf8 printContent).size ≤ maxSnapshotBytes := by decide
    exact size
  · exact List.forall_mem_singleton.mpr ⟨named, ⟨_, List.mem_singleton.mpr rfl, authorized⟩, made⟩
  · exact List.forall_mem_singleton.mpr ⟨_, List.mem_singleton.mpr rfl, authorized⟩

theorem printFile_read {path : String}
    (read : readGit (printPorts path) demoAlias (List.replicate 40 'a') = .ok [printFile path]) :
    readAlias (printPorts path) demoAlias = .ok (printRead path) := by
  have size : ¬maxSnapshotBytes < totalContent [printFile path] := by
    have size : (encodeUtf8 printContent).size ≤ maxSnapshotBytes := by decide
    exact not_lt.mpr size
  rw [readAlias, if_neg (by decide)]
  refine bind_ok.mpr ⟨(List.replicate 40 'a', [printFile path]), ?_, ?_⟩
  · exact bind_ok.mpr ⟨_, read, rfl⟩
  · exact if_neg size

theorem printed_app_safe :
    (∀ file ∈ (printRead "src/app.py").files, SafePath demoAlias file.path.toList) ∧
      validateMaterialRead (printPorts "src/app.py") demoAlias (printRead "src/app.py") =
        .ok (printRead "src/app.py") := by
  have lower := printPorts_lower "src/app.py"
  have named : validateName (printPorts "src/app.py") "src/app.py".toList = .ok () := by decide
  have read := @printFile_read "src/app.py" (by decide +kernel)
  have valid := printFile_accepted named (by decide) (by decide +kernel)
  have paths : offeredPaths (printPorts "src/app.py") demoAlias = ["src/app.py".toList] := by
    decide
  have clean : ∀ part ∈ ("src/app.py".toList).splitOn '/', secretComponent part = false := by
    decide
  have guarded : ∀ path ∈ offeredPaths (printPorts "src/app.py") demoAlias,
      GuardedPath path := by
    rw [paths, List.forall_mem_singleton]
    exact (no_secret_component_iff lower named).mp clean
  exact ⟨((read_paths_safe_iff lower demoAlias _).1 read).mpr guarded, valid⟩

/-- A file in a directory of secrets is read and accepted. -/
theorem secrets_directory_read :
    readAlias (printPorts "src/secrets/app.py") demoAlias =
        .ok (printRead "src/secrets/app.py") ∧
      validateMaterialRead (printPorts "src/secrets/app.py") demoAlias
        (printRead "src/secrets/app.py") = .ok (printRead "src/secrets/app.py") ∧
      LowersAscii (printPorts "src/secrets/app.py").lower ∧
      ¬ ∀ file ∈ (printRead "src/secrets/app.py").files,
        SafePath demoAlias file.path.toList := by
  refine ⟨printFile_read (by decide +kernel),
    printFile_accepted (by decide) (by decide) (by decide +kernel), printPorts_lower _,
    fun safe => ?_⟩
  have part := (safe (printFile "src/secrets/app.py") List.mem_cons_self).public_ "secrets".toList
    (by decide)
  revert part
  decide

end Pathfinder
