import Mathlib.Data.List.Nodup
import Mathlib.Data.Set.Function
import Pathfinder.Guarantees.SecretFiles

/-!
# What the digest of a snapshot determines

The digest of a read is taken over the digest of its alias, its revision and a line for each
file. The lines are cut apart by what ends them, which a path may hold as well.
-/
namespace Pathfinder
open JsonTexts

-- What is said of the characters of a text is decided along the text, not over the type.
attribute [local instance (2000)] List.decidableBAll ByteArray.instDecidableEq

variable {ports : ReaderPorts} {alias_ alias' : MaterialAlias} {result result' : MaterialRead}

/-! ## Aliases -/

theorem digits_determine {first second : Nat} (base : Nat) {size : Nat}
    (digits : ∀ i < size, first / base ^ i % base = second / base ^ i % base) :
    first % base ^ size = second % base ^ size := by
  induction size with
  | zero => rw [Nat.pow_zero, Nat.mod_one, Nat.mod_one]
  | succ size ih =>
    rw [Nat.mod_pow_succ, Nat.mod_pow_succ, digits size (Nat.lt_succ_self size),
      ih fun i below => digits i (Nat.lt_succ_of_lt below)]

theorem uuidText_injective {first second : UUID} (sized : first < 2 ^ 128)
    (sized' : second < 2 ^ 128) (same : uuidText first = uuidText second) : first = second := by
  have group (high size : Nat) (same : ((List.range size).map fun i =>
        Nat.digitChar (first / 16 ^ (high - i) % 16)) =
      (List.range size).map fun i => Nat.digitChar (second / 16 ^ (high - i) % 16)) :
      ∀ k < size, first / 16 ^ (high - k) % 16 = second / 16 ^ (high - k) % 16 := fun k below =>
    digitChar_injective _ (Nat.mod_lt _ (by decide)) _ (Nat.mod_lt _ (by decide))
      (List.map_inj_left.mp same k (List.mem_range.mpr below))
  simp only [uuidText, List.append_assoc, List.cons_append] at same
  obtain ⟨one, same⟩ := List.append_inj same (by simp)
  obtain ⟨two, same⟩ := List.append_inj (List.cons.inj same).2 (by simp)
  obtain ⟨three, same⟩ := List.append_inj (List.cons.inj same).2 (by simp)
  obtain ⟨four, same⟩ := List.append_inj (List.cons.inj same).2 (by simp)
  have five := (List.cons.inj same).2
  have digits : ∀ i < 32, first / 16 ^ i % 16 = second / 16 ^ i % 16 := by
    intro i below
    by_cases high : 24 ≤ i
    · have digit := group 31 8 one (31 - i) (by omega)
      rwa [show 31 - (31 - i) = i by omega] at digit
    by_cases high : 20 ≤ i
    · have digit := group 23 4 two (23 - i) (by omega)
      rwa [show 23 - (23 - i) = i by omega] at digit
    by_cases high : 16 ≤ i
    · have digit := group 19 4 three (19 - i) (by omega)
      rwa [show 19 - (19 - i) = i by omega] at digit
    by_cases high : 12 ≤ i
    · have digit := group 15 4 four (15 - i) (by omega)
      rwa [show 15 - (15 - i) = i by omega] at digit
    · have digit := group 11 12 five (11 - i) (by omega)
      rwa [show 11 - (11 - i) = i by omega] at digit
  have whole := digits_determine 16 digits
  rw [show 16 ^ 32 = 2 ^ 128 by decide, Nat.mod_eq_of_lt sized, Nat.mod_eq_of_lt sized'] at whole
  exact whole

theorem map_uuidText_injective {first second : List UUID} (sized : ∀ id ∈ first, id < 2 ^ 128)
    (sized' : ∀ id ∈ second, id < 2 ^ 128)
    (same : first.map uuidText = second.map uuidText) : first = second := by
  induction first generalizing second with
  | nil => exact (List.map_eq_nil_iff.mp same.symm).symm
  | cons id rest ih =>
    cases second with
    | nil => cases same
    | cons id' rest' =>
      obtain ⟨here, later⟩ := List.cons.inj same
      obtain ⟨small, sized⟩ := List.forall_mem_cons.mp sized
      obtain ⟨small', sized'⟩ := List.forall_mem_cons.mp sized'
      rw [uuidText_injective small small' here, ih sized sized' later]

theorem commitJson_cancel {first second : Option Text} {rest rest' : Text}
    (same : commitJson first ++ rest = commitJson second ++ rest') :
    first = second ∧ rest = rest' := by
  cases first with
  | none =>
    cases second with
    | none => exact ⟨rfl, List.append_cancel_left same⟩
    | some commit => exact absurd (List.cons.inj same).1 (by decide)
  | some commit =>
    cases second with
    | none => exact absurd (List.cons.inj same).1 (by decide)
    | some commit' =>
      obtain ⟨text, behind⟩ := quotedAscii_cancel same
      exact ⟨congrArg some text, behind⟩

theorem AliasKind.value_injective : Function.Injective AliasKind.value := by
  intro first second same
  cases first <;> cases second <;> first | rfl | exact absurd same (by decide)

/-- An alias is read back from a text of its fields behind any keys. -/
theorem MaterialAlias.fields_injective {commitKey kindKey nameKey pathsKey rootKey idsKey
    stop : Text}
    (same : commitKey ++ (commitJson alias_.commit ++ (kindKey ++ (quotedAscii alias_.kind.value ++
      (nameKey ++ (quotedAscii alias_.name ++ (pathsKey ++ (arrayAscii alias_.paths ++
      (rootKey ++ (quotedAscii alias_.root ++ (idsKey ++
      (arrayAscii (alias_.workspaceIds.map uuidText) ++ stop))))))))))) =
      commitKey ++ (commitJson alias'.commit ++ (kindKey ++ (quotedAscii alias'.kind.value ++
      (nameKey ++ (quotedAscii alias'.name ++ (pathsKey ++ (arrayAscii alias'.paths ++
      (rootKey ++ (quotedAscii alias'.root ++ (idsKey ++
      (arrayAscii (alias'.workspaceIds.map uuidText) ++ stop)))))))))))) :
    alias_ = alias' := by
  obtain ⟨commit, same⟩ := commitJson_cancel (List.append_cancel_left same)
  obtain ⟨kind, same⟩ := quotedAscii_cancel (List.append_cancel_left same)
  obtain ⟨name, same⟩ := quotedAscii_cancel (List.append_cancel_left same)
  obtain ⟨paths, same⟩ := arrayAscii_cancel (List.append_cancel_left same)
  obtain ⟨root, same⟩ := quotedAscii_cancel (List.append_cancel_left same)
  obtain ⟨ids, -⟩ := arrayAscii_cancel (List.append_cancel_left same)
  have workspaces := map_uuidText_injective alias_.sized alias'.sized ids
  exact MaterialAlias.ext name (AliasKind.value_injective kind) root paths workspaces commit

theorem MaterialAlias.canonical_injective (same : alias_.canonical = alias'.canonical) :
    alias_ = alias' :=
  fields_injective same

/-! ## Manifests -/

/-- `hexdigest()` of SHA-256. -/
def HexDigests (sha256 : ByteArray → Text) : Prop :=
  ∀ bytes, (sha256 bytes).length = 64 ∧ ∀ c ∈ sha256 bytes, c.isDigit || ('a' ≤ c && c ≤ 'f')

/-- Where the lists first differ in a path, neither path begins with the line of the other file. -/
def LinesApart (files others : List DigestedFile) : Prop :=
  ∀ before file rest file' rest', files = before ++ file :: rest →
    others = before ++ file' :: rest' → file.path ≠ file'.path →
    ¬manifestLine file <+: file'.path.toList ∧ ¬manifestLine file' <+: file.path.toList

/-- The text behind one of two paths shows that it is not the beginning of the other, unless the
line of its file is. -/
theorem line_begins_path {path path' digest digest' more more' : Text}
    (hex : ∀ c ∈ digest, c ≠ ':') (differ : path ≠ path') (shorter : path <+: path')
    (same : path ++ ':' :: (digest ++ ['\n']) ++ more =
      path' ++ ':' :: (digest' ++ ['\n']) ++ more') :
    path ++ ':' :: (digest ++ ['\n']) <+: path' := by
  obtain ⟨tail, rfl⟩ := shorter
  rw [List.append_assoc, List.append_assoc, List.append_assoc] at same
  have behind := List.append_cancel_left same
  refine (List.prefix_append_right_inj path).mpr ?_
  cases tail with
  | nil => exact absurd (List.append_nil path).symm differ
  | cons c tail =>
    obtain ⟨rfl, after⟩ := List.cons.inj behind
    refine List.cons_prefix_cons.mpr ⟨rfl, ?_⟩
    rcases List.append_eq_append_iff.mp after with ⟨excess, whole, -⟩ | ⟨excess, whole, rest⟩
    · exact ⟨excess, whole.symm⟩
    · -- The rest of the line begins with the colon of the other line.
      cases excess with
      | nil =>
        rw [List.append_nil] at whole
        exact ⟨[], by rw [whole, List.append_nil]⟩
      | cons d excess =>
        obtain ⟨rfl, -⟩ := List.cons.inj rest
        have inside : ':' ∈ digest ++ ['\n'] := by
          rw [whole]
          exact List.mem_append_right _ List.mem_cons_self
        rcases List.mem_append.mp inside with early | last
        · exact absurd rfl (hex ':' early)
        · cases List.mem_singleton.mp last

theorem hex_not_colon {sha256 : ByteArray → Text} (hex : HexDigests sha256) (bytes : ByteArray) :
    ∀ c ∈ sha256 bytes, c ≠ ':' := by
  rintro c member rfl
  have digit := (hex bytes).2 ':' member
  revert digit
  decide

theorem manifestLine_shown (file : DigestedFile) : manifestLine file ≠ [] :=
  List.append_ne_nil_of_right_ne_nil _ (List.cons_ne_nil _ _)

/-- Lists of files with one manifest are the same where their lines are apart. -/
theorem manifest_injective (hex : HexDigests ports.sha256) {files others : List DigestedFile}
    (accepted : ∀ file ∈ files, AcceptedFile ports alias_ file)
    (accepted' : ∀ file ∈ others, AcceptedFile ports alias' file)
    (distinct : ∀ file ∈ files, ∀ file' ∈ others,
      ports.sha256 file.content = ports.sha256 file'.content → file.content = file'.content)
    (apart : LinesApart files others) (same : manifest files = manifest others) :
    files = others := by
  induction files generalizing others with
  | nil =>
    cases others with
    | nil => rfl
    | cons file' rest' =>
      have none := (List.append_eq_nil_iff.mp same.symm).1
      exact absurd none (manifestLine_shown file')
  | cons file rest ih =>
    cases others with
    | nil =>
      have none := (List.append_eq_nil_iff.mp same).1
      exact absurd none (manifestLine_shown file)
    | cons file' rest' =>
      obtain ⟨here, behind⟩ := List.forall_mem_cons.mp accepted
      obtain ⟨here', behind'⟩ := List.forall_mem_cons.mp accepted'
      have lines : manifestLine file ++ manifest rest = manifestLine file' ++ manifest rest' := same
      have colon : ∀ c ∈ file.digest, c ≠ ':' := by
        rw [here.digest]
        exact hex_not_colon hex _
      have colon' : ∀ c ∈ file'.digest, c ≠ ':' := by
        rw [here'.digest]
        exact hex_not_colon hex _
      have path : file.path = file'.path := by
        by_contra differ
        have texts : file.path.toList ≠ file'.path.toList := fun same =>
          differ (String.toList_inj.mp same)
        obtain ⟨one, other⟩ := apart [] file rest file' rest' rfl rfl differ
        rcases List.prefix_or_prefix_of_prefix
          (List.prefix_append file.path.toList
            (':' :: (file.digest ++ ['\n']) ++ manifest rest))
          ⟨':' :: (file'.digest ++ ['\n']) ++ manifest rest', by
            rw [← List.append_assoc, ← List.append_assoc]; exact lines.symm⟩ with shorter | longer
        · exact one (line_begins_path colon texts shorter lines)
        · exact other (line_begins_path colon' texts.symm longer lines.symm)
      have line : file = file' := by
        have length : file.digest.length = file'.digest.length := by
          rw [here.digest, here'.digest, (hex _).1, (hex _).1]
        have digest : file.digest = file'.digest := by
          simp only [manifestLine, path, List.append_assoc, List.cons_append] at lines
          have after := (List.cons.inj (List.append_cancel_left lines)).2
          exact (List.append_inj after length).1
        rw [here.digest, here'.digest] at digest
        have content := distinct file List.mem_cons_self file' List.mem_cons_self digest
        have made := here.made
        rw [path, content, here'.made] at made
        exact (Except.ok.inj made).symm
      subst line
      rw [ih behind behind' ?_ ?_ (List.append_cancel_left lines)]
      · exact fun one member other member' =>
          distinct one (List.mem_cons_of_mem _ member) other (List.mem_cons_of_mem _ member')
      · intro before one later other later' split split' differ
        exact apart (file :: before) one later other later' (by rw [split]; rfl)
          (by rw [split']; rfl) differ

/-! ## Snapshots -/

/-- The texts whose digests a read holds. -/
def digestedTexts (ports : ReaderPorts) (alias_ : MaterialAlias) (result : MaterialRead) :
    List ByteArray :=
  encodeUtf8 alias_.canonical ::
    encodeUtf8 (snapshotText ports alias_ result.sourceRevision result.files) ::
      result.files.map (·.content)

/-- The texts of two reads. -/
def textsOfBoth (ports : ReaderPorts) (alias_ alias' : MaterialAlias)
    (result result' : MaterialRead) : Set ByteArray :=
  { bytes | bytes ∈ digestedTexts ports alias_ result ∨ bytes ∈ digestedTexts ports alias' result' }

theorem linesApart_self {files others : List DigestedFile} (same : files = others) :
    LinesApart files others := by
  rintro before file rest file' rest' rfl split differ
  obtain ⟨rfl, -⟩ := List.cons.inj (List.append_cancel_left (same.trans split))
  exact absurd rfl differ

theorem same_snapshot_iff (hex : HexDigests ports.sha256)
    (free : Set.InjOn ports.sha256 (textsOfBoth ports alias_ alias' result result'))
    (valid : validateMaterialRead ports alias_ result = .ok result)
    (valid' : validateMaterialRead ports alias' result' = .ok result')
    (same : result.digest = result'.digest) :
    (alias_ = alias' ∧ result.sourceRevision = result'.sourceRevision ∧
      result.files = result'.files) ↔ LinesApart result.files result'.files := by
  refine ⟨fun identity => linesApart_self identity.2.2, fun apart => ?_⟩
  have valid := validateMaterialRead_ok.mp valid
  have valid' := validateMaterialRead_ok.mp valid'
  have texts : snapshotText ports alias_ result.sourceRevision result.files =
      snapshotText ports alias' result'.sourceRevision result'.files := by
    rw [valid.digest, valid'.digest] at same
    refine encodeUtf8_injective (free (.inl ?_) (.inr ?_) same) <;>
      exact List.mem_cons_of_mem _ List.mem_cons_self
  rw [snapshotText, snapshotText, List.append_assoc, List.append_assoc] at texts
  obtain ⟨digests, behind⟩ := List.append_inj texts ((hex _).1.trans (hex _).1.symm)
  obtain rfl : alias_ = alias' := by
    refine MaterialAlias.canonical_injective
      (encodeUtf8_injective (free (.inl ?_) (.inr ?_) digests)) <;> exact List.mem_cons_self
  have sizes : result.sourceRevision.length = result'.sourceRevision.length := by
    cases kind : alias_.kind with
    | git =>
      have revision := (valid.gitRevision kind).trans (valid'.gitRevision kind).symm
      rw [Option.some.inj revision]
    | file => rw [valid.fileRevision kind, valid'.fileRevision kind, (hex _).1, (hex _).1]
  obtain ⟨revisions, manifests⟩ := List.append_inj behind sizes
  refine ⟨rfl, revisions, ?_⟩
  refine manifest_injective hex valid.accepted valid'.accepted ?_ apart manifests
  intro file member file' member' digest
  refine free (.inl ?_) (.inr ?_) digest <;>
    refine List.mem_cons_of_mem _ (List.mem_cons_of_mem _ (List.mem_map.mpr ⟨_, ?_, rfl⟩)) <;>
    assumption

/-! ## A path that holds a line -/

section Table
variable {entries : List (Text × String)}

theorem tableDigest_hex (hex : ∀ entry ∈ entries, entry.2.toList.length = 64 ∧
    ∀ c ∈ entry.2.toList, c.isDigit || ('a' ≤ c && c ≤ 'f')) :
    HexDigests (tableDigest entries) := by
  intro bytes
  rw [tableDigest]
  split
  next found => exact hex _ (List.mem_of_find?_eq_some found)
  next => decide

theorem tableDigest_listed {text : Text} {entry : Text × String}
    (found : entries.find? (fun entry => entry.1 = text) = some entry) :
    tableDigest entries (encodeUtf8 text) = entry.2.toList := by
  have texts : (fun entry : Text × String => decide (encodeUtf8 entry.1 = encodeUtf8 text)) =
      fun entry => decide (entry.1 = text) :=
    funext fun entry => decide_eq_decide.mpr encodeUtf8_injective.eq_iff
  rw [tableDigest, texts, found]

/-- Every entry is found under its text where the texts are distinct. -/
theorem find_listed (distinct : (entries.map Prod.fst).Nodup) : ∀ entry ∈ entries,
    entries.find? (fun other => other.1 = entry.1) = some entry := by
  induction entries with
  | nil => exact nofun
  | cons first rest ih =>
    rw [List.map_cons, List.nodup_cons] at distinct
    refine List.forall_mem_cons.mpr ⟨List.find?_cons_of_pos (by simp), fun entry later => ?_⟩
    have apart : first.1 ≠ entry.1 := fun same =>
      distinct.1 (same ▸ List.mem_map_of_mem later)
    rw [List.find?_cons_of_neg (by simpa using apart), ih distinct.2 entry later]

theorem tableDigest_injOn {texts : Set ByteArray}
    (found : ∀ entry ∈ entries,
      entries.find? (fun other => other.1 = entry.1) = some entry)
    (digests : ∀ entry ∈ entries, ∀ other ∈ entries, entry.2 = other.2 → entry.1 = other.1)
    (listed : ∀ bytes ∈ texts, ∃ entry ∈ entries, bytes = encodeUtf8 entry.1) :
    Set.InjOn (tableDigest entries) texts := by
  intro first member second member' same
  obtain ⟨entry, here, rfl⟩ := listed first member
  obtain ⟨other, there, rfl⟩ := listed second member'
  rw [tableDigest_listed (found entry here), tableDigest_listed (found other there)] at same
  rw [digests entry here other there (String.toList_inj.mp same)]

end Table

def assignA : Text := "a = 1\n".toList

def assignB : Text := "b = 2\n".toList

def assignDigestA : Text :=
  "cb78bd8a17f7b751fe0d4663366dcbc257204033ef7ddd64b1f2969573b5b2e2".toList

def assignDigestB : Text :=
  "17dd98c94951360cbd9b278de6650598290a9f9121367458640c94bfbbd2c037".toList

def assignFileA : DigestedFile where
  path := "src/a.py"
  content := encodeUtf8 assignA
  lineCount := 1
  digest := assignDigestA

def assignFileB : DigestedFile where
  path := "src/b.py"
  content := encodeUtf8 assignB
  lineCount := 1
  digest := assignDigestB

/-- A file whose path holds the line of the first file in front of the path of the second. -/
def assignFileAB : DigestedFile where
  path := String.ofList (manifestLine assignFileA ++ "src/b.py".toList)
  content := encodeUtf8 assignB
  lineCount := 1
  digest := assignDigestB

def assignSnapshot : Text :=
  demoDigest ++ List.replicate 40 'a' ++ manifest [assignFileA, assignFileB]

def assignEntries : List (Text × String) :=
  [(assignA, String.ofList assignDigestA), (assignB, String.ofList assignDigestB),
    (demoAlias.canonical, String.ofList demoDigest),
    (assignSnapshot, "f5fdb731c672a9e5b8e66b4b759195300379c501bba88b749dc1c844967dbc8d")]

def assignPorts : ReaderPorts where
  lower text := text.map lowerAscii
  sha256 := tableDigest assignEntries
  runGit _ _ := .error ⟨"git_unavailable"⟩
  readFile _ _ := .error ⟨"file_unavailable"⟩

def assignRead (files : List DigestedFile) : MaterialRead :=
  materialRead assignPorts demoAlias (List.replicate 40 'a') files

theorem assignPorts_hex : HexDigests assignPorts.sha256 := by
  have first : isHexDigest assignDigestA = true := isHexDigest_ofList (by decide)
  have second : isHexDigest assignDigestB = true := isHexDigest_ofList (by decide)
  have third : isHexDigest demoDigest = true := isHexDigest_ofList (by decide)
  refine tableDigest_hex ?_
  simp only [assignEntries, List.forall_mem_cons, ← isHexDigest_iff]
  exact ⟨isHexDigest_ofList first, isHexDigest_ofList second, isHexDigest_ofList third,
    isHexDigest_ofList (by decide), nofun⟩

theorem assignEntries_found : ∀ entry ∈ assignEntries,
    assignEntries.find? (fun other => other.1 = entry.1) = some entry :=
  find_listed (by simp only [assignEntries, List.map_cons, List.map_nil]; decide)

theorem assignPorts_sha256 {text : Text} {digest : String}
    (listed : (text, digest) ∈ assignEntries) :
    assignPorts.sha256 (encodeUtf8 text) = digest.toList := by
  exact tableDigest_listed (assignEntries_found _ listed)

theorem assign_bounded {path : String} {text : Text}
    (small : (encodeUtf8 text).size ≤ maxMaterialFileBytes)
    (plain : (encodeUtf8 text).data.contains 0 = false) (line : (splitlines text).length = 1) :
    boundedContent path (encodeUtf8 text) =
      .ok { path := path, content := encodeUtf8 text, lineCount := 1 } := by
  rw [boundedContent, if_neg (Nat.not_lt.mpr small), plain, if_neg Bool.false_ne_true,
    decodeUtf8_encodeUtf8]
  simp only [line]

theorem assign_plain : (encodeUtf8 assignA).data.contains 0 = false ∧
    (encodeUtf8 assignB).data.contains 0 = false := by
  decide +kernel

theorem assign_made {path : String} {text : Text} {digest : String}
    (listed : (text, digest) ∈ assignEntries)
    (plain : boundedContent path (encodeUtf8 text) =
      .ok { path := path, content := encodeUtf8 text, lineCount := 1 }) :
    digestedContent assignPorts path.toList (encodeUtf8 text) =
      .ok { path, content := encodeUtf8 text, lineCount := 1, digest := digest.toList } := by
  rw [digestedContent, String.ofList_toList, plain, ← assignPorts_sha256 listed]
  rfl

theorem assignFileA_made : digestedContent assignPorts assignFileA.path.toList
    assignFileA.content = .ok assignFileA :=
  @assign_made _ _ (String.ofList assignDigestA) List.mem_cons_self
    (assign_bounded (by decide) assign_plain.1 (by decide))

theorem assignFileB_made : digestedContent assignPorts assignFileB.path.toList
    assignFileB.content = .ok assignFileB :=
  @assign_made _ _ (String.ofList assignDigestB) (.tail _ List.mem_cons_self)
    (assign_bounded (by decide) assign_plain.2 (by decide))

theorem assignFileAB_made : digestedContent assignPorts assignFileAB.path.toList
    assignFileAB.content = .ok assignFileAB :=
  @assign_made _ _ (String.ofList assignDigestB) (.tail _ List.mem_cons_self)
    (assign_bounded (by decide) assign_plain.2 (by decide))

theorem assign_accepted {file : DigestedFile}
    (named : validateName assignPorts file.path.toList = .ok ())
    (authorized : authorizes .git file.path.toList "src".toList = true)
    (made : digestedContent assignPorts file.path.toList file.content = .ok file) :
    AcceptedFile assignPorts demoAlias file :=
  ⟨named, ⟨_, List.mem_singleton.mpr rfl, authorized⟩, made⟩

theorem assignRead_valid {files : List DigestedFile} (shown : files ≠ [])
    (count : files.length ≤ maxSnapshotFiles) (size : totalContent files ≤ maxSnapshotBytes)
    (distinct : (files.map (·.path.toList)).Nodup)
    (accepted : ∀ file ∈ files, AcceptedFile assignPorts demoAlias file) :
    validateMaterialRead assignPorts demoAlias (assignRead files) = .ok (assignRead files) := by
  refine validateMaterialRead_ok.mpr
    { scope := rfl, whole := rfl, shown, count, size, accepted, distinct, covered := ?_
      gitRevision := fun _ => rfl, fileRevision := fun other => by cases other
      digest := by rw [assignRead, materialRead] }
  obtain ⟨file, rest, rfl⟩ := List.exists_cons_of_ne_nil shown
  obtain ⟨allowed, listed, authorized⟩ := (accepted file List.mem_cons_self).authorized
  obtain rfl := List.mem_singleton.mp listed
  exact List.forall_mem_singleton.mpr ⟨file, List.mem_cons_self, authorized⟩

theorem assign_both_valid :
    validateMaterialRead assignPorts demoAlias (assignRead [assignFileA, assignFileB]) =
        .ok (assignRead [assignFileA, assignFileB]) ∧
      validateMaterialRead assignPorts demoAlias (assignRead [assignFileAB]) =
        .ok (assignRead [assignFileAB]) := by
  have sizes : assignFileA.content.size + (assignFileB.content.size + 0) ≤ maxSnapshotBytes ∧
      assignFileAB.content.size + 0 ≤ maxSnapshotBytes := by decide
  constructor
  · refine assignRead_valid (List.cons_ne_nil _ _) (show 2 ≤ maxSnapshotFiles by decide) sizes.1
      (by decide) (List.forall_mem_cons.mpr ⟨?_, List.forall_mem_singleton.mpr ?_⟩)
    · exact assign_accepted (by decide) (by decide) assignFileA_made
    · exact assign_accepted (by decide) (by decide) assignFileB_made
  · refine assignRead_valid (List.cons_ne_nil _ _) (show 1 ≤ maxSnapshotFiles by decide) sizes.2
      (by decide) (List.forall_mem_singleton.mpr ?_)
    exact assign_accepted (by decide) (by decide) assignFileAB_made

theorem assign_manifests : manifest [assignFileAB] = manifest [assignFileA, assignFileB] := by
  simp [manifest, manifestLine, assignFileAB, assignFileB]

theorem assign_texts {files : List DigestedFile}
    (written : manifest files = manifest [assignFileA, assignFileB]) :
    snapshotText assignPorts demoAlias (assignRead files).sourceRevision (assignRead files).files =
      assignSnapshot := by
  have digest : demoAlias.digest assignPorts = demoDigest := by
    rw [MaterialAlias.digest, @assignPorts_sha256 _ (String.ofList demoDigest)
      (.tail _ (.tail _ List.mem_cons_self)), String.toList_ofList]
  change demoAlias.digest assignPorts ++ List.replicate 40 'a' ++ manifest files = _
  rw [digest, written, assignSnapshot]

theorem assign_listed {files : List DigestedFile} {bytes : ByteArray}
    (written : manifest files = manifest [assignFileA, assignFileB])
    (contents : ∀ file ∈ files, file.content = encodeUtf8 assignA ∨
      file.content = encodeUtf8 assignB)
    (member : bytes ∈ digestedTexts assignPorts demoAlias (assignRead files)) :
    ∃ entry ∈ assignEntries, bytes = encodeUtf8 entry.1 := by
  rw [digestedTexts, assign_texts written] at member
  rcases List.mem_cons.mp member with here | member
  · exact ⟨(_, String.ofList demoDigest), .tail _ (.tail _ List.mem_cons_self), here⟩
  rcases List.mem_cons.mp member with here | member
  · exact ⟨(assignSnapshot, _), .tail _ (.tail _ (.tail _ List.mem_cons_self)), here⟩
  · obtain ⟨file, inside, held⟩ := List.mem_map.mp member
    rcases contents file inside with first | second
    · exact ⟨(assignA, String.ofList assignDigestA), List.mem_cons_self, held.symm.trans first⟩
    · exact ⟨(assignB, String.ofList assignDigestB), .tail _ List.mem_cons_self,
        held.symm.trans second⟩

theorem assign_free : Set.InjOn assignPorts.sha256 (textsOfBoth assignPorts demoAlias demoAlias
    (assignRead [assignFileA, assignFileB]) (assignRead [assignFileAB])) := by
  refine tableDigest_injOn assignEntries_found (fun entry here other there same => ?_)
    fun bytes member => ?_
  · have distinct : (assignEntries.map fun entry => entry.2.toList).Nodup := by
      simp only [assignEntries, List.map_cons, List.map_nil, String.toList_ofList]
      decide
    rw [List.inj_on_of_nodup_map distinct here there (congrArg String.toList same)]
  rcases member with first | second
  · exact assign_listed rfl (List.forall_mem_cons.mpr
      ⟨.inl rfl, List.forall_mem_singleton.mpr (.inr rfl)⟩) first
  · exact assign_listed assign_manifests (List.forall_mem_singleton.mpr (.inr rfl)) second

theorem assign_digests : (assignRead [assignFileA, assignFileB]).digest =
    (assignRead [assignFileAB]).digest := by
  obtain ⟨two, one⟩ := assign_both_valid
  rw [(validateMaterialRead_ok.mp two).digest, (validateMaterialRead_ok.mp one).digest,
    assign_texts rfl, assign_texts assign_manifests]

/-- Two files and the one of both lines have one digest. -/
theorem assign_files_collide :
    validateMaterialRead assignPorts demoAlias (assignRead [assignFileA, assignFileB]) =
        .ok (assignRead [assignFileA, assignFileB]) ∧
      validateMaterialRead assignPorts demoAlias (assignRead [assignFileAB]) =
        .ok (assignRead [assignFileAB]) ∧
      HexDigests assignPorts.sha256 ∧
      Set.InjOn assignPorts.sha256 (textsOfBoth assignPorts demoAlias demoAlias
        (assignRead [assignFileA, assignFileB]) (assignRead [assignFileAB])) ∧
      (assignRead [assignFileA, assignFileB]).digest = (assignRead [assignFileAB]).digest ∧
      (assignRead [assignFileA, assignFileB]).files ≠ (assignRead [assignFileAB]).files := by
  refine ⟨assign_both_valid.1, assign_both_valid.2, assignPorts_hex, assign_free, assign_digests,
    fun same => ?_⟩
  cases congrArg List.length same

theorem assign_lines_meet :
    ¬LinesApart (assignRead [assignFileA, assignFileB]).files (assignRead [assignFileAB]).files :=
  fun apart => by
    have identity := (same_snapshot_iff assignPorts_hex assign_free assign_both_valid.1
      assign_both_valid.2 assign_digests).mpr apart
    cases congrArg List.length identity.2.2

end Pathfinder
