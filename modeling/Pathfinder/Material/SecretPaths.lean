import Pathfinder.Library.Conditional
import Pathfinder.Library.Lines
import Pathfinder.Material.Reader

/-!
# Secret components of paths

What `_SECRET` is about, component by component, and which of the components of a path it
finds. The suffix of a name decides where the pattern stops short.
-/
namespace Pathfinder
open Lines

/-- A component that is one of the names without more. -/
def bareSecret (part : Text) : Bool :=
  (secretNames ++ secretStems).any fun word => behindWord word part == some []

/-- `.env.*`, `credentials.*`, `secret.*` or `secrets.*`. -/
def dottedSecret (part : Text) : Bool :=
  secretStems.any fun word => (behindWord word part).any fun rest => rest.head? == some '.'

/-- A component that ends in `.pem`, `.key`, `.p12` or `.pfx`. -/
def extensionSecret : Text → Bool
  | [] => false
  | c :: rest =>
    (c = '.' && secretExtensions.any fun word => behindWord word rest == some []) ||
      extensionSecret rest

def secretComponent (part : Text) : Bool :=
  bareSecret part || extensionSecret part || dottedSecret part

/-! ## Where the pattern matches -/

theorem lineToEnd_of_line {rest : Text} (line : '\n' ∉ rest) : lineToEnd rest = true := by
  induction rest with
  | nil => rfl
  | cons c rest ih =>
    rw [lineToEnd, if_neg fun same : c = '\n' => line (same ▸ List.mem_cons_self)]
    exact ih fun member => line (List.mem_cons_of_mem _ member)

theorem secretHere_of_dotted {part more : Text} (dotted : dottedSecret part = true)
    (line : '\n' ∉ part ++ more) : secretHere (part ++ more) = true := by
  obtain ⟨word, listed, found⟩ := List.any_eq_true.mp dotted
  obtain ⟨rest, behind, first⟩ := (Option.any_eq_true _ _).mp found
  cases rest with
  | nil => cases first
  | cons c rest =>
    have behind := behindWord_append behind more
    have toEnd : lineToEnd (rest ++ more) = true := lineToEnd_of_line fun member =>
      line ((behindWord_inside behind).subset (List.mem_cons_of_mem _ member))
    have stem : (secretStems.any fun word => (behindWord word (part ++ more)).any fun rest =>
        atEnd rest || (rest.head? == some '.' && lineToEnd rest.tail)) = true := by
      refine List.any_eq_true.mpr ⟨word, listed, ?_⟩
      rw [behind, Option.any_some, List.cons_append, List.head?_cons, List.tail_cons, toEnd,
        Bool.and_true]
      exact Bool.or_eq_true_iff.mpr (.inr first)
    rw [secretHere, stem, Bool.or_true, Bool.true_or]

theorem secretBehindSlash_append {before text : Text}
    (search : secretBehindSlash (before ++ text) = false) : secretBehindSlash text = false := by
  induction before with
  | nil => exact search
  | cons c before ih =>
    rw [List.cons_append, secretBehindSlash, Bool.or_eq_false_iff] at search
    exact ih search.2

theorem secretSearch_behind {before text : Text}
    (search : secretSearch (before ++ '/' :: text) = false) : secretSearch text = false := by
  have slash := secretBehindSlash_append (Bool.or_eq_false_iff.mp search).2
  rw [secretBehindSlash, Bool.or_eq_false_iff] at slash
  have here : secretHere text = false := by simpa using slash.1
  rw [secretSearch, here, slash.2, Bool.or_false]

/-- The pattern is tried at every component. -/
theorem secretHere_of_parts {path part : Text} {before behind : List Text}
    (search : secretSearch path = false) (parts : path.splitOn '/' = before ++ part :: behind) :
    secretHere (['/'].intercalate (part :: behind)) = false := by
  have whole : path = ['/'].intercalate (before ++ part :: behind) := by
    rw [← parts, List.intercalate_splitOn]
  clear parts
  induction before generalizing path with
  | nil =>
    rw [List.nil_append] at whole
    rw [whole] at search
    exact (Bool.or_eq_false_iff.mp search).1
  | cons first before ih =>
    obtain ⟨second, rest, later⟩ : ∃ second rest, before ++ part :: behind = second :: rest := by
      cases before with
      | nil => exact ⟨_, _, rfl⟩
      | cons second before => exact ⟨_, _, rfl⟩
    rw [List.cons_append, later, intercalate_cons_cons] at whole
    rw [whole] at search
    exact ih (secretSearch_behind search) (by rw [later])

/-! ## Names and suffixes -/

/-- What a safe relative path is. -/
structure RelativeParts (path : Text) : Prop where
  relative : path.head? ≠ some '/'
  parts : ∀ part ∈ path.splitOn '/', part ≠ [] ∧ part ≠ ['.'] ∧ part ≠ ['.', '.']

theorem safeRelativePath_parts {path : Text} (safe : safeRelativePath path = true) :
    RelativeParts path := by
  simp only [safeRelativePath, Bool.not_eq_true', Bool.or_eq_false_iff, List.any_eq_false] at safe
  obtain ⟨⟨⟨-, relative⟩, parts⟩, -⟩ := safe
  exact ⟨by simpa using relative, fun part member => by simpa [and_assoc] using parts part member⟩

theorem splitRoot_relative {path : Text} (relative : path.head? ≠ some '/') :
    splitRoot path = ([], path) := by
  cases path with
  | nil => rfl
  | cons c rest =>
    have other : c ≠ '/' := fun same => relative (congrArg some same)
    rw [splitRoot.eq_4] <;> rintro rest' ⟨⟩ <;> exact other rfl

theorem RelativeParts.pathName {path last : Text} {before : List Text} (safe : RelativeParts path)
    (parts : path.splitOn '/' = before ++ [last]) : pathName path = last := by
  have kept : pathParts path = path.splitOn '/' := by
    rw [pathParts, splitRoot_relative safe.relative]
    refine List.filter_eq_self.mpr fun part member => ?_
    obtain ⟨shown, dot, -⟩ := safe.parts part member
    simp [shown, dot]
  rw [Pathfinder.pathName, kept, parts, List.getLastD_concat]

theorem rtakeWhile_append_cons {α : Type*} {keep : α → Bool} {behind : List α} {stop : α}
    (before : List α) (kept : ∀ item ∈ behind, keep item = true) (stops : keep stop = false) :
    (before ++ stop :: behind).rtakeWhile keep = behind ∧
      (before ++ stop :: behind).rdropWhile keep = before ++ [stop] := by
  have reversed : (before ++ stop :: behind).reverse =
      behind.reverse ++ stop :: before.reverse := by simp
  have kept' : ∀ item ∈ behind.reverse, keep item = true := fun item member =>
    kept item (List.mem_reverse.mp member)
  have none : ¬keep stop = true := by simp [stops]
  rw [List.rtakeWhile, List.rdropWhile, reversed, List.takeWhile_append_of_pos kept',
    List.dropWhile_append_of_pos kept', List.takeWhile_cons_of_neg none,
    List.dropWhile_cons_of_neg none]
  simp

/-- A name without a dot, or with one at its beginning only, has no suffix. -/
theorem pathSuffix_none {path name : Text} (named : pathName path = name)
    (dots : ∀ c ∈ name.tail, c ≠ '.') : pathSuffix path = [] := by
  have short : (name.rdropWhile fun c => decide (c ≠ '.')).length ≤ 1 := by
    cases name with
    | nil => exact Nat.zero_le 1
    | cons first rest =>
      have kept : ∀ c ∈ rest, decide (c ≠ '.') = true := fun c member =>
        decide_eq_true (dots c member)
      by_cases dot : first = '.'
      · subst dot
        exact le_of_eq (congrArg List.length
          (rtakeWhile_append_cons [] kept (by decide)).2)
      · have all : (first :: rest).rdropWhile (fun c => decide (c ≠ '.')) = [] := by
          refine List.rdropWhile_eq_nil_iff.mpr fun c member => ?_
          rcases List.mem_cons.mp member with rfl | behind
          · exact decide_eq_true dot
          · exact kept c behind
        rw [all]
        exact Nat.zero_le 1
  simp only [pathSuffix, named]
  exact if_pos (Bool.or_eq_true_iff.mpr (.inr (decide_eq_true short)))

theorem pathSuffix_cases {path before extension : Text}
    (named : pathName path = before ++ '.' :: extension) (dots : ∀ c ∈ extension, c ≠ '.') :
    pathSuffix path = [] ∨ pathSuffix path = '.' :: extension := by
  have kept : ∀ c ∈ extension, decide (c ≠ '.') = true := fun c member =>
    decide_eq_true (dots c member)
  obtain ⟨behind, front⟩ := @rtakeWhile_append_cons _ _ _ '.' before kept (by decide)
  simp only [pathSuffix, named, behind]
  split
  · exact .inl rfl
  · exact .inr rfl

/-!
## What is read and accepted

One lemma for each part of the reader: what its success says. `read_alias` and
`validate_material_read` accept the same files.
-/

open Conditional

variable {ports : ReaderPorts} {alias_ : MaterialAlias}

/-- A file whose name is valid, whose path is authorized and whose data are those of its content. -/
structure AcceptedFile (ports : ReaderPorts) (alias_ : MaterialAlias) (file : DigestedFile) :
    Prop where
  named : validateName ports file.path.toList = .ok ()
  authorized : ∃ allowed ∈ alias_.paths,
    authorizes alias_.kind file.path.toList allowed = true
  made : digestedContent ports file.path.toList file.content = .ok file

theorem digestedContent_ok {path : Text} {content : ByteArray} {file : DigestedFile}
    (made : digestedContent ports path content = .ok file) :
    file.path = String.ofList path ∧ file.content = content ∧
      file.digest = ports.sha256 content := by
  rw [digestedContent, boundedContent] at made
  split at made
  next => cases made
  next =>
    split at made
    next => cases made
    next =>
      split at made
      next => cases made
      next =>
        cases made
        exact ⟨rfl, rfl, rfl⟩

/-- The file is made of its own path and content. -/
theorem digestedContent_self {path : Text} {content : ByteArray} {file : DigestedFile}
    (made : digestedContent ports path content = .ok file) :
    file.path.toList = path ∧ digestedContent ports file.path.toList file.content = .ok file := by
  obtain ⟨named, held, -⟩ := digestedContent_ok made
  have path_ : file.path.toList = path := by rw [named, String.toList_ofList]
  exact ⟨path_, by rw [path_, held, made]⟩

theorem AcceptedFile.digest {file : DigestedFile} (accepted : AcceptedFile ports alias_ file) :
    file.digest = ports.sha256 file.content := (digestedContent_ok accepted.made).2.2

/-! ## `read_alias` -/

theorem readItem_ok {files : List DigestedFile} {total : Nat} {item : List UInt8}
    {file : DigestedFile} (git : alias_.kind = .git)
    (runs : readItem ports alias_ files total item = .ok file) :
    (treeItem item).map TreeItem.path = some file.path.toList ∧
      AcceptedFile ports alias_ file := by
  rw [readItem] at runs
  cases parsed : treeItem item with
  | none =>
    rw [parsed] at runs
    cases runs
  | some entry =>
    rw [parsed] at runs
    simp only [Bool.not_eq_true'] at runs
    split at runs
    next => cases runs
    next known =>
      obtain ⟨⟨⟩, named, runs⟩ := bind_ok.mp runs
      split at runs
      next => cases runs
      next =>
        split at runs
        next => cases runs
        next =>
          obtain ⟨content, -, runs⟩ := bind_ok.mp runs
          obtain ⟨made, digested, runs⟩ := bind_ok.mp runs
          split at runs
          next => cases runs
          next =>
            obtain rfl := pure_ok.mp runs
            obtain ⟨path, again⟩ := digestedContent_self digested
            rw [Bool.not_eq_false] at known
            obtain ⟨allowed, listed, authorized⟩ := List.any_eq_true.mp known
            refine ⟨by rw [path]; rfl, ?_, ⟨allowed, listed, ?_⟩, again⟩
            · rw [path]
              exact named
            · rw [path, git]
              exact authorized

theorem readItems_ok {files read : List DigestedFile} {total : Nat} {items : List (List UInt8)}
    (git : alias_.kind = .git) (runs : readItems ports alias_ files total items = .ok read) :
    ∃ more, read = files ++ more ∧ (∀ file ∈ more, AcceptedFile ports alias_ file) ∧
      more.map (·.path.toList) =
        items.filterMap fun item => (treeItem item).map TreeItem.path := by
  induction items generalizing files total with
  | nil => exact ⟨[], by rw [List.append_nil]; exact (Except.ok.inj runs).symm,
      List.forall_mem_nil _, rfl⟩
  | cons item rest ih =>
    rw [readItems] at runs
    split at runs
    next empty =>
      obtain ⟨more, whole, accepted, paths⟩ := ih runs
      exact ⟨more, whole, accepted, by rw [paths, empty]; rfl⟩
    next =>
      obtain ⟨file, here, runs⟩ := bind_ok.mp runs
      obtain ⟨path, accepted⟩ := readItem_ok git here
      obtain ⟨more, whole, others, paths⟩ := ih runs
      refine ⟨file :: more, by rw [whole, List.append_assoc]; rfl,
        List.forall_mem_cons.mpr ⟨accepted, others⟩, ?_⟩
      rw [List.map_cons, paths,
        List.filterMap_cons_some (f := fun item => (treeItem item).map TreeItem.path) path]

/-- A path is authorized by itself. -/
theorem authorizes_self (kind : AliasKind) (path : Text) : authorizes kind path path = true := by
  rw [authorizes, beq_self_eq_true, Bool.true_or]

theorem readPaths_ok {paths : List Text} {total : Nat} {files : List DigestedFile}
    (listed : paths ⊆ alias_.paths)
    (runs : readPaths ports alias_.root total paths = .ok files) :
    (∀ file ∈ files, AcceptedFile ports alias_ file) ∧ files.map (·.path.toList) = paths := by
  induction paths generalizing total files with
  | nil =>
    obtain rfl := Except.ok.inj runs
    exact ⟨List.forall_mem_nil _, rfl⟩
  | cons path rest ih =>
    rw [readPaths] at runs
    obtain ⟨content, read, runs⟩ := bind_ok.mp runs
    obtain ⟨file, digested, runs⟩ := bind_ok.mp runs
    split at runs
    next => cases runs
    next =>
      obtain ⟨more, later, runs⟩ := bind_ok.mp runs
      obtain rfl := pure_ok.mp runs
      obtain ⟨accepted, paths⟩ := ih (List.subset_of_cons_subset listed) later
      obtain ⟨named, again⟩ := digestedContent_self digested
      obtain ⟨⟨⟩, valid, -⟩ := bind_ok.mp read
      refine ⟨List.forall_mem_cons.mpr
        ⟨⟨?_, ⟨path, listed List.mem_cons_self, ?_⟩, again⟩, accepted⟩, ?_⟩
      · rw [named]
        exact valid
      · rw [named]
        exact authorizes_self _ _
      · rw [List.map_cons, named, paths]

/-- The paths that a Git tree lists, or that an alias names. -/
def offeredPaths (ports : ReaderPorts) (alias_ : MaterialAlias) : List Text :=
  match alias_.commit with
  | some commit =>
    match git ports alias_.root (.lsTree commit alias_.paths) with
    | .ok tree => (tree.splitOn 0).filterMap fun item => (treeItem item).map TreeItem.path
    | .error _ => []
  | none => alias_.paths

theorem readRevision_ok {revision : Text} {files : List DigestedFile}
    (runs : readRevision ports alias_ = .ok (revision, files)) :
    (∀ file ∈ files, AcceptedFile ports alias_ file) ∧
      files.map (·.path.toList) = offeredPaths ports alias_ := by
  rw [readRevision] at runs
  rw [offeredPaths]
  cases held : alias_.commit with
  | none =>
    rw [held] at runs
    obtain ⟨read, paths, runs⟩ := bind_ok.mp runs
    cases pure_ok.mp runs
    exact readPaths_ok (List.Subset.refl _) paths
  | some commit =>
    have kind : alias_.kind = .git := alias_.committed.mpr (by rw [held]; rfl)
    rw [held] at runs
    obtain ⟨read, tree, runs⟩ := bind_ok.mp runs
    cases pure_ok.mp runs
    rw [readGit] at tree
    obtain ⟨_, -, tree⟩ := bind_ok.mp tree
    split at tree
    next => cases tree
    next =>
      obtain ⟨listing, answer, tree⟩ := bind_ok.mp tree
      obtain ⟨items, run, tree⟩ := bind_ok.mp tree
      split at tree
      next => cases tree
      next =>
        obtain rfl := pure_ok.mp tree
        obtain ⟨more, whole, accepted, paths⟩ := readItems_ok kind run
        rw [List.nil_append] at whole
        rw [whole]
        refine ⟨accepted, ?_⟩
        simp only [answer]
        exact paths

theorem readAlias_ok {result : MaterialRead} (runs : readAlias ports alias_ = .ok result) :
    (∀ file ∈ result.files, AcceptedFile ports alias_ file) ∧
      result.files.map (·.path.toList) = offeredPaths ports alias_ := by
  rw [readAlias] at runs
  split at runs
  next => cases runs
  next =>
    obtain ⟨⟨revision, files⟩, read, runs⟩ := bind_ok.mp runs
    simp only at runs
    split at runs
    next => cases runs
    next =>
      obtain rfl := pure_ok.mp runs
      exact readRevision_ok read

/-! ## `validate_material_read` -/

theorem validateFiles_ok {seen : List Text} {files : List DigestedFile} :
    validateFiles ports alias_ seen files = .ok () ↔
      (∀ file ∈ files, AcceptedFile ports alias_ file) ∧
        (files.map (·.path.toList)).Nodup ∧ ∀ file ∈ files, file.path.toList ∉ seen := by
  induction files generalizing seen with
  | nil => simp [validateFiles]
  | cons item rest ih =>
    rw [validateFiles]
    constructor
    · intro runs
      obtain ⟨⟨⟩, named, runs⟩ := bind_ok.mp runs
      split at runs
      next => cases runs
      next scope =>
        obtain ⟨file, made, runs⟩ := bind_ok.mp runs
        split at runs
        next => cases runs
        next same =>
          obtain rfl := not_not.mp same
          obtain ⟨accepted, distinct, fresh⟩ := ih.mp runs
          simp only [Bool.or_eq_true, List.contains_iff_mem, Bool.not_eq_true', not_or,
            Bool.not_eq_false] at scope
          obtain ⟨new, known⟩ := scope
          obtain ⟨allowed, listed, authorized⟩ := List.any_eq_true.mp known
          refine ⟨List.forall_mem_cons.mpr ⟨⟨named, ⟨allowed, listed, authorized⟩, made⟩, accepted⟩,
            List.nodup_cons.mpr ⟨?_, distinct⟩, List.forall_mem_cons.mpr ⟨new, ?_⟩⟩
          · intro again
            obtain ⟨other, member, same⟩ := List.mem_map.mp again
            exact fresh other member (by rw [same]; exact List.mem_cons_self)
          · exact fun other member old => fresh other member (List.mem_cons_of_mem _ old)
    · rintro ⟨accepted, distinct, fresh⟩
      obtain ⟨⟨named, ⟨allowed, listed, authorized⟩, made⟩, others⟩ :=
        List.forall_mem_cons.mp accepted
      obtain ⟨new, distinct⟩ := List.nodup_cons.mp distinct
      obtain ⟨unseen, later⟩ := List.forall_mem_cons.mp fresh
      have scope : ¬(seen.contains item.path.toList ||
          !alias_.paths.any (authorizes alias_.kind item.path.toList)) = true := by
        have known : alias_.paths.any (authorizes alias_.kind item.path.toList) = true :=
          List.any_eq_true.mpr ⟨allowed, listed, authorized⟩
        simpa [known] using unseen
      refine bind_ok.mpr ⟨(), named, ?_⟩
      rw [if_neg scope]
      refine bind_ok.mpr ⟨item, made, ?_⟩
      rw [if_neg (not_not.mpr rfl)]
      refine ih.mpr ⟨others, distinct, fun other member seen' => ?_⟩
      rcases List.mem_cons.mp seen' with same | old
      · exact new (List.mem_map.mpr ⟨other, member, same⟩)
      · exact later other member old

/-- What `validate_material_read` accepts. -/
structure ValidRead (ports : ReaderPorts) (alias_ : MaterialAlias) (result : MaterialRead) :
    Prop where
  scope : result.authorizedPaths = alias_.paths
  whole : result.omittedFiles = []
  shown : result.files ≠ []
  count : result.files.length ≤ maxSnapshotFiles
  size : totalContent result.files ≤ maxSnapshotBytes
  accepted : ∀ file ∈ result.files, AcceptedFile ports alias_ file
  distinct : (result.files.map (·.path.toList)).Nodup
  covered : ∀ path ∈ alias_.paths, ∃ file ∈ result.files,
    authorizes alias_.kind file.path.toList path = true
  gitRevision : alias_.kind = .git → some result.sourceRevision = alias_.commit
  fileRevision : alias_.kind = .file →
    result.sourceRevision = ports.sha256 (encodeUtf8 (manifest result.files))
  digest : result.digest =
    ports.sha256 (encodeUtf8 (snapshotText ports alias_ result.sourceRevision result.files))

theorem validateMaterialRead_ok {result : MaterialRead} :
    validateMaterialRead ports alias_ result = .ok result ↔ ValidRead ports alias_ result := by
  rw [validateMaterialRead]
  constructor
  · intro runs
    split at runs
    next => cases runs
    next scope =>
    split at runs
    next => cases runs
    next whole =>
    split at runs
    next => cases runs
    next shown =>
    split at runs
    next => cases runs
    next count =>
    split at runs
    next => cases runs
    next size =>
    obtain ⟨⟨⟩, files, runs⟩ := bind_ok.mp runs
    split at runs
    next => cases runs
    next covered =>
    split at runs
    next => cases runs
    next gitRevision =>
    split at runs
    next => cases runs
    next fileRevision =>
    split at runs
    next => cases runs
    next digest =>
    obtain ⟨accepted, distinct, -⟩ := validateFiles_ok.mp files
    refine ⟨not_not.mp scope, not_not.mp whole, shown, not_lt.mp count, not_lt.mp size, accepted,
      distinct, ?_, fun kind => ?_, fun kind => ?_, not_not.mp digest⟩
    · simpa using covered
    · by_contra other
      exact gitRevision ⟨kind, other⟩
    · by_contra other
      exact fileRevision ⟨kind, other⟩
  · intro valid
    have covered : ¬(alias_.paths.any fun path => !result.files.any fun item =>
        authorizes alias_.kind item.path.toList path) = true := by
      simpa using valid.covered
    rw [if_neg (not_not.mpr valid.scope), if_neg (not_not.mpr valid.whole), if_neg valid.shown,
      if_neg (not_lt.mpr valid.count), if_neg (not_lt.mpr valid.size)]
    refine bind_ok.mpr ⟨(), validateFiles_ok.mpr ⟨valid.accepted, valid.distinct, ?_⟩, ?_⟩
    · exact fun _ _ => List.not_mem_nil
    · rw [if_neg covered, if_neg fun both => both.2 (valid.gitRevision both.1),
        if_neg fun both => both.2 (valid.fileRevision both.1), if_neg (not_not.mpr valid.digest)]
      rfl

end Pathfinder
