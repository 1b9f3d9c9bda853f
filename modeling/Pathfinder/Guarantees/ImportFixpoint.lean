import Pathfinder.Resume.ImportReads
import Pathfinder.Resume.Reprinted

/-!
# What an import prints again

Every field of a complete import with the TeX it was read from. Styled texts are decoded, and
names, contact fields and skills are taken as they stand, but all of them are escaped when they
are rendered.
-/
namespace Pathfinder
open Trimming Conditional

/-- A field of an import, with its TeX where the field is not the TeX itself. -/
inductive ImportedField where
  | name (tex text : Text)
  | verbatim (text : Text)
  | styled (tex : Text) (value : StyledText)
  | technologies (tex : Text) (items : List Text)

/-- The TeX of the name: what stands behind its commands in the group around them. -/
def nameTex (body : Text) (found : HeaderMatch) : Text :=
  (closeGroup false 0 (body.drop found.groupStart)).elim found.text Prod.fst

namespace ImportedBody
variable (imported : ImportedBody)

def nameField : ImportedField :=
  .name (nameTex imported.body imported.displayName) (stripText imported.displayName.text)

def contactTexts : List ImportedField :=
  imported.contact.flatMap fun field => [.verbatim field.label, .verbatim field.value]

def educationTexts : List ImportedField :=
  imported.education.flatMap fun item =>
    List.zipWith (fun found value => .styled found.value value) item.groups
      [item.entry.institution, item.entry.qualification, item.entry.period]

/-- The texts of a project's heading, in the order of its groups. -/
def headingTexts (project : ProjectItem) : List ImportedField :=
  List.zipWith (fun found text => text found.value) project.heading.groups
    [fun tex => .styled tex project.heading.entry.title,
      fun tex => .styled tex project.heading.entry.period,
      fun tex => .technologies tex project.heading.entry.technologies,
      fun tex => .styled tex project.heading.entry.summary]

def projectTexts : List ImportedField :=
  imported.projects.flatMap fun project => headingTexts project ++
    project.bullets.flatMap fun bullet =>
      List.zipWith (fun found value => .styled found.value value) bullet.groups
        [bullet.entry.styled]

def skillTexts : List ImportedField :=
  imported.skills.flatMap fun item => .verbatim item.entry.label ::
    item.entry.items.map .verbatim

/-- The text fields of the import. -/
def fields : List ImportedField :=
  imported.nameField :: imported.contactTexts ++ imported.educationTexts ++
    imported.projectTexts ++ imported.skillTexts

end ImportedBody

/-- `[^{}\\]` -/
def nameChar (c : Char) : Bool := notBrace c && c ≠ '\\'

/-- The name has no special character, and nothing that is printed follows its first brace or
backslash. -/
def PlainName (tex : Text) : Prop :=
  ordinaryText (stripText (tex.takeWhile nameChar)) = true ∧
    ∃ printed, literalText (tex.dropWhile nameChar) = some printed ∧
      ∀ c ∈ printed, isPythonSpace c = true

instance (tex : Text) : Decidable (PlainName tex) :=
  have (text : Text) : Decidable (∀ c ∈ text, isPythonSpace c = true) := List.decidableBAll _ text
  inferInstanceAs (Decidable (_ ∧ ∃ printed ∈ literalText (tex.dropWhile nameChar),
    ∀ c ∈ printed, isPythonSpace c = true))

namespace ImportedField

/-- How the field comes from the body. -/
def ReadFrom (body : Text) : ImportedField → Prop
  | .name tex text => tex <:+: body ∧ text = stripText (tex.takeWhile nameChar)
  | .verbatim text => text <:+: body
  | .styled tex value => tex <:+: body ∧ ∃ offset, Pathfinder.styled tex offset = .ok value
  | .technologies tex items => tex <:+: body ∧
      ∃ offset value, Pathfinder.styled tex offset = .ok value ∧ items = commaParts value.text

/-- The renderer writes for the field what prints the same as its TeX. -/
def Reprinted : ImportedField → Prop
  | .name tex text => Reprints tex text
  | .verbatim text => Reprints text text
  | .styled tex value => StyledReprints tex value
  | .technologies tex items => ItemsReprint tex items

/-- The TeX of the field is of the kind the importer reads. -/
def PlainSource : ImportedField → Prop
  | .name tex _ => PlainName tex
  | .verbatim text => ordinaryText text = true
  | .styled tex _ => plainTex tex = true ∧ TightGroups tex ∧ PrintsSupported tex
  | .technologies tex _ => plainTex tex = true ∧ TightParts tex ∧ PartsSupported tex

instance : ∀ field : ImportedField, Decidable field.PlainSource
  | .name tex _ => inferInstanceAs (Decidable (PlainName tex))
  | .verbatim text => inferInstanceAs (Decidable (ordinaryText text = true))
  | .styled tex _ =>
    inferInstanceAs (Decidable (plainTex tex = true ∧ TightGroups tex ∧ PrintsSupported tex))
  | .technologies tex _ =>
    inferInstanceAs (Decidable (plainTex tex = true ∧ TightParts tex ∧ PartsSupported tex))

end ImportedField

/-! ## Names -/

theorem visible_strip (text : Text) :
    (stripText text).filter (fun c => !isPythonSpace c) =
      text.filter fun c => !isPythonSpace c :=
  filter_trim fun c blank => by simp [blank]

/-- A special character that is neither a brace nor a backslash leaves nothing to print. -/
theorem literalText_stuck {part behind printed : Text} (chars : ∀ c ∈ part, nameChar c = true)
    (prints : literalText (part ++ behind) = some printed) : ∀ c ∈ part, c ∉ texSpecials := by
  induction part generalizing printed with
  | nil => exact nofun
  | cons c part ih =>
    have here := chars c List.mem_cons_self
    simp only [nameChar, notBrace, Bool.and_eq_true, decide_eq_true_eq] at here
    by_cases special : c ∈ texSpecials
    · rw [List.cons_append, literalText, if_neg (by simpa using special),
        if_neg (by simpa using here.1), if_pos here.2] at prints
      cases prints
    · rw [List.cons_append, literalText_ordinary special] at prints
      obtain ⟨rest, later, -⟩ := Option.map_eq_some_iff.mp prints
      exact List.forall_mem_cons.mpr
        ⟨special, ih (fun d member => chars d (List.mem_cons_of_mem c member)) later⟩

/-- No blank is special, so trimming takes no special character away. -/
theorem plain_strip {text : Text} :
    (∀ c ∈ stripText text, c ∉ texSpecials) ↔ ∀ c ∈ text, c ∉ texSpecials := by
  constructor
  · intro plain c member special
    have visible : ∀ c ∈ texSpecials, isPythonSpace c = false := specials_all (by decide)
    have kept : c ∈ (stripText text).filter fun c => !isPythonSpace c := by
      rw [visible_strip]
      exact List.mem_filter.mpr ⟨member, by simp [visible c special]⟩
    exact plain c (List.mem_filter.mp kept).1 special
  · exact fun plain c member => plain c ((stripText_inside text).subset member)

theorem strip_idem (text : Text) : stripText (stripText text) = stripText text :=
  trim_of_bare bare_trim

/-- The name prints again as it did where it is plain. -/
theorem name_reprints_iff (tex : Text) :
    Reprints tex (stripText (tex.takeWhile nameChar)) ↔ PlainName tex := by
  have whole := List.takeWhile_append_dropWhile (p := nameChar) (l := tex)
  have chars : ∀ c ∈ tex.takeWhile nameChar, nameChar c = true := fun _ => List.mem_takeWhile_imp
  unfold PlainName
  generalize tex.takeWhile nameChar = part at whole chars
  generalize tex.dropWhile nameChar = behind at whole
  subst whole
  have respaced : stripText (spaced (stripText part)) = stripText (spaced part) := by
    rw [strip_spaced, strip_idem, strip_spaced]
  simp only [reprints_iff, ordinaryText, Bool.and_eq_true, List.all_eq_true, decide_eq_true_eq,
    plain_strip, PrintsAs, respaced, and_assoc]
  refine and_congr_right fun _ => ?_
  constructor
  · rintro ⟨printed, prints, same⟩
    have plain := literalText_stuck chars prints
    rw [literalText_plain plain] at prints
    obtain ⟨rest, later, rfl⟩ := Option.map_eq_some_iff.mp prints
    refine ⟨plain, rest, later, ?_⟩
    have visible := visible_strip (spaced part ++ rest)
    rw [same, visible_strip, List.filter_append] at visible
    have none := List.self_eq_append_right.mp visible
    rw [List.filter_eq_nil_iff] at none
    exact fun c member => by simpa using none c member
  · rintro ⟨plain, rest, later, blank⟩
    refine ⟨spaced part ++ rest, by rw [literalText_plain plain, later]; rfl, ?_⟩
    exact @trim_append _ isPythonSpace (spaced part) [] rest (by simp) blank

/-- A field prints again as it did exactly where its TeX is of the kind the importer reads. -/
theorem ImportedField.reprinted_iff {body : Text} {field : ImportedField}
    (read : field.ReadFrom body) : field.Reprinted ↔ field.PlainSource := by
  cases field with
  | name tex text =>
    obtain ⟨-, rfl⟩ := read
    exact name_reprints_iff tex
  | verbatim text => exact raw_reprints_iff
  | styled tex value =>
    obtain ⟨-, offset, accepted⟩ := read
    exact styled_reprints_iff accepted
  | technologies tex items =>
    obtain ⟨-, offset, value, accepted, rfl⟩ := read
    exact items_reprint_iff accepted

/-! ## The fields of an import -/

theorem GroupsAt.inside {body : Text} {index : Nat} {groups : List SourceGroup}
    (stand : GroupsAt body index groups) : ∀ found ∈ groups, found.value <:+: body := by
  induction groups generalizing index with
  | nil => exact nofun
  | cons first rest ih =>
    refine List.forall_mem_cons.mpr ⟨?_, ih stand.2⟩
    obtain ⟨blanks, -, whole, -⟩ := group_ok stand.1
    have inner : first.value <:+: body.drop index := by
      rw [whole]
      exact ⟨blanks ++ ['\x7b'], '\x7d' :: first.behind, by simp⟩
    exact inner.trans (List.drop_suffix _ _).isInfix

theorem MacroRead.styledTexts {α : Type} {body command : Text} {item : MacroItem α}
    {values : List StyledText} (read : MacroRead body command item values) :
    ∀ field ∈ List.zipWith (fun found value => ImportedField.styled found.value value)
      item.groups values, field.ReadFrom body := by
  have inside := read.groups.inside
  have accepted := read.styled
  clear read
  generalize item.groups = groups at inside accepted
  induction accepted with
  | nil => exact nofun
  | cons first _ ih =>
    rw [List.forall_mem_cons] at inside
    exact List.forall_mem_cons.mpr ⟨⟨inside.1, first⟩, ih inside.2⟩

theorem projectTexts_read {body : Text} {project : ProjectItem} (read : ProjectRead body project) :
    ∀ field ∈ ImportedBody.headingTexts project, field.ReadFrom body := by
  have inside := read.heading.groups.inside
  have accepted := read.heading.styled
  unfold ImportedBody.headingTexts
  generalize project.heading.groups = groups at inside accepted
  cases accepted with
  | cons title more =>
  cases more with
  | cons period more =>
  cases more with
  | cons technologies more =>
  cases more with
  | cons summary more =>
  cases more
  simp only [List.forall_mem_cons] at inside
  obtain ⟨first, second, third, fourth, -⟩ := inside
  obtain ⟨offset, technologies⟩ := technologies
  simp only [List.zipWith, List.forall_mem_cons]
  exact ⟨⟨first, title⟩, ⟨second, period⟩, ⟨third, offset, _, technologies, read.technologies⟩,
    ⟨fourth, summary⟩, nofun⟩

theorem SkillRead.texts {body : Text} {item : MacroItem SkillCategory}
    (read : SkillRead body item) :
    ∀ field ∈ ImportedField.verbatim item.entry.label :: item.entry.items.map .verbatim,
      field.ReadFrom body := by
  obtain ⟨label, items, -, stand, named, listed⟩ := read.groups
  have inside := stand.inside
  rw [List.forall_mem_cons, List.forall_mem_cons] at inside
  refine List.forall_mem_cons.mpr ⟨?_, fun field member => ?_⟩
  · rw [named]
    exact (stripText_inside _).trans inside.1
  · obtain ⟨text, known, rfl⟩ := List.mem_map.mp member
    rw [listed] at known
    obtain ⟨kept, -⟩ := List.mem_filter.mp known
    obtain ⟨part, cut, rfl⟩ := List.mem_map.mp kept
    have within := (Lines.infix_of_mem_splitOnP cut).trans (stripText_inside _)
    exact ((stripText_inside _).trans within).trans
      ((List.dropWhile_suffix _).isInfix.trans inside.2.1)

theorem ContactRead.texts {segment : Text} {field : ContactField}
    (read : ContactRead segment field) :
    field.label <:+: segment ∧ field.value <:+: segment := by
  have stripped := stripText_inside segment
  constructor
  · rw [read.label]
    exact (List.takeWhile_prefix _).isInfix.trans stripped
  · rw [read.value, trim]
    exact ((List.rdropWhile_prefix _ _).isInfix.trans (List.dropWhile_suffix _).isInfix).trans
      ((stripText_inside _).trans ((List.drop_suffix _ _).isInfix.trans
        ((List.dropWhile_suffix _).isInfix.trans stripped)))

theorem nameTex_read {body : Text} {found : HeaderMatch} {width : Nat}
    (stands : HeaderAt body (fun c => notBrace c && c ≠ '\\') found width) :
    nameTex body found <:+: body ∧ found.text = (nameTex body found).takeWhile nameChar := by
  have inside := (List.drop_suffix found.groupStart body).isInfix
  have cut : found.text = (body.drop found.groupStart).takeWhile nameChar := stands.group
  unfold nameTex
  cases closed : closeGroup false 0 (body.drop found.groupStart) with
  | none =>
    refine ⟨?_, ?_⟩
    · rw [Option.elim_none, cut]
      exact (List.takeWhile_prefix _).isInfix.trans inside
    · rw [Option.elim_none, cut, List.takeWhile_takeWhile]
      simp
  | some pair =>
    obtain ⟨inner, behind⟩ := pair
    have whole := closeGroup_closed _ _ _ _ _ closed
    have stops : ('\x7d' :: behind).head?.any nameChar = false := rfl
    rw [whole, (takeWhile_stopped stops).1] at cut
    refine ⟨?_, cut⟩
    rw [Option.elim_some]
    exact (List.IsInfix.trans ⟨[], '\x7d' :: behind, whole.symm⟩ inside)

/-- Every field of a complete import comes from the body. -/
theorem fields_read {imported : ImportedBody} (read : BodyRead imported.body imported) :
    ∀ field ∈ imported.fields, field.ReadFrom imported.body := by
  have named := nameTex_read (headerMatch_name read.displayName).2
  have line : imported.contactLine.text <:+: imported.body := by
    rw [(headerMatch_contact read.contactLine).2.group]
    exact (List.takeWhile_prefix _).isInfix.trans (List.drop_suffix _ _).isInfix
  intro field member
  simp only [ImportedBody.fields, List.cons_append, List.append_assoc, List.mem_cons,
    List.mem_append] at member
  rcases member with rfl | contact | education | projects | skills
  · exact ⟨named.1, congrArg stripText named.2⟩
  · obtain ⟨entry, known, here⟩ := List.mem_flatMap.mp contact
    have segments : ∀ segment ∈ imported.contactLine.text.splitOn '|',
        segment <:+: imported.contactLine.text := fun _ => Lines.infix_of_mem_splitOn
    have paired := read.contact
    generalize imported.contactLine.text.splitOn '|' = parts at segments paired
    generalize imported.contact = entries at known paired
    induction paired with
    | nil => cases known
    | cons first _ ih =>
      rw [List.forall_mem_cons] at segments
      rcases List.mem_cons.mp known with rfl | later
      · have texts := first.texts
        simp only [List.mem_cons, List.not_mem_nil, or_false] at here
        rcases here with rfl | rfl
        · exact (texts.1.trans segments.1).trans line
        · exact (texts.2.trans segments.1).trans line
      · exact ih segments.2 later
  · obtain ⟨item, known, here⟩ := List.mem_flatMap.mp education
    exact (read.education item known).styledTexts field here
  · obtain ⟨project, known, here⟩ := List.mem_flatMap.mp projects
    have project := read.projects project known
    rcases List.mem_append.mp here with heading | bullets
    · exact projectTexts_read project field heading
    · obtain ⟨bullet, listed, here⟩ := List.mem_flatMap.mp bullets
      exact (project.bullets bullet listed).styledTexts field here
  · obtain ⟨item, known, here⟩ := List.mem_flatMap.mp skills
    exact (read.skills item known).texts field here

/-- A complete import prints every field as the source does exactly where every field is plain
in the source. -/
theorem import_reprinted_iff {uuid5 : Text → UUID} {chars : CharacterTables}
    {sha256 : ByteArray → Text} {expected expectedPreamble source : Text}
    (complete :
      (parseResumeSource uuid5 chars sha256 expected expectedPreamble source).complete = true) :
    ∃ imported, readSource uuid5 chars sha256 expected expectedPreamble source = .ok imported ∧
      (parseResumeSource uuid5 chars sha256 expected expectedPreamble source).content =
        some (imported.content
          (importId uuid5 (sha256 (encodeUtf8 source)) "display_name".toList)) ∧
      (∀ field ∈ imported.fields, field.ReadFrom imported.body) ∧
      ((∀ field ∈ imported.fields, field.Reprinted) ↔
        ∀ field ∈ imported.fields, field.PlainSource) := by
  obtain ⟨imported, read, content⟩ := parseResumeSource_complete complete
  have fields := fields_read (readSource_ok read).2
  exact ⟨imported, read, content, fields,
    forall₂_congr fun field member => ImportedField.reprinted_iff (fields field member)⟩

namespace Sample

def importPreamble : Text := "\\documentclass\x7barticle\x7d\n".toList

/-- A body with one entry in every section, behind this name and this contact line. -/
def importBody (name contact : Text) : Text :=
  "\n\x7b\\LARGE\\bfseries\\color\x7bblue\x7d ".toList ++ name ++ "\n\\large ".toList ++ contact ++
    "\n\\section\x7bEducation\x7d\n\\resumeEducationHeading\x7bSchool\x7d\x7bBSc\x7d".toList ++
    "\x7b2020\x7d\n\\section\x7bProjects\x7d\n\\resumeProjectHeading\x7bSearch\x7d".toList ++
    "\x7b2024\x7d\x7b\\skilltag\x7bRust\x7d\x7d\x7bBuilt\x7d\n\\resumeItem".toList ++
    "\x7bBuilt the index\x7d\n\\resumeProjectListEnd\n\\section\x7bSkills\x7d\n".toList ++
    "\\textbf\x7bLanguages\x7d\x7b：Rust\x7d \\\\\n\\end\x7bdocument\x7d\n".toList

def importSource (name contact : Text) : Text :=
  importPreamble ++ (beginDocument ++ importBody name contact)

def importUuid (path : Text) : UUID := path.length

/-- SHA-256 of the preamble. -/
def importPreambleDigest : Text :=
  "582b76efcdf1d604f4393fd49d7f3521b53302bc2aeb5ec41e2b670267102522".toList

/-- SHA-256 on a source with this digest, and on the preamble. -/
def importSha256 (source digest : Text) (bytes : ByteArray) : Text :=
  if decodeUtf8 bytes = some source then digest else importPreambleDigest

/-- The source is read, and this is seen of what was read. -/
def importShows (name contact digest : Text) (shows : ImportedBody → Bool) : Bool :=
  utf8Length (importSource name contact) ≤ maxSourceBytes &&
    partitionAt beginDocument (importSource name contact) =
      some (importPreamble, importBody name contact) &&
    (bodyIssues (importSource name contact) (importBody name contact)
      (importPreamble.length + beginDocument.length)).isEmpty &&
    match parseBody importUuid asciiTables digest (importSource name contact)
        (importBody name contact) (importPreamble.length + beginDocument.length) with
    | .ok imported => shows imported
    | .error _ => false

theorem readSource_shows {name contact digest : Text} {shows : ImportedBody → Bool}
    (seen : importShows name contact digest shows = true) :
    ∃ imported, readSource importUuid asciiTables (importSha256 (importSource name contact) digest)
      digest importPreambleDigest (importSource name contact) = .ok imported ∧
        shows imported = true := by
  simp only [importShows, Bool.and_eq_true, decide_eq_true_eq, List.isEmpty_iff] at seen
  obtain ⟨⟨⟨short, parted⟩, clean⟩, seen⟩ := seen
  have other : importPreamble ≠ importSource name contact := by
    intro same
    have lengths := congrArg List.length same
    rw [importSource, List.length_append, List.length_append] at lengths
    have positive : 0 < beginDocument.length := by decide
    omega
  have whole : importSha256 (importSource name contact) digest
      (encodeUtf8 (importSource name contact)) = digest := by
    rw [importSha256, decodeUtf8_encodeUtf8, if_pos rfl]
  have front : importSha256 (importSource name contact) digest (encodeUtf8 importPreamble) =
      importPreambleDigest := by
    rw [importSha256, decodeUtf8_encodeUtf8, if_neg (by simpa using other)]
  split at seen
  next imported parsed =>
    refine ⟨imported, ?_, seen⟩
    simp only [readSource, whole, front, parted, clean, parsed, if_neg (Nat.not_lt.mpr short)]
    simp
  · cases seen

theorem shown_complete {name contact digest : Text} {shows : ImportedBody → Bool}
    (seen : importShows name contact digest shows = true) :
    (parseResumeSource importUuid asciiTables (importSha256 (importSource name contact) digest)
      digest importPreambleDigest (importSource name contact)).complete = true := by
  obtain ⟨imported, read, -⟩ := readSource_shows seen
  rw [parseResumeSource, read]

def plainName : Text := "Ada\x7d \\\\".toList

def plainContact : Text := "Rate：half".toList

def plainDigest : Text :=
  "581fd48adbef06d840e959842e48dac11435b52dec909df72c49b571c9d94168".toList

def escapedContact : Text := "Rate：50\\%".toList

def escapedDigest : Text :=
  "84d8657ea0cd681cb2a20a2fdbc4c31593a7e271bf7f19e8935ebdddaff7d962".toList

end Sample

theorem plainSource_reprinted : ∃ imported,
    readSource Sample.importUuid asciiTables
      (Sample.importSha256 (Sample.importSource Sample.plainName Sample.plainContact)
        Sample.plainDigest) Sample.plainDigest Sample.importPreambleDigest
      (Sample.importSource Sample.plainName Sample.plainContact) = .ok imported ∧
    ∀ field ∈ imported.fields, field.Reprinted := by
  have shown : Sample.importShows Sample.plainName Sample.plainContact Sample.plainDigest
      (fun imported => decide (∀ field ∈ imported.fields, field.PlainSource)) = true := by
    decide +kernel
  obtain ⟨imported, read, seen⟩ := Sample.readSource_shows shown
  obtain ⟨imported', read', -, -, exactly⟩ := import_reprinted_iff (Sample.shown_complete shown)
  obtain rfl : imported = imported' := Except.ok.inj (read.symm.trans read')
  exact ⟨imported, read, exactly.mpr (of_decide_eq_true seen)⟩

/-- The backslash of an escaped percent sign in the contact line is printed. -/
theorem escapedContact_doubled :
    ¬ ∀ (uuid5 : Text → UUID) (chars : CharacterTables) (sha256 : ByteArray → Text)
      (expected expectedPreamble source : Text) (imported : ImportedBody),
      readSource uuid5 chars sha256 expected expectedPreamble source = .ok imported →
        ∀ field ∈ imported.fields, field.Reprinted := by
  intro all
  have shown : Sample.importShows Sample.plainName Sample.escapedContact Sample.escapedDigest
      (fun imported => imported.contact.any fun field => field.value.contains '\\') = true := by
    decide +kernel
  obtain ⟨imported, read, seen⟩ := Sample.readSource_shows shown
  obtain ⟨field, member, backslash⟩ := List.any_eq_true.mp seen
  have inside : ImportedField.verbatim field.value ∈ imported.fields := by
    simp only [ImportedBody.fields, ImportedBody.contactTexts, List.cons_append, List.mem_cons,
      List.mem_append, List.mem_flatMap]
    exact .inr (.inl (.inl (.inl ⟨field, member, by simp⟩)))
  have ordinary := raw_reprints_iff.mp (all _ _ _ _ _ _ imported read _ inside)
  simp only [ordinaryText, Bool.and_eq_true, List.all_eq_true, decide_eq_true_eq] at ordinary
  exact ordinary.2 '\\' (by simpa using backslash) (by decide)

end Pathfinder
