import Pathfinder.Library.Scan
import Pathfinder.Library.Trim
import Pathfinder.Db.ProfileModels
import Pathfinder.Domain.TemplateArtifacts
import Pathfinder.Domain.TemplateImport

/-!
# Importing a resume source

`parse_resume_source` of `resume/template_import.py`. A compiled pattern is the length it matches
at the beginning of a text, and `covered` is the list of the ranges that were marked. SHA-256 and
`uuid5` are parameters.
-/
namespace Pathfinder
open Scanning Trimming

/-- `MAX_SOURCE_BYTES`. -/
def maxSourceBytes : Nat := 131072

/-- `_BODY_COMMANDS`. -/
def bodyCommands : List Text :=
  ["LARGE".toList, "begin".toList, "bfseries".toList, "color".toList, "end".toList,
    "item".toList, "large".toList, "normalsize".toList, "resumeEducationHeading".toList,
    "resumeEducationListEnd".toList, "resumeEducationListStart".toList, "resumeItem".toList,
    "resumeItemListEnd".toList, "resumeItemListStart".toList, "resumeProjectHeading".toList,
    "resumeProjectListEnd".toList, "resumeProjectListStart".toList, "section".toList,
    "skillgap".toList, "skilltag".toList, "textbf".toList, "vspace".toList]

structure ParseIssueV1 where
  code : String
  line : Nat
  column : Nat
  deriving DecidableEq, Repr

structure ResumeClaimV1 where
  id : UUID
  projectItemId : UUID
  field : ClaimField
  itemId : UUID
  text : Text
  source : SourceLocationV1
  deriving DecidableEq, Repr

structure ResumeImportPreviewV1 where
  templateCommit : Text
  sourceSha256 : Text
  complete : Bool
  content : Option ResumeContent
  claims : List ResumeClaimV1
  issues : List ParseIssueV1
  deriving DecidableEq

/-! ## Places -/

/-- `_position`, of an offset inside the source. -/
def position (source : Text) (offset : Nat) : Nat × Nat :=
  let before := source.take offset
  (before.count '\n' + 1, (before.rtakeWhile fun c => c ≠ '\n').length + 1)

/-- `_location`. -/
def location (source : Text) (start stop : Nat) : SourceLocationV1 :=
  ⟨(position source start).1, (position source start).2, (position source stop).1,
    (position source stop).2⟩

/-- `_issue`. -/
def parseIssue (source : Text) (code : String) (offset : Nat) : ParseIssueV1 :=
  ⟨code, (position source (min offset source.length)).1,
    (position source (min offset source.length)).2⟩

/-- A range of places that was marked. -/
structure MarkedRange where
  start : Nat
  stop : Nat
  deriving DecidableEq, Repr

def MarkedRange.holds (range : MarkedRange) (place : Nat) : Bool :=
  range.start ≤ place && place < range.stop

/-- `covered[place]`. -/
def covered (marks : List MarkedRange) (place : Nat) : Bool :=
  marks.any fun range => range.holds place

/-- The range of `mark_line`. -/
def lineRange (body : Text) (start : Nat) : MarkedRange :=
  ⟨start - ((body.take start).rtakeWhile fun c => c ≠ '\n').length,
    start + ((body.drop start).takeWhile fun c => c ≠ '\n').length⟩

/-! ## Patterns -/

/-- `[^{}]` -/
def notBrace (c : Char) : Bool := c ≠ '\x7b' && c ≠ '\x7d'

/-- `\{[^{}]+\}` -/
def bracedLength : Text → Nat
  | '\x7b' :: rest =>
    let inner := rest.takeWhile notBrace
    if inner ≠ [] ∧ (rest.drop inner.length).head? = some '\x7d' then inner.length + 2 else 0
  | _ => 0

/-- A word, and a pattern behind it. -/
def headed (word : Text) (behind : Text → Nat) (text : Text) : Nat :=
  if word.isPrefixOf text then
    match behind (text.drop word.length) with
    | 0 => 0
    | length + 1 => word.length + (length + 1)
  else 0

/-- A word. -/
def wordLength (word : Text) (text : Text) : Nat := if word.isPrefixOf text then word.length else 0

/-- The pattern of the first of two that matches. -/
def firstOf (first second : Text → Nat) (text : Text) : Nat :=
  match first text with
  | 0 => second text
  | length + 1 => length + 1

/-- `\\([A-Za-z]+|.)` -/
def commandLength : Text → Nat
  | '\\' :: rest =>
    let word := rest.takeWhile Char.isAlpha
    if word ≠ [] then word.length + 1
    else if rest.head?.any fun c => c ≠ '\n' then 2
    else 0
  | _ => 0

/-- `\{([^}]+)\}` -/
def environmentName : Text → Nat
  | '\x7b' :: rest =>
    let name := rest.takeWhile fun c => c ≠ '\x7d'
    if name ≠ [] ∧ (rest.drop name.length).head? = some '\x7d' then name.length + 2 else 0
  | _ => 0

/-- `\\(?:begin|end)\{([^}]+)\}` -/
def environmentLength : Text → Nat :=
  firstOf (headed "\\begin".toList environmentName) (headed "\\end".toList environmentName)

/-- `\\section\{[^{}]+\}` -/
def sectionLength : Text → Nat := headed "\\section".toList bracedLength

/-- The command, where no letter follows it: `(?![A-Za-z])`. -/
def macroLength (command : Text) (text : Text) : Nat :=
  if command.isPrefixOf text ∧ ¬(text.drop command.length).head?.any Char.isAlpha then
    command.length
  else 0

/-- `\\textbf\{[^{}]+\}\{[^{}]+\}` -/
def skillLength (text : Text) : Nat :=
  match headed "\\textbf".toList bracedLength text with
  | 0 => 0
  | label + 1 =>
    match bracedLength (text.drop (label + 1)) with
    | 0 => 0
    | items + 1 => label + 1 + (items + 1)

/-- `(?:\[[^\]]*\])?` -/
def optionLength : Text → Nat
  | '[' :: rest =>
    let inner := rest.takeWhile fun c => c ≠ ']'
    if (rest.drop inner.length).head? = some ']' then inner.length + 2 else 0
  | _ => 0

/-- `\\(?:begin|end)\{(?:document|center|itemize)\}(?:\[[^\]]*\])?` -/
def layoutEnvironment (text : Text) : Nat :=
  let name := firstOf (wordLength "\x7bdocument\x7d".toList)
    (firstOf (wordLength "\x7bcenter\x7d".toList) (wordLength "\x7bitemize\x7d".toList))
  match firstOf (headed "\\begin".toList name) (headed "\\end".toList name) text with
  | 0 => 0
  | length + 1 => length + 1 + optionLength (text.drop (length + 1))

/-- `\\resume(?:Education|Project|Item)List(?:Start|End)` -/
def layoutList : Text → Nat :=
  headed "\\resume".toList (firstOf
    (headed "Education".toList (firstOf (wordLength "ListStart".toList)
      (wordLength "ListEnd".toList)))
    (firstOf
      (headed "Project".toList (firstOf (wordLength "ListStart".toList)
        (wordLength "ListEnd".toList)))
      (headed "Item".toList (firstOf (wordLength "ListStart".toList)
        (wordLength "ListEnd".toList)))))

/-- `layout` of `_check_body_coverage`. -/
def layoutLength : Text → Nat :=
  firstOf layoutEnvironment (firstOf sectionLength (firstOf layoutList (firstOf
    (headed "\\vspace".toList bracedLength) (firstOf (wordLength "\\normalsize".toList)
      (firstOf (wordLength "\\item".toList) (wordLength "\\\\".toList))))))

/-- `\s*` or `\s+` in front of a group, which gives blanks back where the group needs one: how
many are skipped, and the group. -/
def blanksThen (least : Nat) (keeps : Char → Bool) (rest : Text) : Option (Nat × Text) :=
  let blanks := (rest.takeWhile isPythonSpace).length
  (List.range' least (blanks + 1 - least)).reverse.findSome? fun skipped =>
    let text := (rest.drop skipped).takeWhile keeps
    if text = [] then none else some (skipped, text)

/-- `\\LARGE\\bfseries\\color\{[^{}]+\}\s*([^{}\\]+)`: where its group begins, and the group. -/
def readName (text : Text) : Option (Nat × Text) :=
  match headed "\\LARGE\\bfseries\\color".toList bracedLength text with
  | 0 => none
  | head + 1 =>
    (blanksThen 0 (fun c => notBrace c && c ≠ '\\') (text.drop (head + 1))).map
      fun found => (head + 1 + found.1, found.2)

/-- `\\large\s+([^\n]+)`: where its group begins, and the group. -/
def readContact (text : Text) : Option (Nat × Text) :=
  match wordLength "\\large".toList text with
  | 0 => none
  | head + 1 =>
    (blanksThen 1 (fun c => c ≠ '\n') (text.drop (head + 1))).map
      fun found => (head + 1 + found.1, found.2)

/-- The match of a pattern with one group, which ends it. -/
structure HeaderMatch where
  start : Nat
  groupStart : Nat
  text : Text
  deriving DecidableEq, Repr

/-- `re.search(pattern, body)`. -/
def headerMatch (read : Text → Option (Nat × Text)) (body : Text) : Option HeaderMatch :=
  (findFirst read 0 body).map fun found => ⟨found.1, found.1 + found.2.1, found.2.2⟩

/-! ## Coverage -/

/-- A line where what is covered is blank. -/
def remainder (marks : List MarkedRange) (offset : Nat) (line : Text) : Text :=
  line.mapIdx fun index c => if covered marks (offset + index) then ' ' else c

/-- `char in " \t\r\n{}"`. -/
def stripped (c : Char) : Bool :=
  c = ' ' || c = '\t' || c = '\r' || c = '\n' || c = '\x7b' || c = '\x7d'

/-- `remainder.lstrip().startswith("%")`. -/
def commentLine (text : Text) : Bool := (text.dropWhile isPythonSpace).head? = some '%'

/-- What a round of the loop of `_check_body_coverage` finds in a line: the index at which it
gives up. -/
def uncovered (marks : List MarkedRange) (offset : Nat) (line : Text) : Option Nat :=
  let rest := remainder marks offset line
  if commentLine rest then none
  else if trim stripped (unmatched layoutLength rest) = [] then none
  else some ((line.zipIdx.find? fun entry =>
    !covered marks (offset + entry.2) && !isPythonSpace entry.1).elim 0 Prod.snd)

/-- `_check_body_coverage`. -/
def checkBodyCoverage (body : Text) (marks : List MarkedRange) (bodyStart : Nat) :
    Except ImportFailure Unit :=
  match (placed 0 (splitlinesKeepends body)).findSome? fun entry =>
      (uncovered marks entry.1 entry.2).map fun index => bodyStart + entry.1 + index with
  | none => .ok ()
  | some place => .error (.parse "unsupported_structure" place)

/-! ## Content -/

/-- A macro that was read: the range that is marked for it, its groups with their places in the
body, and what it stands for. -/
structure MacroItem (α : Type) where
  range : MarkedRange
  groups : List SourceGroup
  entry : α

/-- A project, its bullets, and the text its technologies are split from. -/
structure ProjectItem where
  heading : MacroItem ProjectEntry
  technologies : StyledText
  bullets : List (MacroItem Bullet)

/-- What the importer reads from a body. -/
structure ImportedBody where
  body : Text
  bodyStart : Nat
  displayName : HeaderMatch
  contactLine : HeaderMatch
  contact : List ContactField
  education : List (MacroItem EducationEntry)
  projects : List ProjectItem
  skills : List (MacroItem SkillCategory)

/-- A check that raises where it fails. -/
def require (holds : Prop) [Decidable holds] (failure : ImportFailure) :
    Except ImportFailure Unit :=
  if holds then .ok () else .error failure

/-- A model with its validators. -/
def checked {α : Type} (valid : α → Bool) (item : α) : Except ImportFailure α :=
  if valid item then .ok item else .error .value

def decimal (value : Nat) : Text := Nat.toDigits 10 value

section Items
variable (uuid5 : Text → UUID) (chars : CharacterTables) (digest source body : Text)
  (bodyStart : Nat)

/-- `_id`. -/
def importId (path : Text) : UUID :=
  uuid5 ("pathfinder-resume:".toList ++ digest ++ ':' :: path)

/-- `_styled` of a group of the body. -/
def styledGroup (found : SourceGroup) : Except ImportFailure StyledText :=
  styled found.value (bodyStart + found.start + 1)

/-- A segment of the contact line, at an offset of the source. -/
def contactField (ordinal offset : Nat) (segment : Text) : Except ImportFailure ContactField :=
  let stripped := stripText segment
  let label := stripped.takeWhile fun c => c ≠ '：'
  let value := trim (fun c => !notBrace c)
    (stripText ((stripped.dropWhile fun c => c ≠ '：').drop 1))
  if ¬stripped.contains '：' ∨ value = [] then .error (.parse "contact_structure" offset)
  else checked ContactField.valid
    { id := importId uuid5 digest ("contact/".toList ++ decimal ordinal)
      kind := if value.contains '@' then .email
        else if value.any chars.isDecimal then .phone else .other
      label := label
      value := value
      locked := true
      reviewStatus := .pending
      source := location source offset (offset + segment.length) }

/-- The segments from one on. -/
def contactFields (ordinal offset : Nat) : List Text → Except ImportFailure (List ContactField)
  | [] => .ok []
  | segment :: rest => do
    let field ← contactField uuid5 chars digest source ordinal offset segment
    let fields ← contactFields (ordinal + 1) (offset + segment.length + 1) rest
    pure (field :: fields)

/-- A `\resumeEducationHeading` between the ends of two sections. -/
def educationItem (after before : Nat) (found : (Nat × Nat) × Nat) :
    Except ImportFailure (MacroItem EducationEntry) := do
  let start := found.1.1
  let index := start + found.1.2
  let first ← group index (body.drop index)
  let second ← group first.stop first.behind
  let third ← group second.stop second.behind
  require (after < start ∧ start < third.stop ∧ third.stop < before)
    (.parse "education_position" (bodyStart + start))
  let institution ← styledGroup bodyStart first
  let qualification ← styledGroup bodyStart second
  let period ← styledGroup bodyStart third
  let entry ← checked EducationEntry.valid
    { id := importId uuid5 digest ("education/".toList ++ decimal found.2)
      institution := institution
      qualification := qualification
      period := period
      source := location source (bodyStart + start) (bodyStart + third.stop)
      reviewStatus := .pending }
  pure ⟨⟨start, third.stop⟩, [first, second, third], entry⟩

/-- `f"project/{ordinal}"` -/
def projectPath (ordinal : Nat) : Text := "project/".toList ++ decimal ordinal

/-- A `\resumeItem` of a project. -/
def bulletItem (project : Nat) (found : (Nat × Nat) × Nat) :
    Except ImportFailure (MacroItem Bullet) := do
  let index := found.1.1 + found.1.2
  let only ← group index (body.drop index)
  let bullet ← styledGroup bodyStart only
  let id := importId uuid5 digest (projectPath project ++ "/bullet/".toList ++ decimal found.2)
  pure ⟨⟨found.1.1, only.stop⟩, [only], ⟨id, bullet⟩⟩

/-- `tuple(part.strip() for part in … if part.strip())`. -/
def strippedParts (parts : List Text) : List Text :=
  (parts.map stripText).filter fun part => part ≠ []

/-- A `\resumeProjectHeading` with the bullets in front of `boundary`. -/
def projectItem (after before ordinal boundary : Nat) (found : Nat × Nat) :
    Except ImportFailure ProjectItem := do
  let start := found.1
  let index := start + found.2
  let first ← group index (body.drop index)
  let second ← group first.stop first.behind
  let third ← group second.stop second.behind
  let fourth ← group third.stop third.behind
  require (after < start ∧ start < fourth.stop ∧ fourth.stop < before)
    (.parse "project_position" (bodyStart + start))
  require (fourth.stop ≤ boundary) (.parse "project_structure" (bodyStart + start))
  let bullets ← (findAll (macroLength "\\resumeItem".toList) 0 fourth.stop
    ((body.take boundary).drop fourth.stop)).zipIdx.mapM
      (bulletItem uuid5 digest body bodyStart ordinal)
  require (bullets ≠ []) (.parse "project_bullets_missing" (bodyStart + start))
  let title ← styledGroup bodyStart first
  let period ← styledGroup bodyStart second
  let technologies ← styledGroup bodyStart third
  let summary ← styledGroup bodyStart fourth
  let entry ← checked ProjectEntry.valid
    { id := importId uuid5 digest (projectPath ordinal)
      title := title
      period := period
      technologies := strippedParts (technologies.text.splitOn ',')
      summary := summary
      bullets := bullets.map MacroItem.entry
      source := location source (bodyStart + start) (bodyStart + boundary)
      reviewStatus := .pending }
  pure ⟨⟨⟨start, fourth.stop⟩, [first, second, third, fourth], entry⟩, technologies, bullets⟩

/-- The projects from one on; the last ends at `\resumeProjectListEnd`. -/
def projectItems (after before projectEnd ordinal : Nat) :
    List (Nat × Nat) → Except ImportFailure (List ProjectItem)
  | [] => .ok []
  | found :: rest => do
    let boundary := rest.head?.elim projectEnd Prod.fst
    let item ← projectItem uuid5 digest source body bodyStart after before ordinal boundary found
    let items ← projectItems after before projectEnd (ordinal + 1) rest
    pure (item :: items)

def SourceGroup.shifted (found : SourceGroup) (width : Nat) : SourceGroup :=
  { found with start := found.start + width, stop := found.stop + width }

/-- A category of skills, at a place of the region behind the sections. -/
def skillItem (region : Nat) (found : (Nat × Nat) × Nat) :
    Except ImportFailure (MacroItem SkillCategory) := do
  let start := found.1.1
  let index := start + "\\textbf".toList.length
  let first ← group index ((body.drop region).drop index)
  let second ← group first.stop first.behind
  let items := stripText (second.value.dropWhile fun c => c = '：' || c = ':' || c = ' ')
  let range : MarkedRange := ⟨region + start, region + start + found.1.2⟩
  let entry ← checked SkillCategory.valid
    { id := importId uuid5 digest ("skill/".toList ++ decimal found.2)
      label := stripText first.value
      items := strippedParts (items.splitOnP fun c => c = '、' || c = '，')
      source := location source (bodyStart + range.start) (bodyStart + range.stop)
      reviewStatus := .pending }
  pure ⟨range, [first.shifted region, second.shifted region], entry⟩

end Items

/-- The items' ranges, without those of the two header lines. -/
def ImportedBody.itemRanges (imported : ImportedBody) : List MarkedRange :=
  imported.education.map MacroItem.range ++
    imported.projects.flatMap (fun project =>
      project.heading.range :: project.bullets.map MacroItem.range) ++
    imported.skills.map MacroItem.range

/-- The ranges that are marked. -/
def ImportedBody.marks (imported : ImportedBody) : List MarkedRange :=
  lineRange imported.body imported.displayName.start ::
    lineRange imported.body imported.contactLine.start :: imported.itemRanges

/-- `ResumeContentV1(...)`. -/
def ImportedBody.content (imported : ImportedBody) (displayNameId : UUID) : ResumeContent where
  displayNameId := displayNameId
  displayName := stripText imported.displayName.text
  displayNameReviewStatus := .pending
  contact := imported.contact
  education := imported.education.map MacroItem.entry
  projects := imported.projects.map fun project => project.heading.entry
  skills := imported.skills.map MacroItem.entry

/-! ## The source -/

section Source
variable (uuid5 : Text → UUID) (chars : CharacterTables)

/-- The claims of a project: its bullets', then those of its fields. -/
def projectClaims (digest source : Text) (bodyStart ordinal : Nat) (project : ProjectItem) :
    List ResumeClaimV1 :=
  let claim (path : Text) (field : ClaimField) (itemId : UUID) (text : Text)
      (range : MarkedRange) : ResumeClaimV1 :=
    ⟨importId uuid5 digest ("claim/".toList ++ decimal ordinal ++ '/' :: path),
      project.heading.entry.id, field, itemId, text,
      location source (bodyStart + range.start) (bodyStart + range.stop)⟩
  let own (path : Text) (field : ClaimField) (value : StyledText) : ResumeClaimV1 :=
    claim path field project.heading.entry.id value.text project.heading.range
  (project.bullets.zipIdx.map fun found =>
      claim ("bullet/".toList ++ decimal found.2) .bullet found.1.entry.id
        found.1.entry.styled.text found.1.range) ++
    [own "title".toList .title project.heading.entry.title,
      own "period".toList .period project.heading.entry.period,
      own "technologies".toList .technologies project.technologies,
      own "summary".toList .summary project.heading.entry.summary]

/-- The `try` block of `parse_resume_source`. -/
def parseBody (digest source body : Text) (bodyStart : Nat) :
    Except ImportFailure ImportedBody :=
  match findAll sectionLength 0 0 body with
  | [first, second, third] =>
    match headerMatch readName body, headerMatch readContact body with
    | some displayName, some contactLine => do
      require (displayName.start < first.1 ∧ contactLine.start < first.1)
        (.parse "basic_info_position" bodyStart)
      let contact ← contactFields uuid5 chars digest source 0 (bodyStart + contactLine.groupStart)
        (contactLine.text.splitOn '|')
      let education ← (findAll (macroLength "\\resumeEducationHeading".toList) 0 0
        body).zipIdx.mapM
          (educationItem uuid5 digest source body bodyStart (first.1 + first.2) second.1)
      let projectEnd ← (findFirst (fun text =>
        if "\\resumeProjectListEnd".toList.isPrefixOf text then some () else none) 0 body).elim
          (.error (.parse "project_list_missing" (bodyStart + second.1))) (Except.ok ∘ Prod.fst)
      let projects ← projectItems uuid5 digest source body bodyStart (second.1 + second.2) third.1
        projectEnd 0 (findAll (macroLength "\\resumeProjectHeading".toList) 0 0 body)
      let region := third.1 + third.2
      let skills ← (findAll skillLength 0 0 (body.drop region)).zipIdx.mapM
        (skillItem uuid5 digest source body bodyStart region)
      require (¬(education.isEmpty || projects.isEmpty || skills.isEmpty))
        (.parse "content_section_missing" bodyStart)
      let imported : ImportedBody :=
        ⟨body, bodyStart, displayName, contactLine, contact, education, projects, skills⟩
      checkBodyCoverage body imported.marks bodyStart
      let _ ← checked ResumeContent.valid
        (imported.content (importId uuid5 digest "display_name".toList))
      pure imported
    | _, _ => .error (.parse "basic_info_missing" bodyStart)
  | _ => .error (.parse "section_structure" bodyStart)

def bodyEnvironments : List Text := ["document".toList, "center".toList, "itemize".toList]

/-- The commands and the environments of a body that are not supported. -/
def bodyIssues (source body : Text) (bodyStart : Nat) : List ParseIssueV1 :=
  ((findAll commandLength 0 0 body).filter fun found =>
      !(['%'] :: ['\\'] :: bodyCommands).contains
        ((body.drop (found.1 + 1)).take (found.2 - 1))).map (fun found =>
    parseIssue source "unsupported_command" (bodyStart + found.1)) ++
  ((findAll environmentLength 0 0 body).filter fun found =>
      !bodyEnvironments.contains
        ((((body.drop found.1).take (found.2 - 1)).dropWhile fun c => c ≠ '\x7b').drop 1)).map
    (fun found => parseIssue source "unsupported_environment" (bodyStart + found.1))

variable (sha256 : ByteArray → Text) (expectedSourceSha256 expectedPreambleSha256 : Text)

/-- What is read from a source, or the issues of its preview. -/
def readSource (source : Text) : Except (List ParseIssueV1) ImportedBody :=
  let digest := sha256 (encodeUtf8 source)
  if maxSourceBytes < utf8Length source then .error [parseIssue source "source_too_large" 0]
  else match partitionAt beginDocument source with
  | none => .error [parseIssue source "document_missing" 0]
  | some (preamble, body) =>
    if digest ≠ expectedSourceSha256 ∨ sha256 (encodeUtf8 preamble) ≠ expectedPreambleSha256 then
      .error [parseIssue source "source_identity_mismatch" 0]
    else
      let bodyStart := preamble.length + beginDocument.length
      match bodyIssues source body bodyStart with
      | issue :: more => .error (issue :: more)
      | [] =>
        match parseBody uuid5 chars digest source body bodyStart with
        | .error (.parse code offset) => .error [parseIssue source code offset]
        | .error .value => .error [parseIssue source "invalid_content" bodyStart]
        | .ok imported => .ok imported

/-- `parse_resume_source`. -/
def parseResumeSource (source : Text) : ResumeImportPreviewV1 :=
  let digest := sha256 (encodeUtf8 source)
  match readSource uuid5 chars sha256 expectedSourceSha256 expectedPreambleSha256 source with
  | .error issues => ⟨templateCommit, digest, false, none, [], issues⟩
  | .ok imported =>
    ⟨templateCommit, digest, true,
      some (imported.content (importId uuid5 digest "display_name".toList)),
      imported.projects.zipIdx.flatMap (fun found =>
        projectClaims uuid5 digest source imported.bodyStart found.2 found.1), []⟩

end Source

/-- What a complete preview shows was read from the source. -/
theorem parseResumeSource_complete {uuid5 : Text → UUID} {chars : CharacterTables}
    {sha256 : ByteArray → Text} {expected expectedPreamble source : Text}
    (complete :
      (parseResumeSource uuid5 chars sha256 expected expectedPreamble source).complete = true) :
    ∃ imported, readSource uuid5 chars sha256 expected expectedPreamble source = .ok imported ∧
      (parseResumeSource uuid5 chars sha256 expected expectedPreamble source).content =
        some (imported.content
          (importId uuid5 (sha256 (encodeUtf8 source)) "display_name".toList)) := by
  unfold parseResumeSource at complete ⊢
  split at complete
  · cases complete
  next imported read => exact ⟨imported, read, rfl⟩

end Pathfinder
