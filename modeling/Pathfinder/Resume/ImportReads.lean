import Mathlib.Data.List.Forall2
import Pathfinder.Library.Conditional
import Pathfinder.Domain.ResumeImport

/-!
# What the importer has read

For every item of a complete import: where its groups stand in the body, and which texts were
read from them.
-/
namespace Pathfinder
open Scanning Trimming Conditional

theorem checked_ok {α : Type} {valid : α → Bool} {item result : α}
    (passed : checked valid item = .ok result) : item = result := by
  unfold checked at passed
  split at passed
  · exact Except.ok.inj passed
  · cases passed

/-! ## Groups -/

/-- Groups that stand one behind the other in a body, from an index on. -/
def GroupsAt (body : Text) : Nat → List SourceGroup → Prop
  | _, [] => True
  | index, found :: rest =>
    group index (body.drop index) = .ok found ∧ GroupsAt body found.stop rest

theorem group_behind {body : Text} {index : Nat} {found : SourceGroup}
    (opened : group index (body.drop index) = .ok found) : found.behind = body.drop found.stop := by
  obtain ⟨blanks, -, whole, start, stop⟩ := group_ok opened
  have split : body.drop index =
      (blanks ++ '\x7b' :: (found.value ++ ['\x7d'])) ++ found.behind := by
    rw [whole]
    simp
  have skipped := congrArg (List.drop (blanks ++ '\x7b' :: (found.value ++ ['\x7d'])).length) split
  rw [List.drop_left, List.drop_drop] at skipped
  rw [← skipped, stop, start]
  congr 1
  simp only [List.length_append, List.length_cons, List.length_nil]
  omega

theorem group_value_at {body : Text} {index : Nat} {found : SourceGroup}
    (opened : group index (body.drop index) = .ok found) :
    found.value <+: body.drop (found.start + 1) := by
  obtain ⟨blanks, -, whole, start, -⟩ := group_ok opened
  have place : found.start + 1 = index + (blanks.length + 1) := by omega
  rw [place, ← List.drop_drop, whole, ← List.drop_drop, List.drop_left, List.drop_one,
    List.tail_cons]
  exact List.prefix_append _ _

theorem GroupsAt.values {body : Text} {index : Nat} {groups : List SourceGroup}
    (stand : GroupsAt body index groups) :
    ∀ found ∈ groups, found.value <+: body.drop (found.start + 1) := by
  induction groups generalizing index with
  | nil => exact nofun
  | cons first rest ih =>
    exact List.forall_mem_cons.mpr ⟨group_value_at stand.1, ih stand.2⟩

/-- The values were read from the groups. -/
def StyledFrom (groups : List SourceGroup) (values : List StyledText) : Prop :=
  List.Forall₂ (fun found value => ∃ offset, styled found.value offset = .ok value) groups values

/-- A command stands at a place of the body, with this length. -/
def CommandAt (body command : Text) (found : Nat × Nat) : Prop :=
  command <+: body.drop found.1 ∧ found.2 = command.length

/-- The matches in a cut of the body are places of the command in the body. -/
theorem commandAt_of_mem {body command : Text} {start stop : Nat} {found : Nat × Nat}
    (member : found ∈ findAll (macroLength command) 0 start ((body.take stop).drop start)) :
    CommandAt body command found := by
  obtain ⟨index, place, length, positive, -⟩ := mem_findAll member
  rw [length, macroLength] at positive
  rw [macroLength] at length
  split at positive
  next here =>
    rw [if_pos here] at length
    rw [List.drop_drop, ← place, List.isPrefixOf_iff_prefix] at here
    refine ⟨here.1.trans ?_, length⟩
    rw [List.drop_take]
    exact List.take_prefix _ _
  · exact absurd positive (Nat.lt_irrefl 0)

/-- An item at its command, with the groups behind it that its values were read from. -/
structure MacroRead {α : Type} (body command : Text) (item : MacroItem α)
    (values : List StyledText) : Prop where
  begins : command <+: body.drop item.range.start
  groups : GroupsAt body (item.range.start + command.length) item.groups
  stop : item.groups.getLast?.map SourceGroup.stop = some item.range.stop
  styled : StyledFrom item.groups values

/-- A project, with the bullets that were read from `\\resumeItem`s. -/
structure ProjectRead (body : Text) (item : ProjectItem) : Prop where
  heading : MacroRead body "\\resumeProjectHeading".toList item.heading
    [item.heading.entry.title, item.heading.entry.period, item.technologies,
      item.heading.entry.summary]
  technologies : item.heading.entry.technologies =
    strippedParts (item.technologies.text.splitOn ',')
  entries : item.heading.entry.bullets = item.bullets.map MacroItem.entry
  bullets : ∀ bullet ∈ item.bullets,
    MacroRead body "\\resumeItem".toList bullet [bullet.entry.styled]

section Items
variable {uuid5 : Text → UUID} {chars : CharacterTables} {digest source body : Text}
  {bodyStart : Nat}

theorem educationItem_ok {after before : Nat} {command : Text} {found : (Nat × Nat) × Nat}
    {item : MacroItem EducationEntry} (here : CommandAt body command found.1)
    (read : educationItem uuid5 digest source body bodyStart after before found = .ok item) :
    MacroRead body command item
      [item.entry.institution, item.entry.qualification, item.entry.period] := by
  simp only [educationItem, bind_ok, here.2] at read
  obtain ⟨first, opened, second, opened', third, opened'', ⟨⟩, -, institution, read₁,
    qualification, read₂, period, read₃, entry, valid, made⟩ := read
  obtain rfl := pure_ok.mp made
  obtain rfl := checked_ok valid
  rw [group_behind opened] at opened'
  rw [group_behind opened'] at opened''
  exact ⟨here.1, ⟨opened, opened', opened'', trivial⟩, rfl,
    .cons ⟨_, read₁⟩ (.cons ⟨_, read₂⟩ (.cons ⟨_, read₃⟩ .nil))⟩

theorem bulletItem_ok {project : Nat} {command : Text} {found : (Nat × Nat) × Nat}
    {item : MacroItem Bullet} (here : CommandAt body command found.1)
    (read : bulletItem uuid5 digest body bodyStart project found = .ok item) :
    MacroRead body command item [item.entry.styled] := by
  simp only [bulletItem, bind_ok, here.2] at read
  obtain ⟨only, opened, bullet, read, made⟩ := read
  obtain rfl := pure_ok.mp made
  exact ⟨here.1, ⟨opened, trivial⟩, rfl, .cons ⟨_, read⟩ .nil⟩

theorem projectItem_ok {after before ordinal boundary : Nat} {found : Nat × Nat}
    {item : ProjectItem} (here : CommandAt body "\\resumeProjectHeading".toList found)
    (read : projectItem uuid5 digest source body bodyStart after before ordinal boundary found =
      .ok item) : ProjectRead body item := by
  simp only [projectItem, bind_ok, here.2] at read
  obtain ⟨first, opened, second, opened', third, opened'', fourth, opened₄, ⟨⟩, -, ⟨⟩, -,
    bullets, listed, ⟨⟩, -, title, read₁, period, read₂, technologies, read₃, summary, read₄,
    entry, valid, made⟩ := read
  obtain rfl := pure_ok.mp made
  obtain rfl := checked_ok valid
  rw [group_behind opened] at opened'
  rw [group_behind opened'] at opened''
  rw [group_behind opened''] at opened₄
  refine ⟨⟨here.1, ⟨opened, opened', opened'', opened₄, trivial⟩, rfl,
    .cons ⟨_, read₁⟩ (.cons ⟨_, read₂⟩ (.cons ⟨_, read₃⟩ (.cons ⟨_, read₄⟩ .nil)))⟩, rfl, rfl, ?_⟩
  intro bullet member
  obtain ⟨place, known, read⟩ := mem_mapM_ok listed member
  exact bulletItem_ok (commandAt_of_mem (List.fst_mem_of_mem_zipIdx known)) read

theorem projectItems_ok {after before projectEnd ordinal : Nat} {places : List (Nat × Nat)}
    {items : List ProjectItem}
    (here : ∀ found ∈ places, CommandAt body "\\resumeProjectHeading".toList found)
    (read : projectItems uuid5 digest source body bodyStart after before projectEnd ordinal places =
      .ok items) :
    ∀ item ∈ items, ProjectRead body item := by
  induction places generalizing ordinal items with
  | nil =>
    obtain rfl := Except.ok.inj read
    exact nofun
  | cons found rest ih =>
    simp only [projectItems, bind_ok] at read
    obtain ⟨first, read, more, later, made⟩ := read
    obtain rfl := pure_ok.mp made
    exact List.forall_mem_cons.mpr ⟨projectItem_ok (here _ List.mem_cons_self) read,
      ih (fun found member => here found (List.mem_cons_of_mem _ member)) later⟩

theorem group_shifted {index width : Nat} {rest : Text} {found : SourceGroup}
    (opened : group index rest = .ok found) :
    group (index + width) rest = .ok (found.shifted width) := by
  simp only [group] at opened ⊢
  split at opened
  · split at opened
    · cases opened
      simp only [SourceGroup.shifted, Except.ok.injEq, SourceGroup.mk.injEq, true_and, and_true]
      omega
    · cases opened
  · cases opened

/-- A category of skills at a match of its pattern, with the two groups behind `\\textbf`. -/
structure SkillRead (body : Text) (item : MacroItem SkillCategory) : Prop where
  pattern : item.range.stop = item.range.start + skillLength (body.drop item.range.start)
  matched : 0 < skillLength (body.drop item.range.start)
  groups : ∃ label items, item.groups = [label, items] ∧
    GroupsAt body (item.range.start + "\\textbf".toList.length) [label, items] ∧
    item.entry.label = stripText label.value ∧
    item.entry.items = strippedParts ((stripText (items.value.dropWhile fun c =>
      c = '：' || c = ':' || c = ' ')).splitOnP fun c => c = '、' || c = '，')

theorem skillItem_ok {region : Nat} {found : (Nat × Nat) × Nat} {item : MacroItem SkillCategory}
    (here : found.1 ∈ findAll skillLength 0 0 (body.drop region))
    (read : skillItem uuid5 digest source body bodyStart region found = .ok item) :
    SkillRead body item := by
  obtain ⟨index, place, length, positive, -⟩ := mem_findAll here
  rw [Nat.zero_add] at place
  rw [← place, List.drop_drop] at length
  simp only [skillItem, bind_ok, List.drop_drop] at read
  obtain ⟨first, opened, second, opened', entry, valid, made⟩ := read
  obtain rfl := pure_ok.mp made
  obtain rfl := checked_ok valid
  have front := @group_shifted _ region _ _ opened
  have back := @group_shifted _ region _ _ opened'
  have behind : first.behind = body.drop (first.shifted region).stop := by
    have places : region + (found.1.1 + "\\textbf".toList.length) =
        found.1.1 + "\\textbf".toList.length + region := Nat.add_comm ..
    rw [places] at front
    exact group_behind front
  refine ⟨by rw [← length], length ▸ positive, _, _, rfl, ⟨?_, ?_, trivial⟩, rfl, rfl⟩
  · have places : region + found.1.1 + "\\textbf".toList.length =
        found.1.1 + "\\textbf".toList.length + region := by omega
    have places' : region + (found.1.1 + "\\textbf".toList.length) =
        found.1.1 + "\\textbf".toList.length + region := Nat.add_comm ..
    rw [places'] at front
    rw [places]
    exact front
  · rw [behind] at back
    exact back

/-! ## The header -/

theorem blanksThen_some {least : Nat} {keeps : Char → Bool} {rest text : Text} {skipped : Nat}
    (read : blanksThen least keeps rest = some (skipped, text)) :
    text = (rest.drop skipped).takeWhile keeps ∧ text ≠ [] ∧ least ≤ skipped ∧
      skipped ≤ (rest.takeWhile isPythonSpace).length := by
  obtain ⟨count, member, here⟩ := List.exists_of_findSome?_eq_some read
  rw [List.mem_reverse, List.mem_range'_1] at member
  simp only at here
  split at here
  · cases here
  next shown =>
    cases here
    exact ⟨rfl, shown, member.1, by omega⟩

/-- A match of a header pattern: a head, blanks, and the group up to a character it does not
hold. -/
structure HeaderAt (body : Text) (keeps : Char → Bool) (found : HeaderMatch) (width : Nat) :
    Prop where
  group : found.text = (body.drop found.groupStart).takeWhile keeps
  nonempty : found.text ≠ []
  head : found.start + width ≤ found.groupStart
  blanks : found.groupStart ≤ found.start + width +
    ((body.drop (found.start + width)).takeWhile isPythonSpace).length

/-- What a search for a head with a group behind it finds. -/
theorem headerMatch_at {read : Text → Option (Nat × Text)} {head : Text → Nat} {least : Nat}
    {keeps : Char → Bool} (shape : ∀ text, read text = match head text with
      | 0 => none
      | width + 1 => (blanksThen least keeps (text.drop (width + 1))).map fun found =>
        (width + 1 + found.1, found.2))
    {body : Text} {found : HeaderMatch} (matched : headerMatch read body = some found) :
    0 < head (body.drop found.start) ∧
      HeaderAt body keeps found (head (body.drop found.start)) := by
  obtain ⟨⟨start, behind, text⟩, first, rfl⟩ := Option.map_eq_some_iff.mp matched
  obtain ⟨index, place, here, -⟩ := findFirst_some first
  rw [Nat.zero_add] at place
  subst place
  rw [shape] at here
  split at here
  · cases here
  next width headed =>
  obtain ⟨⟨skipped, text'⟩, blanks, made⟩ := Option.map_eq_some_iff.mp here
  cases made
  obtain ⟨cut, shown, -, few⟩ := blanksThen_some blanks
  rw [List.drop_drop] at few
  rw [List.drop_drop, List.drop_drop] at cut
  have place : start + (width + 1 + skipped) = start + (width + 1) + skipped :=
    (Nat.add_assoc ..).symm
  dsimp only
  rw [headed, place]
  exact ⟨Nat.succ_pos width, by simpa only [Nat.add_assoc] using cut, shown, Nat.le_add_right _ _,
    Nat.add_le_add_left few _⟩

/-- How many characters the head of the name has at a place. -/
def nameHead : Text → Nat := headed "\\LARGE\\bfseries\\color".toList bracedLength

theorem headerMatch_name {body : Text} {found : HeaderMatch}
    (matched : headerMatch readName body = some found) : 0 < nameHead (body.drop found.start) ∧
      HeaderAt body (fun c => notBrace c && c ≠ '\\') found (nameHead (body.drop found.start)) :=
  headerMatch_at (fun _ => rfl) matched

theorem wordLength_pos {word text : Text} (here : 0 < wordLength word text) :
    word <+: text ∧ wordLength word text = word.length := by
  unfold wordLength at here ⊢
  split at here
  next begins =>
    rw [if_pos begins]
    exact ⟨List.isPrefixOf_iff_prefix.mp begins, rfl⟩
  · exact absurd here (Nat.lt_irrefl 0)

theorem headerMatch_contact {body : Text} {found : HeaderMatch}
    (matched : headerMatch readContact body = some found) :
    "\\large".toList <+: body.drop found.start ∧
      HeaderAt body (fun c => c ≠ '\n') found "\\large".toList.length := by
  obtain ⟨here, stands⟩ := @headerMatch_at readContact _ _ _ (fun _ => rfl) _ _ matched
  obtain ⟨begins, width⟩ := wordLength_pos here
  rw [width] at stands
  exact ⟨begins, stands⟩

/-! ## The contact line -/

/-- A contact field and the segment of the contact line it was read from. -/
structure ContactRead (segment : Text) (field : ContactField) : Prop where
  parted : '：' ∈ stripText segment
  label : field.label = (stripText segment).takeWhile fun c => c ≠ '：'
  value : field.value = trim (fun c => !notBrace c)
    (stripText (((stripText segment).dropWhile fun c => c ≠ '：').drop 1))

theorem contactField_ok {ordinal offset : Nat} {segment : Text} {field : ContactField}
    (read : contactField uuid5 chars digest source ordinal offset segment = .ok field) :
    ContactRead segment field := by
  simp only [contactField] at read
  split at read
  · cases read
  next parted =>
    obtain rfl := checked_ok read
    rw [not_or] at parted
    exact ⟨by simpa using parted.1, rfl, rfl⟩

theorem contactFields_ok {ordinal offset : Nat} {segments : List Text} {fields : List ContactField}
    (read : contactFields uuid5 chars digest source ordinal offset segments = .ok fields) :
    List.Forall₂ ContactRead segments fields := by
  induction segments generalizing ordinal offset fields with
  | nil =>
    obtain rfl := Except.ok.inj read
    exact .nil
  | cons segment rest ih =>
    simp only [contactFields, bind_ok] at read
    obtain ⟨field, read, fields, later, made⟩ := read
    obtain rfl := pure_ok.mp made
    exact .cons (contactField_ok read) (ih later)

/-! ## The body -/

/-- A body that was read. -/
structure BodyRead (body : Text) (imported : ImportedBody) : Prop where
  whole : imported.body = body
  displayName : headerMatch readName body = some imported.displayName
  contactLine : headerMatch readContact body = some imported.contactLine
  contact : List.Forall₂ ContactRead (imported.contactLine.text.splitOn '|') imported.contact
  education : ∀ item ∈ imported.education, MacroRead body "\\resumeEducationHeading".toList item
    [item.entry.institution, item.entry.qualification, item.entry.period]
  projects : ∀ item ∈ imported.projects, ProjectRead body item
  skills : ∀ item ∈ imported.skills, SkillRead body item
  coverage : checkBodyCoverage body imported.marks imported.bodyStart = .ok ()

theorem parseBody_ok {imported : ImportedBody}
    (read : parseBody uuid5 chars digest source body bodyStart = .ok imported) :
    BodyRead body imported := by
  simp only [parseBody] at read
  split at read
  · split at read
    next displayName contactLine named listed =>
      simp only [bind_ok] at read
      obtain ⟨⟨⟩, -, contact, fields, education, educated, projectEnd, -, projects, built, skills,
        skilled, ⟨⟩, -, ⟨⟩, covered, content, -, made⟩ := read
      obtain rfl := pure_ok.mp made
      refine ⟨rfl, named, listed, contactFields_ok fields, fun item member => ?_, ?_,
        fun item member => ?_, covered⟩
      · obtain ⟨found, known, read⟩ := mem_mapM_ok educated member
        refine educationItem_ok ?_ read
        have here := @commandAt_of_mem body _ 0 body.length _
          (by simpa using List.fst_mem_of_mem_zipIdx known)
        exact here
      · refine projectItems_ok (fun found known => ?_) built
        exact @commandAt_of_mem body _ 0 body.length _ (by simpa using known)
      · obtain ⟨found, known, read⟩ := mem_mapM_ok skilled member
        exact skillItem_ok (List.fst_mem_of_mem_zipIdx known) read
    · cases read
  · cases read

end Items

/-- A complete import has read what stands behind the preamble of the source. -/
theorem readSource_ok {uuid5 : Text → UUID} {chars : CharacterTables}
    {sha256 : ByteArray → Text} {expected expectedPreamble source : Text} {imported : ImportedBody}
    (read : readSource uuid5 chars sha256 expected expectedPreamble source = .ok imported) :
    (partitionAt beginDocument source).map Prod.snd = some imported.body ∧
      BodyRead imported.body imported := by
  simp only [readSource] at read
  split at read
  · cases read
  split at read
  · cases read
  next preamble body parted =>
  split at read
  · cases read
  split at read
  · cases read
  split at read
  · cases read
  · cases read
  next parsed =>
    cases read
    have here := parseBody_ok parsed
    have whole := here.whole
    subst whole
    exact ⟨by rw [parted]; rfl, here⟩

end Pathfinder
