import Pathfinder.Resume.ImportReads
import Pathfinder.Resume.Reprinted

/-!
# What an import accounts for

The parts of a body that an import was read from, with what it shows of each, and the other
places the importer may pass over: blanks, braces, comments, commands and layout.
-/
namespace Pathfinder
open Scanning Trimming

/-- A part of the body that was read: its place, its TeX, the text it stands for, the characters
that part this text, and what the import shows of it. -/
structure ReadPart where
  start : Nat
  tex : Text
  denoted : Option Text
  between : Text
  shown : Text

/-- The characters of a text that have to be shown. -/
def ink (between text : Text) : Text :=
  text.filter fun c => !isPythonSpace c && !between.contains c

namespace ReadPart
variable (part : ReadPart)

def range : MarkedRange := ⟨part.start, part.start + part.tex.length⟩

/-- The part is at its place in the body, and the import shows all it stands for. -/
def Shown (body : Text) : Prop :=
  part.tex <+: body.drop part.start ∧
    ∃ text, part.denoted = some text ∧ ink part.between text = ink part.between part.shown

end ReadPart

/-- A part that is taken as it stands. -/
def verbatimPart (between shown : Text) (start : Nat) (tex : Text) : ReadPart :=
  ⟨start, tex, some tex, between, shown⟩

/-- A group that is decoded. -/
def styledPart (between shown : Text) (found : SourceGroup) : ReadPart :=
  ⟨found.start + 1, found.value, (decode found.value).map characters, between, shown⟩

def groupPart (between shown : Text) (found : SourceGroup) : ReadPart :=
  verbatimPart between shown (found.start + 1) found.value

/-- Each group with what is made of it. -/
def partsOf (groups : List SourceGroup) (parts : List (SourceGroup → ReadPart)) : List ReadPart :=
  List.zipWith (fun found part => part found) groups parts

def educationParts (item : MacroItem EducationEntry) : List ReadPart :=
  partsOf item.groups [styledPart [] item.entry.institution.text,
    styledPart [] item.entry.qualification.text, styledPart [] item.entry.period.text]

def bulletParts (bullet : MacroItem Bullet) : List ReadPart :=
  partsOf bullet.groups [styledPart [] bullet.entry.styled.text]

def projectParts (project : ProjectItem) : List ReadPart :=
  partsOf project.heading.groups [styledPart [] project.heading.entry.title.text,
    styledPart [] project.heading.entry.period.text,
    styledPart [','] project.heading.entry.technologies.flatten,
    styledPart [] project.heading.entry.summary.text] ++ project.bullets.flatMap bulletParts

def skillParts (item : MacroItem SkillCategory) : List ReadPart :=
  partsOf item.groups [groupPart [] item.entry.label,
    groupPart "、，：:".toList item.entry.items.flatten]

/-- The command of an item. -/
def commandRange {α : Type} (command : Text) (item : MacroItem α) : MarkedRange :=
  ⟨item.range.start, item.range.start + command.length⟩

def projectCommands (project : ProjectItem) : List MarkedRange :=
  commandRange "\\resumeProjectHeading".toList project.heading ::
    project.bullets.map (commandRange "\\resumeItem".toList)

/-! ## Comments -/

/-- A percent sign behind an even number of backslashes. -/
def opensComment (body : Text) (place : Nat) : Bool :=
  body[place]? = some '%' && ((body.take place).rtakeWhile fun c => c = '\\').length % 2 = 0

/-- A comment that is open at the place began on its line. -/
def inComment (body : Text) (place : Nat) : Bool :=
  (List.range (place + 1)).any fun opening =>
    opensComment body opening && !((body.take place).drop opening).contains '\n'

namespace ImportedBody
variable (imported : ImportedBody)

/-- Every part that was read. -/
def parts : List ReadPart :=
  [verbatimPart [] (stripText imported.displayName.text) imported.displayName.groupStart
      imported.displayName.text,
    verbatimPart "|：\x7b\x7d".toList
      (imported.contact.flatMap fun field => field.label ++ field.value)
      imported.contactLine.groupStart imported.contactLine.text] ++
    imported.education.flatMap educationParts ++ imported.projects.flatMap projectParts ++
    imported.skills.flatMap skillParts

/-- The commands in front of what was read. -/
def commands : List MarkedRange :=
  [⟨imported.displayName.start, imported.displayName.groupStart⟩,
    ⟨imported.contactLine.start, imported.contactLine.groupStart⟩] ++
    imported.education.map (commandRange "\\resumeEducationHeading".toList) ++
    imported.projects.flatMap projectCommands ++
    imported.skills.map (commandRange "\\textbf".toList)

/-- The place is in a layout command of its line, where the items are blank. -/
def inLayout (place : Nat) : Bool :=
  (placed 0 (splitlinesKeepends imported.body)).any fun entry =>
    entry.1 ≤ place && (matchMarks layoutLength 0
      (remainder imported.itemRanges entry.1 entry.2))[place - entry.1]?.any Prod.snd

/-- The place is blank, a brace, in a comment or a layout command, or was read. -/
def accounted (place : Nat) : Bool :=
  (imported.body[place]?.any fun c => isPythonSpace c || !notBrace c) ||
    inComment imported.body place || imported.inLayout place ||
    imported.commands.any (fun range => range.holds place) ||
    imported.parts.any fun part => part.range.holds place

/-- The import shows all of the body that is text, and no comment. -/
structure ShowsBody : Prop where
  whole : ∀ place < imported.body.length, imported.accounted place = true
  shown : ∀ part ∈ imported.parts, part.Shown imported.body
  uncommented : ∀ part ∈ imported.parts, ∀ place, part.range.holds place = true →
    inComment imported.body place = false

end ImportedBody

/-! ## What is shown -/

section Ink
variable {between : Text}

theorem ink_append (first second : Text) :
    ink between (first ++ second) = ink between first ++ ink between second :=
  List.filter_append ..

theorem ink_strip (text : Text) : ink between (stripText text) = ink between text :=
  filter_trim fun c blank => by simp [blank]

theorem ink_nil_of {text : Text} (none : ∀ c ∈ text, isPythonSpace c = true ∨ c ∈ between) :
    ink between text = [] := by
  rw [ink, List.filter_eq_nil_iff]
  intro c member
  rcases none c member with blank | parts
  · simp [blank]
  · simp [parts]

theorem ink_trim {out : Char → Bool} (parts : ∀ c, out c = true → c ∈ between) (text : Text) :
    ink between (trim out text) = ink between text :=
  filter_trim fun c here => by simp [parts c here]

theorem ink_split {separates : Char → Bool} (parts : ∀ c, separates c = true → c ∈ between)
    (text : Text) : ink between (text.splitOnP separates).flatten = ink between text := by
  rw [Lines.flatten_splitOnP, ink, ink, List.filter_filter]
  refine List.filter_congr fun c _ => ?_
  by_cases separator : separates c = true
  · simp [parts c separator]
  · simp [separator]

/-- Parts that are split off at characters between them, and trimmed, show all the text. -/
theorem ink_strippedParts {separates : Char → Bool}
    (parts : ∀ c, separates c = true → c ∈ between) (text : Text) :
    ink between (strippedParts (text.splitOnP separates)).flatten = ink between text := by
  have each (pieces : List Text) : ink between (strippedParts pieces).flatten =
      ink between pieces.flatten := by
    rw [strippedParts, List.flatten_filter_ne_nil]
    induction pieces with
    | nil => rfl
    | cons piece rest ih =>
      rw [List.map_cons, List.flatten_cons, List.flatten_cons, ink_append, ink_append, ink_strip, ih]
  rw [each, ink_split parts]

/-- A styled text shows all that its fragment stands for. -/
theorem ink_styled {fragment : Text} {offset : Nat} {value : StyledText}
    (accepted : styled fragment offset = .ok value) :
    ∃ marks, decode fragment = some marks ∧
      ink between (characters marks) = ink between value.text := by
  obtain ⟨marks, denotes, -, paints⟩ := styled_ok accepted
  refine ⟨marks, denotes, ?_⟩
  have blank_out (mark : Mark) (blank : mark.blank = true) :
      (!isPythonSpace mark.char && !between.contains mark.char) = false := by
    have space : isPythonSpace mark.char = true := blank
    simp [space]
  rw [paints.chars, characters, ink, ink, List.filter_map, List.filter_map, kept,
    List.filter_filter]
  congr 1
  calc marks.filter _ = (trim Mark.blank marks).filter _ := (filter_trim blank_out).symm
    _ = _ := List.filter_congr fun mark _ => ?_
  cases edge : mark.edge with
  | true =>
    have space := mark.edge_blank edge
    simp [space]
  | false => simp

end Ink

/-- The parts of groups are shown where each group's part is. -/
theorem partsOf_shown {body : Text} {groups : List SourceGroup}
    {makes : List (SourceGroup → ReadPart)}
    (each : List.Forall₂ (fun found make => (make found).Shown body) groups makes) :
    ∀ part ∈ partsOf groups makes, part.Shown body := by
  induction each with
  | nil => exact nofun
  | cons first _ ih => exact List.forall_mem_cons.mpr ⟨first, ih⟩

theorem styledPart_shown {body between shown : Text} {found : SourceGroup} {value : StyledText}
    (at_place : found.value <+: body.drop (found.start + 1))
    (accepted : ∃ offset, styled found.value offset = .ok value)
    (same : ink between value.text = ink between shown) :
    (styledPart between shown found).Shown body := by
  obtain ⟨offset, accepted⟩ := accepted
  obtain ⟨marks, denotes, inks⟩ := @ink_styled between _ _ _ accepted
  exact ⟨at_place, characters marks, by simp [styledPart, denotes], inks.trans same⟩

theorem MacroRead.shown {α : Type} {body command : Text} {item : MacroItem α}
    {values : List StyledText} (read : MacroRead body command item values) :
    ∀ part ∈ partsOf item.groups (values.map fun value => styledPart [] value.text),
      part.Shown body := by
  have stand := read.groups.values
  have accepted := read.styled
  clear read
  generalize item.groups = groups at stand accepted
  refine partsOf_shown ?_
  rw [List.forall₂_map_right_iff]
  induction accepted with
  | nil => exact .nil
  | cons first _ ih =>
    rw [List.forall_mem_cons] at stand
    exact .cons (styledPart_shown stand.1 first rfl) (ih stand.2)

theorem ProjectRead.shown {body : Text} {project : ProjectItem} (read : ProjectRead body project) :
    ∀ part ∈ projectParts project, part.Shown body := by
  intro part member
  rcases List.mem_append.mp member with heading | bullets
  · have stand := read.heading.groups.values
    have accepted := read.heading.styled
    generalize project.heading.groups = groups at heading stand accepted
    refine partsOf_shown ?_ part heading
    obtain _ | ⟨title, _ | ⟨period, _ | ⟨technologies, _ | ⟨summary, _ | _⟩⟩⟩⟩ := accepted
    simp only [List.forall_mem_cons] at stand
    obtain ⟨first, second, third, fourth, -⟩ := stand
    refine .cons (styledPart_shown first title rfl) (.cons (styledPart_shown second period rfl)
      (.cons (styledPart_shown third technologies ?_) (.cons
        (styledPart_shown fourth summary rfl) .nil)))
    rw [read.technologies, List.splitOn_eq_splitOnP]
    exact (ink_strippedParts (by simp) _).symm
  · obtain ⟨bullet, listed, here⟩ := List.mem_flatMap.mp bullets
    exact (read.bullets bullet listed).shown part here

theorem SkillRead.shown {body : Text} {item : MacroItem SkillCategory}
    (read : SkillRead body item) : ∀ part ∈ skillParts item, part.Shown body := by
  obtain ⟨label, items, groups, stand, named, listed⟩ := read.groups
  have places := stand.values
  simp only [List.forall_mem_cons] at places
  rw [skillParts, groups]
  refine partsOf_shown (.cons ⟨places.1, _, rfl, ?_⟩ (.cons ⟨places.2.1, _, rfl, ?_⟩ .nil))
  · change ink _ label.value = ink _ item.entry.label
    rw [named, ink_strip]
  · change ink "、，：:".toList items.value = ink "、，：:".toList item.entry.items.flatten
    rw [listed, ink_strippedParts (by simp), ink_strip]
    conv_lhs => rw [← List.takeWhile_append_dropWhile (p := fun c => c = '：' || c = ':' || c = ' ')
      (l := items.value)]
    rw [ink_append, ink_nil_of, List.nil_append]
    intro c member
    have leading := List.mem_takeWhile_imp member
    simp only [Bool.or_eq_true, decide_eq_true_eq] at leading
    rcases leading with (rfl | rfl) | rfl
    · exact .inr (by decide)
    · exact .inr (by decide)
    · exact .inl (by decide)

/-- A contact field shows its segment. -/
theorem ContactRead.shown {segment : Text} {field : ContactField}
    (read : ContactRead segment field) :
    ink "|：\x7b\x7d".toList (field.label ++ field.value) = ink "|：\x7b\x7d".toList segment := by
  have braces : ∀ c, (!notBrace c) = true → c ∈ "|：\x7b\x7d".toList := by
    intro c brace
    simp only [notBrace, Bool.not_eq_true', Bool.and_eq_false_iff, decide_eq_false_iff_not,
      Decidable.not_not] at brace
    rcases brace with rfl | rfl
    · decide
    · decide
  have separator : ink "|：\x7b\x7d".toList
      (((stripText segment).dropWhile fun c => c ≠ '：').take 1) = [] := by
    refine ink_nil_of fun c member => .inr ?_
    have stopped := List.head?_dropWhile_not (fun c : Char => c ≠ '：') (stripText segment)
    cases rest : (stripText segment).dropWhile fun c => c ≠ '：' with
    | nil =>
      rw [rest] at member
      cases member
    | cons d more =>
      rw [rest] at member stopped
      obtain rfl := List.mem_singleton.mp member
      have colon : c = '：' := by simpa using stopped
      rw [colon]
      decide
  have split := List.take_append_drop 1 ((stripText segment).dropWhile fun c => c ≠ '：')
  have whole := List.takeWhile_append_dropWhile (p := fun c : Char => c ≠ '：')
    (l := stripText segment)
  rw [read.label, read.value, ink_append, ink_trim braces, ink_strip]
  conv_rhs => rw [← ink_strip, ← whole, ← split, ink_append, ink_append, separator]
  rfl

theorem contact_shown {segments : List Text} {fields : List ContactField}
    (read : List.Forall₂ ContactRead segments fields) :
    ink "|：\x7b\x7d".toList (fields.flatMap fun field => field.label ++ field.value) =
      ink "|：\x7b\x7d".toList segments.flatten := by
  induction read with
  | nil => rfl
  | cons first _ ih =>
    rw [List.flatMap_cons, List.flatten_cons, ink_append (_ ++ _), first.shown, ih, ← ink_append]

/-- Every part of a complete import is shown. -/
theorem parts_shown {imported : ImportedBody} (read : BodyRead imported.body imported) :
    ∀ part ∈ imported.parts, part.Shown imported.body := by
  intro part member
  simp only [ImportedBody.parts, List.mem_append, List.mem_cons, List.not_mem_nil, or_false,
    List.mem_flatMap] at member
  rcases member with (((rfl | rfl) | ⟨item, known, here⟩) | ⟨project, known, here⟩) |
    ⟨item, known, here⟩
  · have cut := (headerMatch_name read.displayName).2.group
    refine ⟨?_, _, rfl, (ink_strip _).symm⟩
    change imported.displayName.text <+: _
    rw [cut]
    exact List.takeWhile_prefix _
  · have cut := (headerMatch_contact read.contactLine).2.group
    refine ⟨?_, _, rfl, ?_⟩
    · change imported.contactLine.text <+: _
      rw [cut]
      exact List.takeWhile_prefix _
    · change ink _ imported.contactLine.text = ink _ (imported.contact.flatMap _)
      rw [verbatimPart, contact_shown read.contact, List.splitOn_eq_splitOnP, ink_split (by simp)]
  · exact (read.education item known).shown part here
  · exact (read.projects project known).shown part here
  · exact (read.skills item known).shown part here

end Pathfinder
