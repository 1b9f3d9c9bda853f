import Pathfinder.Library.Conditional
import Pathfinder.Domain.TemplateRender

/-!
# When a content renders, and to how much

The renderer fails only on a character it cannot represent, on a project
without bullets, on duplicated ids and on the byte limit. The TeX it writes
otherwise has a size that adds up over the escaped texts.
-/
namespace Pathfinder
open Conditional

/-- Every character has a TeX form. -/
def representable (text : Text) : Bool := text.all fun c => spacing c || !unsupported c

def texChar (c : Char) : Text := if spacing c then [' '] else escapeChar c

/-- The TeX of a representable text. -/
def texOf (text : Text) : Text := text.flatMap texChar

theorem texText_yields (text : Text) :
    Yields (texText text) (representable text = true) (texOf text) := by
  induction text with
  | nil => exact ⟨fun _ => rfl, fun fails => absurd rfl fails⟩
  | cons c rest ih =>
    simp only [texText]
    by_cases blank : spacing c = true
    · rw [if_pos blank]
      refine Yields.value_eq (Yields.congr (Yields.map ih) ?_) ?_
      · simp [representable, blank]
      · simp [texOf, texChar, blank]
    · rw [if_neg blank]
      refine Yields.value_eq (Yields.congr (Yields.guarded (Yields.map ih)) ?_) ?_
      · simp [representable, blank]
      · simp [texOf, texChar, blank]

theorem representable_append (first second : Text) :
    representable (first ++ second) = true ↔
      representable first = true ∧ representable second = true := by
  simp [representable]

/-! ## Styled texts -/

/-- Spans behind an offset, one after the other. -/
def Ordered : Nat → List (Nat × Nat) → Prop
  | _, [] => True
  | offset, (start, stop) :: rest => offset ≤ start ∧ start ≤ stop ∧ Ordered stop rest

theorem mergeFrom_ordered {offset : Nat} {last : Nat × Nat} {rest : List EmphasisSpanV1}
    (behind : offset ≤ last.1) (forward : last.1 ≤ last.2)
    (proper : ∀ span ∈ rest, span.start ≤ span.stop) : Ordered offset (mergeFrom last rest) := by
  induction rest generalizing offset last with
  | nil => exact ⟨behind, forward, trivial⟩
  | cons span rest ih =>
    have others := fun other member => proper other (List.mem_cons_of_mem span member)
    simp only [mergeFrom]
    split
    · exact ih behind (Nat.le_trans forward (Nat.le_max_left _ _)) others
    next apart =>
      exact ⟨behind, forward, ih (Nat.le_of_lt (Nat.lt_of_not_le apart))
        (proper span List.mem_cons_self) others⟩

theorem mergedSpans_ordered {value : StyledText} (valid : value.valid = true) :
    Ordered 0 (mergedSpans value.emphasis) := by
  simp only [StyledText.valid, Bool.and_eq_true, List.all_eq_true, decide_eq_true_eq] at valid
  have proper : ∀ span ∈ value.emphasis.mergeSort spanBefore, span.start ≤ span.stop := by
    intro span member
    have inside := valid.2 span ((List.mergeSort_perm _ _).mem_iff.mp member)
    omega
  unfold mergedSpans
  split
  · trivial
  next span rest sorted =>
    rw [sorted] at proper
    exact mergeFrom_ordered (Nat.zero_le _) (proper span List.mem_cons_self)
      fun other member => proper other (List.mem_cons_of_mem _ member)

theorem slice_append_drop (text : Text) {start stop : Nat} (forward : start ≤ stop) :
    slice text start stop ++ text.drop stop = text.drop start := by
  have whole := List.take_append_drop (stop - start) (text.drop start)
  rwa [List.drop_drop, ← List.drop_take, Nat.add_sub_cancel' forward] at whole

/-- The TeX of a styled text from an offset on. -/
def styledTexFrom (text : Text) : Nat → List (Nat × Nat) → Text
  | offset, [] => texOf (text.drop offset)
  | offset, (start, stop) :: rest =>
    texOf (slice text offset start) ++ "\\textbf\x7b".toList ++ texOf (slice text start stop) ++
      "\x7d".toList ++ styledTexFrom text stop rest

def styledTex (value : StyledText) : Text :=
  styledTexFrom value.text 0 (mergedSpans value.emphasis)

theorem texStyledFrom_yields (text : Text) {offset : Nat} {spans : List (Nat × Nat)}
    (ordered : Ordered offset spans) :
    Yields (texStyledFrom text offset spans) (representable (text.drop offset) = true)
      (styledTexFrom text offset spans) := by
  induction spans generalizing offset with
  | nil => exact texText_yields _
  | cons span rest ih =>
    obtain ⟨start, stop⟩ := span
    obtain ⟨behind, forward, later⟩ := ordered
    refine Yields.congr (Yields.bind (texText_yields _) (Yields.bind (texText_yields _)
      (Yields.bind (ih later) (Yields.pure _)))) ?_
    rw [← slice_append_drop text behind, ← slice_append_drop text forward]
    simp only [representable_append, and_true]

/-- A valid styled text renders if its text does. -/
theorem texStyled_yields {value : StyledText} (valid : value.valid = true) :
    Yields (texStyled value) (representable value.text = true) (styledTex value) :=
  texStyledFrom_yields value.text (mergedSpans_ordered valid)

/-! ## Sections -/

def educationTex (entry : EducationEntry) : Text :=
  "\\resumeEducationHeading".toList ++ braced (styledTex entry.institution) ++
    braced (styledTex entry.qualification) ++ braced (styledTex entry.period)

def projectTex (entry : ProjectEntry) : List Text :=
  ["\\resumeProjectHeading".toList ++ braced (styledTex entry.title) ++
      braced (styledTex entry.period) ++
      braced (List.intercalate "\\skillgap".toList
        (entry.technologies.map fun value => "\\skilltag".toList ++ braced (texOf value))) ++
      braced (styledTex entry.summary),
    "\\resumeItemListStart".toList] ++
    entry.bullets.map (fun bullet => "\\resumeItem".toList ++ braced (styledTex bullet.styled)) ++
    ["\\resumeItemListEnd".toList]

def skillTex (entry : SkillCategory) : Text :=
  "\\textbf".toList ++ braced (texOf entry.label) ++
    braced ('：' :: List.intercalate "、".toList (entry.items.map texOf)) ++ " \\\\".toList

/-- Every text of the entry has a TeX form. -/
def EducationEntry.Renders (entry : EducationEntry) : Prop :=
  representable entry.institution.text = true ∧ representable entry.qualification.text = true ∧
    representable entry.period.text = true

def ProjectEntry.Renders (entry : ProjectEntry) : Prop :=
  entry.bullets ≠ [] ∧ (∀ value ∈ entry.technologies, representable value = true) ∧
    representable entry.title.text = true ∧ representable entry.period.text = true ∧
    representable entry.summary.text = true ∧
    ∀ bullet ∈ entry.bullets, representable bullet.styled.text = true

def SkillCategory.Renders (entry : SkillCategory) : Prop :=
  (∀ value ∈ entry.items, representable value = true) ∧ representable entry.label = true

instance (entry : EducationEntry) : Decidable entry.Renders :=
  inferInstanceAs (Decidable (_ ∧ _))

instance (entry : ProjectEntry) : Decidable entry.Renders :=
  inferInstanceAs (Decidable (_ ∧ _))

instance (entry : SkillCategory) : Decidable entry.Renders :=
  inferInstanceAs (Decidable (_ ∧ _))

section Sections
variable {content : ResumeContent}

theorem sectionEducation_yields (valid : content.education.all EducationEntry.valid = true) :
    Yields (sectionEducation content) (∀ entry ∈ content.education, entry.Renders)
      ("\\resumeEducationListStart".toList :: content.education.map educationTex ++
        ["\\resumeEducationListEnd".toList]) := by
  have each : ∀ entry ∈ content.education, Yields (do
      let institution ← texStyled entry.institution
      let qualification ← texStyled entry.qualification
      let period ← texStyled entry.period
      pure ("\\resumeEducationHeading".toList ++ braced institution ++ braced qualification ++
        braced period)) entry.Renders (educationTex entry) := by
    intro entry member
    have inside := List.all_eq_true.mp valid entry member
    simp only [EducationEntry.valid, Bool.and_eq_true] at inside
    refine Yields.congr (Yields.bind (texStyled_yields inside.1.1.1)
      (Yields.bind (texStyled_yields inside.1.1.2) (Yields.bind (texStyled_yields inside.1.2)
        (Yields.pure _)))) ?_
    simp [EducationEntry.Renders]
  refine Yields.congr (Yields.bind (Yields.mapM each) (Yields.pure _)) ?_
  simp

theorem projectLines_yields {entry : ProjectEntry} (valid : entry.valid = true) :
    Yields (projectLines entry) entry.Renders (projectTex entry) := by
  simp only [ProjectEntry.valid, Bool.and_eq_true, List.all_eq_true] at valid
  obtain ⟨⟨⟨⟨title, period⟩, summary⟩, bullets⟩, -⟩ := valid
  refine Yields.value_eq (Yields.congr (Yields.guarded (Yields.bind
    (Yields.mapM fun value _ => texText_yields value) (Yields.bind (texStyled_yields title)
      (Yields.bind (texStyled_yields period) (Yields.bind (texStyled_yields summary) (Yields.bind
        (Yields.mapM fun bullet member => texStyled_yields (bullets bullet member))
        (Yields.pure _))))))) ?_) ?_
  · simp [ProjectEntry.Renders]
  · simp [projectTex, Function.comp_def]

theorem sectionProjects_yields (valid : content.projects.all ProjectEntry.valid = true) :
    Yields (sectionProjects content) (∀ entry ∈ content.projects, entry.Renders)
      (["\\vspace\x7b-5pt\x7d".toList, "\\resumeProjectListStart".toList] ++
        (content.projects.map projectTex).flatten ++
        ["\\resumeProjectListEnd".toList, "\\vspace\x7b-15pt\x7d".toList]) := by
  have each := fun entry member => projectLines_yields (List.all_eq_true.mp valid entry member)
  refine Yields.congr (Yields.bind (Yields.mapM each) (Yields.pure _)) ?_
  simp

theorem sectionSkills_yields :
    Yields (sectionSkills content) (∀ entry ∈ content.skills, entry.Renders)
      (["\\begin\x7bitemize\x7d".toList, "\\normalsize\x7b\\item\x7b".toList] ++
        content.skills.map skillTex ++ ["\x7d\x7d".toList, "\\end\x7bitemize\x7d".toList,
          "\\vspace\x7b-16pt\x7d".toList]) := by
  refine Yields.congr (Yields.bind (Yields.mapM fun entry _ => Yields.bind
    (Yields.mapM fun value _ => texText_yields value)
    (Yields.bind (texText_yields entry.label) (Yields.pure _))) (Yields.pure _)) ?_
  simp [SkillCategory.Renders]

end Sections

/-! ## The document -/

/-- The lines of a section whose texts have TeX forms. -/
def sectionTex (content : ResumeContent) : ResumeSection → List Text
  | .education => "\\resumeEducationListStart".toList :: content.education.map educationTex ++
      ["\\resumeEducationListEnd".toList]
  | .projects => ["\\vspace\x7b-5pt\x7d".toList, "\\resumeProjectListStart".toList] ++
      (content.projects.map projectTex).flatten ++
      ["\\resumeProjectListEnd".toList, "\\vspace\x7b-15pt\x7d".toList]
  | .skills => ["\\begin\x7bitemize\x7d".toList, "\\normalsize\x7b\\item\x7b".toList] ++
      content.skills.map skillTex ++ ["\x7d\x7d".toList, "\\end\x7bitemize\x7d".toList,
        "\\vspace\x7b-16pt\x7d".toList]

/-- The section's texts have TeX forms and its projects have bullets. -/
def SectionRenders (content : ResumeContent) : ResumeSection → Prop
  | .education => ∀ entry ∈ content.education, entry.Renders
  | .projects => ∀ entry ∈ content.projects, entry.Renders
  | .skills => ∀ entry ∈ content.skills, entry.Renders

instance (content : ResumeContent) : DecidablePred (SectionRenders content)
  | .education => inferInstanceAs (Decidable (∀ entry ∈ content.education, entry.Renders))
  | .projects => inferInstanceAs (Decidable (∀ entry ∈ content.projects, entry.Renders))
  | .skills => inferInstanceAs (Decidable (∀ entry ∈ content.skills, entry.Renders))

theorem sectionLines_yields {content : ResumeContent} (valid : content.valid = true)
    (part : ResumeSection) :
    Yields (sectionLines content part) (SectionRenders content part) (sectionTex content part) := by
  simp only [ResumeContent.valid, Bool.and_eq_true] at valid
  cases part with
  | education => exact sectionEducation_yields valid.1.1.2
  | projects => exact sectionProjects_yields valid.1.2
  | skills => exact sectionSkills_yields

/-- The name and the contact line have TeX forms. -/
def HeaderRenders (profileContent : ResumeContent) : Prop :=
  representable profileContent.displayName = true ∧ ∀ field ∈ profileContent.contact,
    representable field.label = true ∧ representable field.value = true

def headerTex (parts : TemplateParts) (profileContent : ResumeContent) : List Text :=
  [parts.preamble ++ "\\begin\x7bdocument\x7d".toList, [], "\\begin\x7bcenter\x7d".toList,
    "\x7b\\LARGE\\bfseries\\color".toList ++ braced parts.color ++
      ' ' :: texOf profileContent.displayName ++ "\x7d \\\\ \\vspace\x7b1pt\x7d".toList,
    "\\large ".toList ++ List.intercalate " | ".toList (profileContent.contact.map fun field =>
      texOf field.label ++ '：' :: texOf field.value),
    "\\vspace\x7b-8pt\x7d".toList, "\\end\x7bcenter\x7d".toList, []]

theorem headerLines_yields (parts : TemplateParts) (profileContent : ResumeContent) :
    Yields (headerLines parts profileContent) (HeaderRenders profileContent)
      (headerTex parts profileContent) := by
  refine Yields.congr (Yields.bind (texText_yields _) (Yields.bind (Yields.mapM fun field _ =>
    Yields.bind (texText_yields field.label) (Yields.bind (texText_yields field.value)
      (Yields.pure _))) (Yields.pure _))) ?_
  simp [HeaderRenders]

/-- The document of a content whose texts have TeX forms. -/
def resumeTex (parts : TemplateParts) (profileContent content : ResumeContent)
    (order : List ResumeSection) : Text :=
  List.intercalate ['\n'] (headerTex parts profileContent ++ (order.map fun part =>
    ("\\section".toList ++ braced (parts.title part)) :: sectionTex content part ++ [[]]).flatten ++
    ["\\end\x7bdocument\x7d".toList]) ++ ['\n']

theorem renderResumeTex_yields {chars : CharacterTables} (parts : TemplateParts)
    (profileContent : ResumeContent) {content : ResumeContent} (valid : content.valid = true)
    (preferences : ResumePreferencesV1 chars) :
    Yields (renderResumeTex (.ok parts) profileContent content preferences)
      (validateRenderContent profileContent content preferences = .ok () ∧
        HeaderRenders profileContent ∧ (∀ part, SectionRenders content part) ∧
        utf8Length (resumeTex parts profileContent content preferences.values.sectionOrder) ≤
          maxTexBytes)
      (resumeTex parts profileContent content preferences.values.sectionOrder) := by
  have named : ∀ part : ResumeSection, part ∈ preferences.values.sectionOrder := by
    have inside := preferences.valid
    simp only [PreferenceValues.valid, Bool.and_eq_true, sectionOrderValid, List.all_eq_true,
      decide_eq_true_eq] at inside
    intro part
    refine inside.1.1.1.2.2 part ?_
    cases part <;> simp
  refine Yields.congr (Yields.bind (Yields.self _) (Yields.bind (Yields.pure parts) (Yields.bind
    (headerLines_yields parts profileContent) (Yields.bind (Yields.mapM fun part _ =>
      Yields.bind (sectionLines_yields valid part) (Yields.pure _))
      (Yields.guarded (Yields.pure _)))))) ?_
  simp only [true_and, and_true, Nat.not_lt]
  refine and_congr_right fun _ => and_congr_right fun _ => and_congr ?_ Iff.rfl
  exact ⟨fun all part => all part (named part), fun all part _ => all part⟩

end Pathfinder
