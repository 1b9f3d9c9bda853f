import Pathfinder.Guarantees.AttributionExact
import Pathfinder.Resume.TexTokens

/-!
# A text cannot act on the document

Whatever a user or a model wrote, its TeX is a balanced run of plain characters and of the
commands the escaping writes, on one line, and a section built from such texts closes no
group of the document around it.
-/
namespace Pathfinder
open TexLexing Conditional

/-- The TeX can stand anywhere on a line. -/
structure Harmless (allowed : Token → Prop) (tex : Text) : Prop where
  safe : Safe allowed tex
  unbroken : Unbroken tex

theorem harmless_texOf (text : Text) : Harmless TextToken (texOf text) :=
  ⟨texOf_safe text, unbroken_texOf text⟩

theorem texText_harmless {text tex : Text} (accepted : texText text = .ok tex) :
    Harmless TextToken tex := by
  obtain ⟨-, rfl⟩ := ((texText_yields text).iff_ok tex).mp accepted
  exact harmless_texOf text

theorem texText_injective {first second tex : Text} (left : texText first = .ok tex)
    (right : texText second = .ok tex) : spaced first = spaced second := by
  obtain ⟨-, written⟩ := ((texText_yields first).iff_ok tex).mp left
  obtain ⟨-, written'⟩ := ((texText_yields second).iff_ok tex).mp right
  exact texOf_injective (written.trans written'.symm)

theorem texStyled_harmless {value : StyledText} (valid : value.valid = true) {tex : Text}
    (accepted : texStyled value = .ok tex) : Harmless StyledToken tex := by
  obtain ⟨-, rfl⟩ := ((texStyled_yields valid).iff_ok tex).mp accepted
  exact ⟨styledTex_safe value, unbroken_styledTex value⟩

/-! ## Lines of a section -/

theorem educationTex_unbroken (entry : EducationEntry) : Unbroken (educationTex entry) := by
  have command : Unbroken "\\resumeEducationHeading".toList := by decide +kernel
  have cells : Unbroken (braced (styledTex entry.institution)) ∧
      Unbroken (braced (styledTex entry.qualification)) ∧
      Unbroken (braced (styledTex entry.period)) := by
    simp only [unbroken_braced, unbroken_styledTex, and_self]
  have heading := unbroken_append.mpr ⟨command, cells.1⟩
  exact unbroken_append.mpr ⟨unbroken_append.mpr ⟨heading, cells.2.1⟩, cells.2.2⟩

theorem projectTex_unbroken (entry : ProjectEntry) : ∀ line ∈ projectTex entry, Unbroken line := by
  have heading : Unbroken "\\resumeProjectHeading".toList := by decide +kernel
  have gap : Unbroken "\\skillgap".toList := by decide +kernel
  have tag : Unbroken "\\skilltag".toList := by decide +kernel
  have starts : Unbroken "\\resumeItemListStart".toList := by decide +kernel
  have item : Unbroken "\\resumeItem".toList := by decide +kernel
  have ends : Unbroken "\\resumeItemListEnd".toList := by decide +kernel
  have technologies : Unbroken (List.intercalate "\\skillgap".toList
      (entry.technologies.map fun value => "\\skilltag".toList ++ braced (texOf value))) := by
    refine unbroken_intercalate gap fun part member => ?_
    obtain ⟨value, -, rfl⟩ := List.mem_map.mp member
    simp only [unbroken_append, unbroken_braced, unbroken_texOf, tag, and_self]
  intro line member
  simp only [projectTex, List.mem_append, List.mem_cons, List.not_mem_nil, or_false,
    List.mem_map] at member
  rcases member with ((rfl | rfl) | ⟨bullet, -, rfl⟩) | rfl
  · simp only [unbroken_append, unbroken_braced, unbroken_styledTex, heading, technologies,
      and_self]
  · exact starts
  · simp only [unbroken_append, unbroken_braced, unbroken_styledTex, item, and_self]
  · exact ends

theorem skillTex_unbroken (entry : SkillCategory) : Unbroken (skillTex entry) := by
  have command : Unbroken "\\textbf".toList := by decide +kernel
  have comma : Unbroken "、".toList := by decide +kernel
  have breaks : Unbroken " \\\\".toList := by decide +kernel
  have items : Unbroken (List.intercalate "、".toList (entry.items.map texOf)) := by
    refine unbroken_intercalate comma fun part member => ?_
    obtain ⟨item, -, rfl⟩ := List.mem_map.mp member
    exact unbroken_texOf item
  have label : Unbroken (braced (texOf entry.label)) := unbroken_braced.mpr (unbroken_texOf _)
  have listed : Unbroken (braced ('：' :: List.intercalate "、".toList (entry.items.map texOf))) :=
    unbroken_braced.mpr (unbroken_cons.mpr ⟨by decide, items⟩)
  have heading := unbroken_append.mpr ⟨command, label⟩
  exact unbroken_append.mpr ⟨unbroken_append.mpr ⟨heading, listed⟩, breaks⟩

theorem sectionTex_unbroken (content : ResumeContent) (part : ResumeSection) :
    ∀ line ∈ sectionTex content part, Unbroken line := by
  intro line member
  cases part with
  | education =>
    simp only [sectionTex, List.cons_append, List.mem_cons, List.mem_append, List.mem_map,
      List.not_mem_nil, or_false] at member
    rcases member with rfl | ⟨entry, -, rfl⟩ | rfl
    · decide +kernel
    · exact educationTex_unbroken entry
    · decide +kernel
  | projects =>
    simp only [sectionTex, List.mem_append, List.mem_cons, List.mem_flatten, List.mem_map,
      List.not_mem_nil, or_false] at member
    rcases member with ((rfl | rfl) | ⟨lines, ⟨entry, -, rfl⟩, inside⟩) | rfl | rfl
    · decide +kernel
    · decide +kernel
    · exact projectTex_unbroken entry line inside
    · decide +kernel
    · decide +kernel
  | skills =>
    simp only [sectionTex, List.mem_append, List.mem_cons, List.mem_map, List.not_mem_nil,
      or_false] at member
    rcases member with ((rfl | rfl) | ⟨entry, -, rfl⟩) | rfl | rfl | rfl
    · decide +kernel
    · decide +kernel
    · exact skillTex_unbroken entry
    · decide +kernel
    · decide +kernel
    · decide +kernel

theorem sectionLines_harmless {content : ResumeContent} (valid : content.valid = true)
    {part : ResumeSection} {lines : List Text} (accepted : sectionLines content part = .ok lines) :
    Safe BuilderToken (endedLines lines) ∧ ∀ line ∈ lines, Unbroken line := by
  obtain ⟨-, rfl⟩ := ((sectionLines_yields valid part).iff_ok lines).mp accepted
  exact ⟨sectionTex_safe content part, sectionTex_unbroken content part⟩

/-- The contact line, without the size in front of it. -/
def contactLine (profileContent : ResumeContent) : Text :=
  List.intercalate " | ".toList (profileContent.contact.map fun field =>
    texOf field.label ++ '：' :: texOf field.value)

theorem contactLine_harmless (profileContent : ResumeContent) :
    Harmless TextToken (contactLine profileContent) := by
  have bar : Harmless TextToken " | ".toList := by
    have plain : " | ".toList = texOf " | ".toList := by decide +kernel
    rw [plain]
    exact harmless_texOf _
  have colon : Safe TextToken ['：'] := .char (by decide) (by decide) (by decide) (by decide)
  have unbroken : '：' ≠ '\r' ∧ '：' ≠ '\n' := by decide
  constructor
  · refine safe_intercalate bar.safe fun part member => ?_
    obtain ⟨field, -, rfl⟩ := List.mem_map.mp member
    exact (texOf_safe field.label).append (colon.append (texOf_safe field.value))
  · refine unbroken_intercalate bar.unbroken fun part member => ?_
    obtain ⟨field, -, rfl⟩ := List.mem_map.mp member
    simp only [unbroken_append, unbroken_cons, unbroken_texOf, unbroken, ne_eq, not_false_eq_true,
      and_self]

/-! ## The document -/

section
variable {chars : CharacterTables} {profileContent content : ResumeContent}

/-- A document is the template's own text around lines in which no text of a user or a model
can open a command, close a group or begin a comment. -/
theorem document_injection_safe (template : Template) (valid : content.valid = true)
    (preferences : ResumePreferencesV1 chars) {rendered : Text}
    (accepted : renderResumeTex template profileContent content preferences = .ok rendered) :
    (∃ (parts : TemplateParts) (name contact : Text) (lines : ResumeSection → List Text),
      template = .ok parts ∧ texText profileContent.displayName = .ok name ∧
      rendered = List.intercalate ['\n']
        ([parts.preamble ++ "\\begin\x7bdocument\x7d".toList, [],
          "\\begin\x7bcenter\x7d".toList, "\x7b\\LARGE\\bfseries\\color".toList ++
            braced parts.color ++ ' ' :: name ++ "\x7d \\\\ \\vspace\x7b1pt\x7d".toList,
          "\\large ".toList ++ contact, "\\vspace\x7b-8pt\x7d".toList,
          "\\end\x7bcenter\x7d".toList, []] ++
          (preferences.values.sectionOrder.map fun part =>
            ("\\section".toList ++ braced (parts.title part)) :: lines part ++ [[]]).flatten ++
          ["\\end\x7bdocument\x7d".toList]) ++ ['\n'] ∧
      Harmless TextToken name ∧ Harmless TextToken contact ∧
      ∀ part, sectionLines content part = .ok (lines part) ∧
        Safe BuilderToken (endedLines (lines part)) ∧ ∀ line ∈ lines part, Unbroken line) ∧
    (∀ text tex, texText text = .ok tex → Harmless TextToken tex) ∧
    (∀ value tex, value.valid = true → texStyled value = .ok tex → Harmless StyledToken tex) ∧
    (∀ first second tex tex', texText first = .ok tex → texText second = .ok tex' →
      spaced first ≠ spaced second → tex ≠ tex') := by
  refine ⟨?_, fun _ _ => texText_harmless,
    fun _ _ valid => texStyled_harmless valid, ?_⟩
  · cases template with
    | error reason =>
      cases checked : validateRenderContent profileContent content preferences with
      | error reason => simp [renderResumeTex, checked, bind, Except.bind] at accepted
      | ok done => simp [renderResumeTex, checked, bind, Except.bind] at accepted
    | ok parts =>
      have yields := renderResumeTex_yields parts profileContent valid preferences
      obtain ⟨⟨-, header, sections, -⟩, rfl⟩ := (yields.iff_ok rendered).mp accepted
      have written (part : ResumeSection) :
          sectionLines content part = .ok (sectionTex content part) :=
        (sectionLines_yields valid part).1 (sections part)
      refine ⟨parts, _, contactLine profileContent, sectionTex content, rfl,
        (texText_yields _).1 header.1, rfl, harmless_texOf _, contactLine_harmless profileContent,
        ?_⟩
      exact fun part => ⟨written part, sectionLines_harmless valid (written part)⟩
  · intro first second tex tex' left right apart same
    exact apart (texText_injective left (same ▸ right))

end
/-! ## A hostile name -/

def hostileResume : ResumeContent :=
  ⟨1, "\x7d\\input\x7bx\x7d%".toList, .reviewed,
    [⟨2, .other, "a & b".toList, "50%\n\\end".toList, false, .reviewed, ⟨1, 1, 1, 9⟩⟩],
    [], [], [⟨3, "$x_1$".toList, ["^".toList, "~".toList], ⟨1, 1, 1, 9⟩, .reviewed⟩]⟩

theorem hostileResume_renders : ∃ rendered,
    renderResumeTex (.ok ⟨[], fun _ => [], []⟩) hostileResume hostileResume samplePreferences =
      .ok rendered := by
  refine (renderResumeTex_yields _ _ (by decide) _).succeeds_iff.mpr
    ⟨by decide +kernel, ⟨by decide, by decide⟩, ?_, ?_⟩
  · intro part
    cases part <;> decide
  · decide +kernel

theorem hostileResume_safe : ∃ rendered,
    renderResumeTex (.ok ⟨[], fun _ => [], []⟩) hostileResume hostileResume samplePreferences =
      .ok rendered ∧ ∃ name, texText hostileResume.displayName = .ok name ∧
        Harmless TextToken name := by
  obtain ⟨rendered, accepted⟩ := hostileResume_renders
  obtain ⟨⟨-, name, -, -, -, written, -, harmless, -⟩, -⟩ :=
    document_injection_safe _ (by decide) samplePreferences accepted
  exact ⟨rendered, accepted, name, written, harmless⟩

end Pathfinder
