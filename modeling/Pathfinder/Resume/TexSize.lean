import Mathlib.Algebra.BigOperators.Group.List.Basic
import Pathfinder.Resume.Items
import Pathfinder.Resume.Rendering

/-!
# The size of the rendered document

The bytes of the TeX, counted on the content: escaped characters, nine bytes for
every stretch of emphasis, and the fixed text around the entries.
-/
namespace Pathfinder

@[simp] theorem utf8Length_nil : utf8Length [] = 0 := rfl

/-- The bytes of a text when its characters are escaped. -/
def escapedSize (text : Text) : Nat := (text.map fun c => utf8Length (texChar c)).sum

def styledSize (value : StyledText) : Nat :=
  escapedSize value.text + 9 * (mergedSpans value.emphasis).length

/-- The bytes of texts joined by a separator. -/
def joinedSize (separator : Nat) (sizes : List Nat) : Nat :=
  sizes.sum + separator * (sizes.length - 1)

/-- The bytes of lines, each with its line end. -/
def linesSize (lines : List Text) : Nat := (lines.map fun line => utf8Length line + 1).sum

theorem utf8Length_texOf (text : Text) : utf8Length (texOf text) = escapedSize text := by
  induction text with
  | nil => rfl
  | cons c rest ih =>
    simp only [texOf, List.flatMap_cons, utf8Length_append] at ih ⊢
    simp [escapedSize, ih]

theorem escapedSize_append (first second : Text) :
    escapedSize (first ++ second) = escapedSize first + escapedSize second := by
  simp [escapedSize]

theorem utf8Length_styledTexFrom (text : Text) {offset : Nat} {spans : List (Nat × Nat)}
    (ordered : Ordered offset spans) :
    utf8Length (styledTexFrom text offset spans) =
      escapedSize (text.drop offset) + 9 * spans.length := by
  induction spans generalizing offset with
  | nil => simp [styledTexFrom, utf8Length_texOf]
  | cons span rest ih =>
    obtain ⟨start, stop⟩ := span
    obtain ⟨behind, forward, later⟩ := ordered
    have bold : utf8Length "\\textbf\x7b".toList = 8 := by decide
    have close : utf8Length "\x7d".toList = 1 := by decide
    rw [← slice_append_drop text behind, ← slice_append_drop text forward]
    simp only [styledTexFrom, utf8Length_append, utf8Length_texOf, escapedSize_append, ih later,
      bold, close, List.length_cons]
    omega

theorem utf8Length_styledTex {value : StyledText} (valid : value.valid = true) :
    utf8Length (styledTex value) = styledSize value :=
  utf8Length_styledTexFrom value.text (mergedSpans_ordered valid)

theorem utf8Length_braced (text : Text) : utf8Length (braced text) = utf8Length text + 2 := by
  have opening : Char.utf8Size '\x7b' = 1 := by decide
  have closing : Char.utf8Size '\x7d' = 1 := by decide
  simp only [braced, List.cons_append, utf8Length_cons, utf8Length_append, utf8Length_nil, opening,
    closing]
  omega

theorem utf8Length_intercalate (separator : Text) (parts : List Text) :
    utf8Length (List.intercalate separator parts) =
      joinedSize (utf8Length separator) (parts.map utf8Length) := by
  induction parts with
  | nil => rfl
  | cons first rest ih =>
    cases rest with
    | nil => simp [joinedSize]
    | cons second rest =>
      rw [List.intercalate_cons_cons, utf8Length_append, utf8Length_append, ih]
      simp only [joinedSize, List.map_cons, List.sum_cons, List.length_cons, Nat.add_sub_cancel,
        Nat.mul_add]
      omega

theorem linesSize_append (first second : List Text) :
    linesSize (first ++ second) = linesSize first + linesSize second := by
  simp [linesSize]

@[simp] theorem linesSize_cons (line : Text) (rest : List Text) :
    linesSize (line :: rest) = utf8Length line + 1 + linesSize rest := by
  simp [linesSize]

@[simp] theorem linesSize_nil : linesSize [] = 0 := rfl

/-- A joined document with its last line end. -/
theorem utf8Length_document (first : Text) (rest : List Text) :
    utf8Length (List.intercalate ['\n'] (first :: rest) ++ ['\n']) = linesSize (first :: rest) := by
  have newline : Char.utf8Size '\n' = 1 := by decide
  induction rest generalizing first with
  | nil => simp [utf8Length_append, utf8Length_cons, newline]
  | cons second rest ih =>
    rw [List.intercalate_cons_cons, List.append_assoc, utf8Length_append, ih second]
    simp [utf8Length_append, utf8Length_cons, newline]

/-! ## Entries -/

/-- The bytes of fixed text. -/
def literal (text : String) : Nat := utf8Length text.toList

theorem utf8Length_literal (text : String) : utf8Length text.toList = literal text := rfl

def educationSize (entry : EducationEntry) : Nat :=
  literal "\\resumeEducationHeading" + (styledSize entry.institution + 2) +
    (styledSize entry.qualification + 2) + (styledSize entry.period + 2)

def projectSize (entry : ProjectEntry) : Nat :=
  literal "\\resumeProjectHeading" + (styledSize entry.title + 2) + (styledSize entry.period + 2) +
    (joinedSize (literal "\\skillgap")
      (entry.technologies.map fun value => literal "\\skilltag" + (escapedSize value + 2)) + 2) +
    (styledSize entry.summary + 2) + 1 + (literal "\\resumeItemListStart" + 1) +
    (entry.bullets.map fun bullet =>
      literal "\\resumeItem" + (styledSize bullet.styled + 2) + 1).sum +
    (literal "\\resumeItemListEnd" + 1)

def skillSize (entry : SkillCategory) : Nat :=
  literal "\\textbf" + (escapedSize entry.label + 2) +
    (literal "：" + joinedSize (literal "、") (entry.items.map escapedSize) + 2) + literal " \\\\"

theorem utf8Length_educationTex {entry : EducationEntry} (valid : entry.valid = true) :
    utf8Length (educationTex entry) = educationSize entry := by
  simp only [EducationEntry.valid, Bool.and_eq_true] at valid
  unfold educationTex educationSize
  simp only [utf8Length_append, utf8Length_braced, utf8Length_literal,
    utf8Length_styledTex valid.1.1.1, utf8Length_styledTex valid.1.1.2,
    utf8Length_styledTex valid.1.2]

theorem linesSize_projectTex {entry : ProjectEntry} (valid : entry.valid = true) :
    linesSize (projectTex entry) = projectSize entry := by
  simp only [ProjectEntry.valid, Bool.and_eq_true, List.all_eq_true] at valid
  obtain ⟨⟨⟨⟨title, period⟩, summary⟩, bullets⟩, -⟩ := valid
  have technologies : (entry.technologies.map fun value => "\\skilltag".toList ++
      braced (texOf value)).map utf8Length =
      entry.technologies.map fun value => literal "\\skilltag" + (escapedSize value + 2) := by
    simp only [List.map_map, Function.comp_def, utf8Length_append, utf8Length_braced,
      utf8Length_texOf, utf8Length_literal]
  have items : linesSize (entry.bullets.map fun bullet =>
      "\\resumeItem".toList ++ braced (styledTex bullet.styled)) =
      (entry.bullets.map fun bullet =>
        literal "\\resumeItem" + (styledSize bullet.styled + 2) + 1).sum := by
    rw [linesSize, List.map_map]
    refine congrArg List.sum (List.map_congr_left fun bullet member => ?_)
    simp only [Function.comp_apply, utf8Length_append, utf8Length_braced, utf8Length_literal,
      utf8Length_styledTex (bullets bullet member)]
  simp only [projectTex, projectSize, linesSize_append, linesSize_cons, linesSize_nil,
    utf8Length_append, utf8Length_braced, utf8Length_styledTex title, utf8Length_styledTex period,
    utf8Length_styledTex summary, utf8Length_intercalate, utf8Length_literal, technologies, items,
    Nat.add_zero, Nat.add_assoc]

theorem utf8Length_skillTex (entry : SkillCategory) :
    utf8Length (skillTex entry) = skillSize entry := by
  have items : (entry.items.map texOf).map utf8Length = entry.items.map escapedSize := by
    simp [utf8Length_texOf]
  have colon : literal "：" = Char.utf8Size '：' := by decide
  unfold skillTex skillSize
  simp only [utf8Length_append, utf8Length_braced, utf8Length_texOf,
    utf8Length_cons, utf8Length_intercalate, utf8Length_literal, items, colon]

/-! ## The document -/

def sectionSize (content : ResumeContent) : ResumeSection → Nat
  | .education => literal "\\resumeEducationListStart" + 1 +
      (content.education.map fun entry => educationSize entry + 1).sum +
      (literal "\\resumeEducationListEnd" + 1)
  | .projects => literal "\\vspace\x7b-5pt\x7d" + 1 + (literal "\\resumeProjectListStart" + 1) +
      (content.projects.map projectSize).sum +
      (literal "\\resumeProjectListEnd" + 1 + (literal "\\vspace\x7b-15pt\x7d" + 1))
  | .skills => literal "\\begin\x7bitemize\x7d" + 1 + (literal "\\normalsize\x7b\\item\x7b" + 1) +
      (content.skills.map fun entry => skillSize entry + 1).sum +
      (literal "\x7d\x7d" + 1 + (literal "\\end\x7bitemize\x7d" + 1 +
        (literal "\\vspace\x7b-16pt\x7d" + 1)))

theorem linesSize_sectionTex {content : ResumeContent} (valid : content.valid = true)
    (part : ResumeSection) : linesSize (sectionTex content part) = sectionSize content part := by
  simp only [ResumeContent.valid, Bool.and_eq_true, List.all_eq_true] at valid
  cases part with
  | education =>
    have entries : linesSize (content.education.map educationTex) =
        (content.education.map fun entry => educationSize entry + 1).sum := by
      rw [linesSize, List.map_map]
      refine congrArg List.sum (List.map_congr_left fun entry member => ?_)
      simp [utf8Length_educationTex (valid.1.1.2 entry member)]
    simp only [sectionTex, sectionSize, List.cons_append, linesSize_cons, linesSize_append, entries,
      linesSize_nil, utf8Length_literal, Nat.add_zero, Nat.add_assoc]
  | projects =>
    have entries : linesSize (content.projects.map projectTex).flatten =
        (content.projects.map projectSize).sum := by
      rw [linesSize, List.map_flatten, List.sum_flatten, List.map_map, List.map_map]
      refine congrArg List.sum (List.map_congr_left fun entry member => ?_)
      exact linesSize_projectTex (valid.1.2 entry member)
    simp only [sectionTex, sectionSize, linesSize_cons, linesSize_append, entries, linesSize_nil,
      utf8Length_literal, Nat.add_zero, Nat.add_assoc]
  | skills =>
    have entries : linesSize (content.skills.map skillTex) =
        (content.skills.map fun entry => skillSize entry + 1).sum := by
      simp [linesSize, utf8Length_skillTex, Function.comp_def]
    simp only [sectionTex, sectionSize, linesSize_cons, linesSize_append, entries, linesSize_nil,
      utf8Length_literal, Nat.add_zero, Nat.add_assoc]

/-- The bytes of the document. -/
def texSize (parts : TemplateParts) (profileContent content : ResumeContent)
    (order : List ResumeSection) : Nat :=
  linesSize (headerTex parts profileContent) +
    (order.map fun part => literal "\\section" + (utf8Length (parts.title part) + 2) + 1 +
      sectionSize content part + 1).sum + (literal "\\end\x7bdocument\x7d" + 1)

theorem utf8Length_resumeTex (parts : TemplateParts) (profileContent : ResumeContent)
    {content : ResumeContent} (valid : content.valid = true) (order : List ResumeSection) :
    utf8Length (resumeTex parts profileContent content order) =
      texSize parts profileContent content order := by
  have sections : linesSize (order.map fun part =>
      ("\\section".toList ++ braced (parts.title part)) :: sectionTex content part ++ [[]]).flatten =
      (order.map fun part => literal "\\section" + (utf8Length (parts.title part) + 2) + 1 +
        sectionSize content part + 1).sum := by
    rw [linesSize, List.map_flatten, List.sum_flatten, List.map_map, List.map_map]
    refine congrArg List.sum (List.map_congr_left fun part _ => ?_)
    have whole := linesSize_append
      (("\\section".toList ++ braced (parts.title part)) :: sectionTex content part) [[]]
    rw [linesSize_cons, linesSize_sectionTex valid, utf8Length_append, utf8Length_braced,
      utf8Length_literal] at whole
    exact whole
  have header : ∃ first rest, headerTex parts profileContent = first :: rest := ⟨_, _, rfl⟩
  obtain ⟨first, rest, header⟩ := header
  have document := utf8Length_document first (rest ++ ((order.map fun part =>
    ("\\section".toList ++ braced (parts.title part)) :: sectionTex content part ++ [[]]).flatten ++
    ["\\end\x7bdocument\x7d".toList]))
  rw [← List.cons_append, ← header, ← List.append_assoc, linesSize_append, linesSize_append, sections,
    linesSize_cons, linesSize_nil, Nat.add_zero, utf8Length_literal] at document
  exact document

/-! ## The size by items -/

/-- The bytes a field adds; the fixed text of an entry counts with the field only
entries of its kind have. -/
def fieldSize : PatchField → FieldValue → Nat
  | .bullet, .styled value => literal "\\resumeItem" + (styledSize value + 2) + 1
  | .institution, .styled value =>
    literal "\\resumeEducationHeading" + (styledSize value + 2) + 1
  | .summary, .styled value =>
    literal "\\resumeProjectHeading" + (styledSize value + 2) + 1 +
      (literal "\\resumeItemListStart" + 1) + (literal "\\resumeItemListEnd" + 1)
  | .title, .styled value | .period, .styled value | .qualification, .styled value =>
    styledSize value + 2
  | .technologies, .items values => joinedSize (literal "\\skillgap")
      (values.map fun value => literal "\\skilltag" + (escapedSize value + 2)) + 2
  | .label, .label value =>
    literal "\\textbf" + (escapedSize value + 2) + literal " \\\\" + 1
  | .items, .items values =>
    literal "：" + joinedSize (literal "、") (values.map escapedSize) + 2
  | _, _ => 0

def PatchField.all : List PatchField :=
  [.bullet, .title, .summary, .period, .institution, .qualification, .label, .technologies, .items]

def Item.size (item : Item) : Nat :=
  (PatchField.all.map fun field => (item.fields field).elim 0 (fieldSize field)).sum

theorem EducationEntry.item_size (entry : EducationEntry) :
    entry.item.size = educationSize entry + 1 := by
  simp only [Item.size, EducationEntry.item, EducationEntry.field?, PatchField.all, List.map_cons,
    List.map_nil, List.sum_cons, List.sum_nil, Option.elim, fieldSize, educationSize]
  omega

theorem SkillCategory.item_size (skill : SkillCategory) : skill.item.size = skillSize skill + 1 := by
  simp only [Item.size, SkillCategory.item, SkillCategory.field?, PatchField.all, List.map_cons,
    List.map_nil, List.sum_cons, List.sum_nil, Option.elim, fieldSize, skillSize]
  omega

theorem ProjectEntry.items_size (project : ProjectEntry) :
    (project.items.map Item.size).sum = projectSize project := by
  have bullets : ((project.bullets.map (Bullet.item project.id)).map Item.size) =
      project.bullets.map fun bullet =>
        literal "\\resumeItem" + (styledSize bullet.styled + 2) + 1 := by
    rw [List.map_map]
    refine List.map_congr_left fun bullet _ => ?_
    simp [Item.size, Bullet.item, Bullet.field?, PatchField.all, fieldSize]
  simp only [ProjectEntry.items, List.map_cons, List.sum_cons, bullets]
  simp only [Item.size, ProjectEntry.item, ProjectEntry.field?, PatchField.all, List.map_cons,
    List.map_nil, List.sum_cons, List.sum_nil, Option.elim, fieldSize, projectSize]
  omega

/-- The bytes around the entries: the header, the titles and the fixed lines. -/
def frameSize (parts : TemplateParts) (profileContent : ResumeContent) : Nat :=
  linesSize (headerTex parts profileContent) +
    (([.education, .projects, .skills] : List ResumeSection).map fun part =>
      literal "\\section" + (utf8Length (parts.title part) + 2) + 1 +
        sectionSize ⟨0, [], .pending, [], [], [], []⟩ part + 1).sum +
    (literal "\\end\x7bdocument\x7d" + 1)

/-- The size of the document is that of its items in a fixed frame. -/
theorem texSize_items (parts : TemplateParts) (profileContent content : ResumeContent)
    {order : List ResumeSection} (named : sectionOrderValid order = true) :
    texSize parts profileContent content order =
      frameSize parts profileContent + (content.items.map Item.size).sum := by
  have same : order.Perm [.education, .projects, .skills] := by
    simp only [sectionOrderValid, Bool.and_eq_true, List.all_eq_true, decide_eq_true_eq] at named
    refine (List.perm_ext_iff_of_nodup named.1 (by decide)).mpr fun part => ?_
    have every := named.2 part
    cases part <;> simpa using every
  have items : (content.items.map Item.size).sum =
      (content.education.map fun entry => educationSize entry + 1).sum +
        ((content.projects.map projectSize).sum +
          (content.skills.map fun entry => skillSize entry + 1).sum) := by
    have projects : ((content.projects.flatMap ProjectEntry.items).map Item.size).sum =
        (content.projects.map projectSize).sum := by
      rw [List.flatMap, List.map_flatten, List.sum_flatten, List.map_map, List.map_map]
      exact congrArg List.sum (List.map_congr_left fun entry _ => entry.items_size)
    simp only [ResumeContent.items, List.map_append, List.sum_append, projects, List.map_map,
      Function.comp_def, EducationEntry.item_size, SkillCategory.item_size]
  rw [texSize, frameSize, (same.map _).sum_nat, items]
  simp only [List.map_cons, List.map_nil, List.sum_cons, List.sum_nil, sectionSize]
  omega

end Pathfinder
