import Pathfinder.Domain.ResumeProfile

/-!
# Rendering a resume

`resume/template_render.py`. What the renderer reads from the template source
and its manifest is a parameter: the source is checked and taken apart before
any content is looked at. Digests of the result are left out.
-/
namespace Pathfinder

def maxTexBytes : Nat := 512 * 1024

/-- `_ESCAPES.get(char, char)`. -/
def escapeChar : Char → Text
  | '\\' => "\\textbackslash\x7b\x7d".toList
  | '\x7b' => "\\\x7b".toList
  | '\x7d' => "\\\x7d".toList
  | '$' => "\\$".toList
  | '&' => "\\&".toList
  | '#' => "\\#".toList
  | '_' => "\\_".toList
  | '%' => "\\%".toList
  | '~' => "\\textasciitilde\x7b\x7d".toList
  | '^' => "\\textasciicircum\x7b\x7d".toList
  | c => [c]

/-- `char in "\r\n\t\u2028\u2029"`. -/
def spacing (c : Char) : Bool :=
  c = '\r' || c = '\n' || c = '\t' || c = '\u2028' || c = '\u2029'

/-- `ord(char) < 32 or ord(char) == 127`; a `Char` is never a surrogate. -/
def unsupported (c : Char) : Bool := c.toNat < 32 || c.toNat = 127

/-- `_text`. -/
def texText : Text → Except StoreError Text
  | [] => .ok []
  | c :: rest =>
    if spacing c then (texText rest).map fun tail => ' ' :: tail
    else if unsupported c then
      .error (.validation "resume text contains an unsupported character")
    else (texText rest).map fun tail => escapeChar c ++ tail

/-- The loop over the sorted spans: `spans[-1]` is `last`. -/
def mergeFrom (last : Nat × Nat) : List EmphasisSpanV1 → List (Nat × Nat)
  | [] => [last]
  | span :: rest =>
    if span.start ≤ last.2 then mergeFrom (last.1, max last.2 span.stop) rest
    else last :: mergeFrom (span.start, span.stop) rest

/-- `key=lambda item: (item.start, item.end)`. -/
def spanBefore (first second : EmphasisSpanV1) : Bool :=
  first.start < second.start || (first.start = second.start && first.stop ≤ second.stop)

/-- The spans of `_styled`, where touching ones are one. -/
def mergedSpans (emphasis : List EmphasisSpanV1) : List (Nat × Nat) :=
  match emphasis.mergeSort spanBefore with
  | [] => []
  | span :: rest => mergeFrom (span.start, span.stop) rest

/-- `value[start:stop]`. -/
def slice (text : Text) (start stop : Nat) : Text := (text.take stop).drop start

/-- `_styled` from an offset on. -/
def texStyledFrom (text : Text) : Nat → List (Nat × Nat) → Except StoreError Text
  | offset, [] => texText (text.drop offset)
  | offset, (start, stop) :: rest => do
    let plain ← texText (slice text offset start)
    let bold ← texText (slice text start stop)
    let tail ← texStyledFrom text stop rest
    pure (plain ++ "\\textbf\x7b".toList ++ bold ++ "\x7d".toList ++ tail)

/-- `_styled`. -/
def texStyled (value : StyledText) : Except StoreError Text :=
  texStyledFrom value.text 0 (mergedSpans value.emphasis)

def braced (text : Text) : Text := '\x7b' :: text ++ ['\x7d']

/-- `_section_education`. -/
def sectionEducation (content : ResumeContent) : Except StoreError (List Text) := do
  let lines ← content.education.mapM fun entry => do
    let institution ← texStyled entry.institution
    let qualification ← texStyled entry.qualification
    let period ← texStyled entry.period
    pure ("\\resumeEducationHeading".toList ++ braced institution ++ braced qualification ++
      braced period)
  pure ("\\resumeEducationListStart".toList :: lines ++ ["\\resumeEducationListEnd".toList])

/-- The lines of one project. -/
def projectLines (entry : ProjectEntry) : Except StoreError (List Text) :=
  if entry.bullets = [] then .error (.validation "resume project needs at least one bullet")
  else do
    let technologies ← entry.technologies.mapM texText
    let title ← texStyled entry.title
    let period ← texStyled entry.period
    let summary ← texStyled entry.summary
    let bullets ← entry.bullets.mapM fun bullet => texStyled bullet.styled
    pure (["\\resumeProjectHeading".toList ++ braced title ++ braced period ++
        braced (List.intercalate "\\skillgap".toList
          (technologies.map fun value => "\\skilltag".toList ++ braced value)) ++
        braced summary,
      "\\resumeItemListStart".toList] ++
      bullets.map (fun bullet => "\\resumeItem".toList ++ braced bullet) ++
      ["\\resumeItemListEnd".toList])

/-- `_section_projects`. -/
def sectionProjects (content : ResumeContent) : Except StoreError (List Text) := do
  let lines ← content.projects.mapM projectLines
  pure (["\\vspace\x7b-5pt\x7d".toList, "\\resumeProjectListStart".toList] ++ lines.flatten ++
    ["\\resumeProjectListEnd".toList, "\\vspace\x7b-15pt\x7d".toList])

/-- `_section_skills`. -/
def sectionSkills (content : ResumeContent) : Except StoreError (List Text) := do
  let lines ← content.skills.mapM fun entry => do
    let items ← entry.items.mapM texText
    let label ← texText entry.label
    pure ("\\textbf".toList ++ braced label ++
      braced ('：' :: List.intercalate "、".toList items) ++ " \\\\".toList)
  pure (["\\begin\x7bitemize\x7d".toList, "\\normalsize\x7b\\item\x7b".toList] ++ lines ++
    ["\x7d\x7d".toList, "\\end\x7bitemize\x7d".toList, "\\vspace\x7b-16pt\x7d".toList])

/-- What `render_resume_tex` takes from an accepted template source. -/
structure TemplateParts where
  preamble : Text
  title : ResumeSection → Text
  color : Text

/-- The checks of the template source against the manifest, made before a content
is rendered, and the parts of the source they end with. -/
abbrev Template := Except StoreError TemplateParts

def sectionLines (content : ResumeContent) : ResumeSection → Except StoreError (List Text)
  | .education => sectionEducation content
  | .projects => sectionProjects content
  | .skills => sectionSkills content

/-- `all_ids` of `validate_render_content`. -/
def renderIds (content : ResumeContent) : List UUID :=
  content.displayNameId :: content.contact.map ContactField.id ++
    content.education.map EducationEntry.id ++ content.projects.map ProjectEntry.id ++
    content.skills.map SkillCategory.id ++ content.bulletIds

section
variable {chars : CharacterTables}

/-- `validate_render_content`; its arguments are models already. -/
def validateRenderContent (profileContent content : ResumeContent)
    (preferences : ResumePreferencesV1 chars) : Except StoreError Unit :=
  match requireLockedItemsUnchanged profileContent content preferences with
  | .error reason => .error reason
  | .ok () =>
    if hardConstraintIssues content preferences ≠ [] then
      .error (.validation "resume content violates a hard constraint")
    else if content.projects.any fun project => project.bullets = [] then
      .error (.validation "resume project needs at least one bullet")
    else if ¬ (renderIds content).Nodup then
      .error (.validation "resume item identities are duplicated")
    else .ok ()

/-- The lines in front of the sections. -/
def headerLines (parts : TemplateParts) (profileContent : ResumeContent) :
    Except StoreError (List Text) := do
  let name ← texText profileContent.displayName
  let contact ← profileContent.contact.mapM fun field => do
    let label ← texText field.label
    let value ← texText field.value
    pure (label ++ '：' :: value)
  pure [parts.preamble ++ "\\begin\x7bdocument\x7d".toList, [], "\\begin\x7bcenter\x7d".toList,
    "\x7b\\LARGE\\bfseries\\color".toList ++ braced parts.color ++ ' ' :: name ++
      "\x7d \\\\ \\vspace\x7b1pt\x7d".toList,
    "\\large ".toList ++ List.intercalate " | ".toList contact,
    "\\vspace\x7b-8pt\x7d".toList, "\\end\x7bcenter\x7d".toList, []]

/-- `render_resume_tex`. -/
def renderResumeTex (template : Template) (profileContent content : ResumeContent)
    (preferences : ResumePreferencesV1 chars) : Except StoreError Text := do
  validateRenderContent profileContent content preferences
  let parts ← template
  let header ← headerLines parts profileContent
  let sections ← preferences.values.sectionOrder.mapM fun part => do
    let lines ← sectionLines content part
    pure (("\\section".toList ++ braced (parts.title part)) :: lines ++ [[]])
  let lines := header ++ sections.flatten ++ ["\\end\x7bdocument\x7d".toList]
  let rendered := List.intercalate ['\n'] lines ++ ['\n']
  if maxTexBytes < utf8Length rendered then
    .error (.validation "resume tex exceeds the file limit")
  else pure rendered

end
end Pathfinder
