import Pathfinder.Library.Json
import Pathfinder.Domain.PythonText
import Pathfinder.Domain.TemplateRender

/-!
# Rendering with a template

`domain/resume_templates.py` and `render_with_template` with `FixedTemplateRenderer`, the only
renderer there is. SHA-256 is a parameter, and so is what the renderer reads from a template
source behind its preamble. Compile instructions are left out.
-/
namespace Pathfinder
open JsonTexts

/-! ## The digested values -/

def member (key : String) (value : Json) : List Char × Json := (key.toList, value)

def idJson (id : UUID) : Json := .string (uuidText id)

def ReviewMark.json : ReviewMark → Json
  | pending => .string "pending".toList
  | reviewed => .string "reviewed".toList

def ContactKind.json : ContactKind → Json
  | phone => .string "phone".toList
  | email => .string "email".toList
  | other => .string "other".toList

/-- `model_dump(mode="json")`, where the members of every object stand in the order in which
`sort_keys` writes them; likewise below. -/
def SourceLocationV1.json (source : SourceLocationV1) : Json :=
  .object [member "end_column" (.number source.endColumn),
    member "end_line" (.number source.endLine), member "start_column" (.number source.startColumn),
    member "start_line" (.number source.startLine)]

def EmphasisSpanV1.json (span : EmphasisSpanV1) : Json :=
  .object [member "end" (.number span.stop), member "start" (.number span.start)]

def StyledText.json (value : StyledText) : Json :=
  .object [member "emphasis" (.array (value.emphasis.map EmphasisSpanV1.json)),
    member "text" (.string value.text)]

def ContactField.json (field : ContactField) : Json :=
  .object [member "id" (idJson field.id), member "kind" field.kind.json,
    member "label" (.string field.label), member "locked" (.bool field.locked),
    member "review_status" field.reviewStatus.json, member "source" field.source.json,
    member "value" (.string field.value)]

def EducationEntry.json (entry : EducationEntry) : Json :=
  .object [member "id" (idJson entry.id), member "institution" entry.institution.json,
    member "period" entry.period.json, member "qualification" entry.qualification.json,
    member "review_status" entry.reviewStatus.json, member "source" entry.source.json]

def ProjectEntry.json (project : ProjectEntry) : Json :=
  .object [member "bullet_ids" (.array (project.bulletIds.map idJson)),
    member "bullets" (.array (project.bullets.map fun bullet => bullet.styled.json)),
    member "id" (idJson project.id), member "period" project.period.json,
    member "review_status" project.reviewStatus.json, member "source" project.source.json,
    member "summary" project.summary.json,
    member "technologies" (.array (project.technologies.map Json.string)),
    member "title" project.title.json]

def SkillCategory.json (skill : SkillCategory) : Json :=
  .object [member "id" (idJson skill.id),
    member "items" (.array (skill.items.map Json.string)), member "label" (.string skill.label),
    member "review_status" skill.reviewStatus.json, member "source" skill.source.json]

def ResumeContent.json (content : ResumeContent) : Json :=
  .object [member "contact" (.array (content.contact.map ContactField.json)),
    member "display_name" (.string content.displayName),
    member "display_name_id" (idJson content.displayNameId),
    member "display_name_review_status" content.displayNameReviewStatus.json,
    member "education" (.array (content.education.map EducationEntry.json)),
    member "projects" (.array (content.projects.map ProjectEntry.json)),
    member "schema_version" (.number 1),
    member "skills" (.array (content.skills.map SkillCategory.json))]

def ResumeSection.json : ResumeSection → Json
  | education => .string "education".toList
  | projects => .string "projects".toList
  | skills => .string "skills".toList

/-- `{"section_order": preferences.section_order}`. -/
def configJson (sectionOrder : List ResumeSection) : Json :=
  .object [member "section_order" (.array (sectionOrder.map ResumeSection.json))]

/-! ## Templates -/

/-- `TEMPLATE_COMMIT`. -/
def templateCommit : Text := "c056056fcc6f362f8aa9a98f553c5915e4e2eabc".toList

/-- `RENDERER_VERSION`. -/
def fixedRendererVersion : Text := "resume-tex-v1".toList

structure TemplateManifest where
  commit : Text
  sourceSha256 : Text
  preambleSha256 : Text
  rendererVersion : Text
  deriving DecidableEq

structure TemplateRenderResult where
  texBytes : ByteArray
  texSha256 : Text
  contentSha256 : Text
  configSha256 : Text
  manifest : TemplateManifest

/-- `text.split(marker, 1)`, or `text.partition(marker)`: what stands in front of the first
marker, and behind it. -/
def partitionAt {α : Type} [DecidableEq α] (marker : List α) :
    List α → Option (List α × List α)
  | [] => if marker = [] then some ([], []) else none
  | c :: rest =>
    if marker.isPrefixOf (c :: rest) then some ([], (c :: rest).drop marker.length)
    else (partitionAt marker rest).map fun (before, behind) => (c :: before, behind)

def beginDocument : Text := "\\begin\x7bdocument\x7d".toList

/-- What the renderer takes from a source behind the preamble: its section titles and the
color of the name. -/
structure TemplateLayout where
  title : ResumeSection → Text
  color : Text

section Rendering
variable (sha256 : ByteArray → Text)
  (layout : Text → Except StoreError TemplateLayout) {chars : CharacterTables}

/-- `_digest`. -/
def digestJson (value : Json) : Text := sha256 (encodeUtf8 (write value))

/-- The checks of `render_resume_tex` on the source, and what it takes from it. -/
def templateParts (manifest : TemplateManifest) (sourceBytes : ByteArray) : Template :=
  if manifest.commit ≠ templateCommit then
    .error (.validation "resume template version is unsupported")
  else if sha256 sourceBytes ≠ manifest.sourceSha256 then
    .error (.validation "resume template source digest is invalid")
  else match decodeUtf8 sourceBytes with
  | none => .error (.validation "resume template source is invalid")
  | some source =>
    match partitionAt beginDocument source with
    | none => .error (.validation "resume template source is invalid")
    | some (preamble, _) =>
      if sha256 (encodeUtf8 preamble) ≠ manifest.preambleSha256 then
        .error (.validation "resume template preamble is invalid")
      else (layout source).map fun shown => ⟨preamble, shown.title, shown.color⟩

/-- `FixedTemplateRenderer.render`. -/
def fixedRender (sourceBytes : ByteArray) (manifest : TemplateManifest)
    (profileContent content : ResumeContent) (preferences : ResumePreferencesV1 chars) :
    Except StoreError TemplateRenderResult :=
  if manifest.rendererVersion ≠ fixedRendererVersion then
    .error (.validation "resume renderer version is unsupported")
  else
    (renderResumeTex (templateParts sha256 layout manifest sourceBytes) profileContent content
      preferences).map fun tex =>
      { texBytes := encodeUtf8 tex
        texSha256 := sha256 (encodeUtf8 tex)
        contentSha256 := digestJson sha256 content.json
        configSha256 := digestJson sha256 (configJson preferences.values.sectionOrder)
        manifest := manifest }

/-- The bytes in front of the document, as `render_with_template` checks them. -/
def preambleBytes (sourceBytes : ByteArray) : Option ByteArray :=
  (partitionAt (encodeUtf8 beginDocument).data.toList sourceBytes.data.toList).map fun parts =>
    ⟨parts.1.toArray⟩

/-- `render_with_template`, with the fixed renderer. -/
def renderWithTemplate (sourceBytes : ByteArray) (manifest : TemplateManifest)
    (profileContent content : ResumeContent) (preferences : ResumePreferencesV1 chars) :
    Except StoreError TemplateRenderResult :=
  match validateRenderContent profileContent content preferences with
  | .error reason => .error reason
  | .ok () =>
    if sha256 sourceBytes ≠ manifest.sourceSha256 then
      .error (.validation "resume template source digest is invalid")
    else if (preambleBytes sourceBytes).all fun bytes => sha256 bytes ≠ manifest.preambleSha256 then
      .error (.validation "resume template preamble is invalid")
    else match fixedRender sha256 layout sourceBytes manifest profileContent content
        preferences with
    | .error reason => .error reason
    | .ok result =>
      if result.manifest ≠ manifest ∨ result.texBytes.size = 0 ∨
          maxTexBytes < result.texBytes.size ∨ sha256 result.texBytes ≠ result.texSha256 ∨
          result.contentSha256 ≠ digestJson sha256 content.json ∨
          result.configSha256 ≠
            digestJson sha256 (configJson preferences.values.sectionOrder) then
        .error (.validation "resume renderer result identity is invalid")
      else .ok result

end Rendering
end Pathfinder
