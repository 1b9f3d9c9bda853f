import Pathfinder.Domain.TemplateArtifacts
import Pathfinder.Resume.Rendering

/-!
# What a rendering prints

The renderer reads the texts of a content and nothing else: not the ids, the review marks or
the places in a source. The digested dump of a content determines its texts.
-/
namespace Pathfinder
open JsonTexts

/-! ## The printed content -/

def unplaced : SourceLocationV1 := ⟨1, 1, 1, 1⟩

def ContactField.printed (field : ContactField) : ContactField :=
  ⟨0, .other, field.label, field.value, true, .pending, unplaced⟩

def EducationEntry.printed (entry : EducationEntry) : EducationEntry :=
  ⟨0, entry.institution, entry.qualification, entry.period, unplaced, .pending⟩

def Bullet.printed (bullet : Bullet) : Bullet := ⟨0, bullet.styled⟩

def ProjectEntry.printed (project : ProjectEntry) : ProjectEntry :=
  ⟨0, project.title, project.period, project.technologies, project.summary,
    project.bullets.map Bullet.printed, unplaced, .pending⟩

def SkillCategory.printed (skill : SkillCategory) : SkillCategory :=
  ⟨0, skill.label, skill.items, unplaced, .pending⟩

/-- The content with its texts only. -/
def ResumeContent.printed (content : ResumeContent) : ResumeContent :=
  ⟨0, content.displayName, .pending, content.contact.map ContactField.printed,
    content.education.map EducationEntry.printed, content.projects.map ProjectEntry.printed,
    content.skills.map SkillCategory.printed⟩

theorem projectTex_printed (project : ProjectEntry) :
    projectTex project.printed = projectTex project := by
  simp only [projectTex, ProjectEntry.printed, List.map_map]
  rfl

theorem sectionTex_printed (content : ResumeContent) (part : ResumeSection) :
    sectionTex content.printed part = sectionTex content part := by
  cases part with
  | education =>
    simp only [sectionTex, ResumeContent.printed, List.map_map]
    rfl
  | projects =>
    have same : projectTex ∘ ProjectEntry.printed = projectTex := funext projectTex_printed
    simp only [sectionTex, ResumeContent.printed, List.map_map, same]
  | skills =>
    simp only [sectionTex, ResumeContent.printed, List.map_map]
    rfl

theorem headerTex_printed (parts : TemplateParts) (content : ResumeContent) :
    headerTex parts content.printed = headerTex parts content := by
  simp only [headerTex, ResumeContent.printed, List.map_map]
  rfl

/-- The rendered text is that of the printed content, where the name and the contact of the
profile are the content's own. -/
theorem resumeTex_printed (parts : TemplateParts) {profileContent content : ResumeContent}
    (name : profileContent.displayName = content.displayName)
    (contact : profileContent.contact = content.contact) (order : List ResumeSection) :
    resumeTex parts profileContent content order =
      resumeTex parts content.printed content.printed order := by
  have header : headerTex parts profileContent = headerTex parts content := by
    rw [headerTex, headerTex, name, contact]
  simp only [resumeTex, headerTex_printed, sectionTex_printed, header]

/-! ## The dump determines it -/

/-- Lists that one map does not tell apart are not told apart by a map it determines. -/
theorem map_determines {α β γ : Type} {dump : α → β} {view : α → γ}
    (determines : ∀ x y, dump x = dump y → view x = view y) {first second : List α}
    (same : first.map dump = second.map dump) : first.map view = second.map view := by
  induction first generalizing second with
  | nil =>
    cases second with
    | nil => rfl
    | cons _ _ => cases same
  | cons x rest ih =>
    cases second with
    | nil => cases same
    | cons y later =>
      obtain ⟨here, behind⟩ := List.cons.inj same
      rw [List.map_cons, List.map_cons, determines x y here, ih behind]

theorem map_injective {α β : Type} {dump : α → β} (injective : Function.Injective dump)
    {first second : List α} (same : first.map dump = second.map dump) : first = second := by
  have kept : first.map id = second.map id :=
    map_determines (fun x y alike => injective alike) same
  rwa [List.map_id, List.map_id] at kept

theorem spanJson_injective : Function.Injective EmphasisSpanV1.json := by
  intro first second same
  cases first
  cases second
  simpa [EmphasisSpanV1.json, member, and_comm] using same

theorem styledJson_injective : Function.Injective StyledText.json := by
  intro first second same
  cases first
  cases second
  simp only [StyledText.json, member, Json.object.injEq, List.cons.injEq, Prod.mk.injEq, true_and,
    and_true, Json.array.injEq, Json.string.injEq] at same
  rw [map_injective spanJson_injective same.1, same.2]

theorem stringJson_injective : Function.Injective Json.string :=
  fun _ _ same => Json.string.inj same

theorem contactJson_printed (first second : ContactField) (same : first.json = second.json) :
    first.printed = second.printed := by
  simp only [ContactField.json, member, Json.object.injEq, List.cons.injEq, Prod.mk.injEq,
    true_and, and_true, Json.string.injEq] at same
  rw [ContactField.printed, ContactField.printed, same.2.2.1, same.2.2.2.2.2.2]

theorem educationJson_printed (first second : EducationEntry) (same : first.json = second.json) :
    first.printed = second.printed := by
  simp only [EducationEntry.json, member, Json.object.injEq, List.cons.injEq, Prod.mk.injEq,
    true_and, and_true] at same
  obtain ⟨-, institution, period, qualification, -, -⟩ := same
  rw [EducationEntry.printed, EducationEntry.printed, styledJson_injective institution,
    styledJson_injective period, styledJson_injective qualification]

theorem projectJson_printed (first second : ProjectEntry) (same : first.json = second.json) :
    first.printed = second.printed := by
  simp only [ProjectEntry.json, member, Json.object.injEq, List.cons.injEq, Prod.mk.injEq,
    true_and, and_true, Json.array.injEq] at same
  obtain ⟨-, bullets, -, period, -, -, summary, technologies, title⟩ := same
  have shown : first.bullets.map Bullet.printed = second.bullets.map Bullet.printed :=
    map_determines (fun x y alike => by
      rw [Bullet.printed, Bullet.printed, styledJson_injective alike]) bullets
  rw [ProjectEntry.printed, ProjectEntry.printed, shown, styledJson_injective period,
    styledJson_injective summary, styledJson_injective title,
    map_injective stringJson_injective technologies]

theorem skillJson_printed (first second : SkillCategory) (same : first.json = second.json) :
    first.printed = second.printed := by
  simp only [SkillCategory.json, member, Json.object.injEq, List.cons.injEq, Prod.mk.injEq,
    true_and, and_true, Json.array.injEq, Json.string.injEq] at same
  obtain ⟨-, items, label, -, -⟩ := same
  rw [SkillCategory.printed, SkillCategory.printed, label,
    map_injective stringJson_injective items]

/-- Contents with one dump print the same. -/
theorem contentJson_printed {first second : ResumeContent} (same : first.json = second.json) :
    first.printed = second.printed := by
  simp only [ResumeContent.json, member, Json.object.injEq, List.cons.injEq, Prod.mk.injEq,
    true_and, and_true, Json.array.injEq, Json.string.injEq] at same
  obtain ⟨contact, name, -, -, education, projects, skills⟩ := same
  rw [ResumeContent.printed, ResumeContent.printed, name,
    map_determines contactJson_printed contact, map_determines educationJson_printed education,
    map_determines projectJson_printed projects, map_determines skillJson_printed skills]

theorem sectionJson_injective : Function.Injective ResumeSection.json := by
  intro first second same
  cases first <;> cases second <;> first | rfl | (simp [ResumeSection.json] at same)

theorem configJson_injective : Function.Injective configJson := by
  intro first second same
  simp only [configJson, member, Json.object.injEq, List.cons.injEq, Prod.mk.injEq, true_and,
    and_true, Json.array.injEq] at same
  exact map_injective sectionJson_injective same

end Pathfinder
