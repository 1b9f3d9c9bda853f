import Pathfinder.Db.ResumePublication
import Pathfinder.Resume.Attribution
import Pathfinder.Resume.Lineage
import Pathfinder.Resume.Outcome
import Pathfinder.Resume.TexSize

/-!
# What a renderer sees of an edited content

Whether a content renders, said of its items, and from this said of the base and
the patches: which projects keep a bullet, which texts are the last ones stored
in a field that stays, and how many bytes the outcome takes.
-/
namespace Pathfinder
open LastWriter
variable {chars : CharacterTables}

/-- The texts of a field. -/
def textsReading : Reading (List Text) where
  read
    | .styled value => some [value.text]
    | .label value => some [value]
    | .items values => some values
  plain _ _ := rfl

/-- Every text of the item has a TeX form. -/
def Item.Renders (item : Item) : Prop :=
  ∀ field texts, textsReading.of item field = some texts →
    ∀ text ∈ texts, representable text = true

/-- Every project that the patches leave keeps a bullet. -/
def KeepsBullets (patches : List (PatchV1 chars)) (base : ResumeContent) : Prop :=
  ∀ project ∈ base.projects, Spared patches project.item →
    ∃ bullet ∈ project.bullets, Spared patches (bullet.item project.id)

instance (patches : List (PatchV1 chars)) (base : ResumeContent) :
    Decidable (KeepsBullets patches base) :=
  inferInstanceAs (Decidable (∀ project ∈ base.projects, Spared patches project.item →
    ∃ bullet ∈ project.bullets, Spared patches (bullet.item project.id)))

/-- What the last replacement of a field that stays stored there has a TeX form. -/
def StoresRepresentable (patches : List (PatchV1 chars)) (base : ResumeContent) : Prop :=
  ∀ key texts, LastStored textsReading.effect patches key texts →
    (∃ item ∈ base.items, item.id = key.1 ∧ Spared patches item) →
      ∀ text ∈ texts, representable text = true

/-! ## Rendering by items -/

theorem PatchField.forall_iff {P : PatchField → Prop} :
    (∀ field, P field) ↔ P .bullet ∧ P .title ∧ P .summary ∧ P .period ∧ P .institution ∧
      P .qualification ∧ P .label ∧ P .technologies ∧ P .items := by
  constructor
  · intro all
    exact ⟨all _, all _, all _, all _, all _, all _, all _, all _, all _⟩
  · rintro ⟨bullet, title, summary, period, institution, qualification, label, technologies, items⟩
      field
    cases field <;> assumption

theorem EducationEntry.item_renders (entry : EducationEntry) :
    entry.item.Renders ↔ entry.Renders := by
  simp only [Item.Renders, PatchField.forall_iff]
  simp [Reading.of, textsReading, EducationEntry.item, EducationEntry.field?,
    EducationEntry.Renders, and_comm, and_assoc]

theorem SkillCategory.item_renders (skill : SkillCategory) :
    skill.item.Renders ↔ skill.Renders := by
  simp only [Item.Renders, PatchField.forall_iff]
  simp [Reading.of, textsReading, SkillCategory.item, SkillCategory.field?,
    SkillCategory.Renders, and_comm]

theorem Bullet.item_renders (owner : UUID) (bullet : Bullet) :
    (bullet.item owner).Renders ↔ representable bullet.styled.text = true := by
  simp only [Item.Renders, PatchField.forall_iff]
  simp [Reading.of, textsReading, Bullet.item, Bullet.field?]

theorem ProjectEntry.items_render (project : ProjectEntry) :
    project.Renders ↔ project.bullets ≠ [] ∧ ∀ item ∈ project.items, item.Renders := by
  have own : project.item.Renders ↔ representable project.title.text = true ∧
      representable project.summary.text = true ∧ representable project.period.text = true ∧
      ∀ value ∈ project.technologies, representable value = true := by
    simp only [Item.Renders, PatchField.forall_iff]
    simp [Reading.of, textsReading, ProjectEntry.item, ProjectEntry.field?]
  have bullets : (∀ item ∈ project.bullets.map (Bullet.item project.id), item.Renders) ↔
      ∀ bullet ∈ project.bullets, representable bullet.styled.text = true := by
    simp [Bullet.item_renders]
  rw [ProjectEntry.items, List.forall_mem_cons, own, bullets, ProjectEntry.Renders]
  constructor
  · rintro ⟨nonempty, technologies, title, period, summary, each⟩
    exact ⟨nonempty, ⟨title, summary, period, technologies⟩, each⟩
  · rintro ⟨nonempty, ⟨title, summary, period, technologies⟩, each⟩
    exact ⟨nonempty, technologies, title, period, summary, each⟩

theorem sections_render (content : ResumeContent) :
    (∀ part, SectionRenders content part) ↔
      (∀ project ∈ content.projects, project.bullets ≠ []) ∧
        ∀ item ∈ content.items, item.Renders := by
  have parts : (∀ part, SectionRenders content part) ↔
      (∀ entry ∈ content.education, entry.Renders) ∧
        (∀ entry ∈ content.projects, entry.Renders) ∧ ∀ entry ∈ content.skills, entry.Renders := by
    constructor
    · intro all
      exact ⟨all .education, all .projects, all .skills⟩
    · rintro ⟨education, projects, skills⟩ part
      cases part <;> assumption
  have items : (∀ item ∈ content.items, item.Renders) ↔
      (∀ entry ∈ content.education, entry.Renders) ∧
        (∀ project ∈ content.projects, ∀ item ∈ project.items, item.Renders) ∧
          ∀ entry ∈ content.skills, entry.Renders := by
    simp only [ResumeContent.items, List.forall_mem_append, List.forall_mem_map,
      EducationEntry.item_renders, SkillCategory.item_renders, List.mem_flatMap]
    refine and_congr_right fun _ => and_congr_left fun _ => ?_
    constructor
    · intro all project member item inside
      exact all item ⟨project, member, inside⟩
    · rintro all item ⟨project, member, inside⟩
      exact all project member item inside
  have projects : (∀ entry ∈ content.projects, entry.Renders) ↔
      (∀ project ∈ content.projects, project.bullets ≠ []) ∧
        ∀ project ∈ content.projects, ∀ item ∈ project.items, item.Renders := by
    simp only [ProjectEntry.items_render]
    exact ⟨fun all => ⟨fun project member => (all project member).1,
        fun project member => (all project member).2⟩,
      fun both project member => ⟨both.1 project member, both.2 project member⟩⟩
  rw [parts, items, projects]
  constructor
  · rintro ⟨education, ⟨bullets, each⟩, skills⟩
    exact ⟨bullets, education, each, skills⟩
  · rintro ⟨bullets, education, each, skills⟩
    exact ⟨education, ⟨bullets, each⟩, skills⟩

theorem renderIds_perm (content : ResumeContent) : (renderIds content).Perm content.itemIds := by
  simp only [renderIds, ResumeContent.itemIds, List.cons_append, List.append_assoc]
  refine (List.Perm.append_left _ (List.Perm.append_left _ (List.Perm.append_left _ ?_))).cons _
  exact List.perm_append_comm

/-! ## Rendering after patches -/

namespace Applied
variable {permitted : List UUID} {claims : UUID → Option FactClaim}
  {before after : ResumeContent} {patches : List (PatchV1 chars)}

/-- The projects of the result have bullets if those that stay keep one. -/
theorem bullets_iff (applied : Applied permitted claims before patches after)
    (unique : (before.items.map Item.id).Nodup) :
    (∀ project ∈ after.projects, project.bullets ≠ []) ↔ KeepsBullets patches before := by
  constructor
  · intro filled project member spared
    obtain ⟨survivor, present, same⟩ :=
      applied.stays unique (ResumeContent.project_mem_items member) spared
    obtain ⟨final, listed, rfl⟩ := ResumeContent.project_of_field present (by rw [same.fields]; rfl)
    obtain ⟨bullet, inside⟩ := List.exists_mem_of_ne_nil _ (filled final listed)
    obtain ⟨origin, found, alike, kept⟩ :=
      applied.survivor unique (ResumeContent.bullet_mem_items listed inside)
    obtain ⟨owner, owned, old, within, rfl⟩ :=
      ResumeContent.bullet_of_field found (by rw [alike.fields]; rfl)
    have owners : some owner.id = some final.id := alike.owner
    obtain rfl : owner = project := KeyedList.eq_of_key (separated unique).projects owned member
      ((Option.some.inj owners).trans same.id)
    exact ⟨old, within, kept.of_same alike.symm⟩
  · intro kept final listed
    obtain ⟨origin, found, alike, spared⟩ :=
      applied.survivor unique (ResumeContent.project_mem_items listed)
    obtain ⟨project, member, rfl⟩ := ResumeContent.project_of_field found (by rw [alike.fields]; rfl)
    obtain ⟨bullet, inside, stays⟩ := kept project member (spared.of_same alike.symm)
    obtain ⟨survivor, present, same⟩ :=
      applied.stays unique (ResumeContent.bullet_mem_items member inside) stays
    obtain ⟨owner, owned, new, within, rfl⟩ :=
      ResumeContent.bullet_of_field present (by rw [same.fields]; rfl)
    have owners : some owner.id = some project.id := same.owner
    obtain rfl : owner = final :=
      KeyedList.eq_of_key (separated (applied.unique unique)).projects owned listed
        ((Option.some.inj owners).trans alike.id)
    exact List.ne_nil_of_mem within

/-- The items of the result render if the texts that the patches leave do. -/
theorem items_render_iff (applied : Applied permitted claims before patches after)
    (unique : (before.items.map Item.id).Nodup) (rendered : ∀ item ∈ before.items, item.Renders) :
    (∀ item ∈ after.items, item.Renders) ↔ StoresRepresentable patches before := by
  have known := (textsReading.known_shown unique).applied applied
  constructor
  · rintro renders ⟨id, field⟩ texts stored ⟨item, present, rfl, spared⟩
    obtain ⟨survivor, stays, same⟩ := applied.stays unique present spared
    refine renders survivor stays field texts ?_
    rw [known survivor stays field, same.id]
    exact (replay_eq_some _).mpr (.inl stored)
  · intro stores survivor stays field texts shown
    obtain ⟨origin, present, same, spared⟩ := applied.survivor unique stays
    rw [known survivor stays field] at shown
    rcases (replay_eq_some _).mp shown with stored | ⟨held, -⟩
    · exact stores _ _ stored ⟨origin, present, same.id, spared.of_same same.symm⟩
    · rw [← same.id, ← textsReading.known_shown unique origin present field] at held
      exact rendered origin present field texts held

/-- The result renders if projects keep bullets and the stored texts have TeX forms. -/
theorem sections_render_iff (applied : Applied permitted claims before patches after)
    (unique : (before.items.map Item.id).Nodup) (rendered : ∀ item ∈ before.items, item.Renders) :
    (∀ part, SectionRenders after part) ↔
      KeepsBullets patches before ∧ StoresRepresentable patches before := by
  rw [sections_render, applied.bullets_iff unique, applied.items_render_iff unique rendered]

/-- The result takes the bytes of the outcome in the base's frame. -/
theorem size_eq (applied : Applied permitted claims before patches after)
    (unique : (before.items.map Item.id).Nodup) (parts : TemplateParts)
    (profileContent : ResumeContent) (valid : after.valid = true)
    (preferences : ResumePreferencesV1 chars) :
    utf8Length (resumeTex parts profileContent after preferences.values.sectionOrder) =
      frameSize parts profileContent + ((outcome patches before).map Item.size).sum := by
  have named : sectionOrderValid preferences.values.sectionOrder = true := by
    have inside := preferences.valid
    simp only [PreferenceValues.valid, Bool.and_eq_true] at inside
    exact inside.1.1.1.2
  rw [utf8Length_resumeTex parts profileContent valid, texSize_items parts _ _ named,
    ((applied.items_perm unique).map Item.size).sum_nat]

end Applied
end Pathfinder
