import Mathlib.Data.List.Flatten
import Mathlib.Data.List.Perm.Subperm
import Pathfinder.Resume.Items

/-!
# What a patch does to the items

Each place `_locate` answers, each way to edit there, and what it does to the
items of the content; then one patch, and the whole loop.
-/
namespace Pathfinder

/-- The location is in `data`, and holds the item. -/
def Location.At (data : ResumeContent) (itemId : UUID) : Location → Prop
  | education index entry => data.education[index]? = some entry ∧ entry.id = itemId
  | projects index project => data.projects[index]? = some project ∧ project.id = itemId
  | bullet index project position found =>
    data.projects[index]? = some project ∧ project.bullets[position]? = some found ∧
      found.id = itemId
  | skills index skill => data.skills[index]? = some skill ∧ skill.id = itemId

def Location.item : Location → Item
  | education _ entry => entry.item
  | projects _ project => project.item
  | bullet _ project _ found => found.item project.id
  | skills _ skill => skill.item

theorem locateInProjects_at {data : ResumeContent} {itemId : UUID} {location : Location}
    (found : locateInProjects data.projects itemId = some location) :
    location.At data itemId := by
  simp only [locateInProjects, Option.bind_eq_some_iff, Prod.exists] at found
  obtain ⟨index, project, first, inside⟩ := found
  obtain ⟨stored, -⟩ := KeyedList.locate_some first
  split at inside
  next same =>
    cases inside
    exact ⟨stored, same⟩
  · simp only [Option.map_eq_some_iff, Prod.exists] at inside
    obtain ⟨position, bullet, second, rfl⟩ := inside
    obtain ⟨held, same⟩ := KeyedList.locate_some second
    exact ⟨stored, held, by simpa using same⟩

theorem locate_at {data : ResumeContent} {itemId : UUID} {location : Location}
    (found : locate data itemId = some location) : location.At data itemId := by
  unfold locate at found
  split at found
  next index entry first =>
    obtain ⟨stored, same⟩ := KeyedList.locate_some first
    cases found
    exact ⟨stored, by simpa using same⟩
  · split at found
    next inside =>
      cases found
      exact locateInProjects_at inside
    · simp only [Option.map_eq_some_iff, Prod.exists] at found
      obtain ⟨index, skill, last, rfl⟩ := found
      obtain ⟨stored, same⟩ := KeyedList.locate_some last
      exact ⟨stored, by simpa using same⟩

/-! ## Fields -/

/-- Two values a field can hold one after the other. -/
def FieldValue.sameKind : FieldValue → FieldValue → Prop
  | styled _, styled _ | label _, label _ | items _, items _ => True
  | _, _ => False

theorem EducationEntry.setField_item {entry : EducationEntry} {field : PatchField}
    {old value : FieldValue} (held : entry.field? field = some old)
    (kind : old.sameKind value) : (entry.setField field value).item = entry.item.write field value := by
  cases field <;> cases held <;> cases value <;> first | exact kind.elim | skip
  all_goals
    simp only [EducationEntry.item, Item.write, EducationEntry.setField, Item.mk.injEq, true_and]
    funext other
    cases other <;> rfl

theorem ProjectEntry.setField_item {project : ProjectEntry} {field : PatchField}
    {old value : FieldValue} (held : project.field? field = some old)
    (kind : old.sameKind value) :
    (project.setField field value).item = project.item.write field value := by
  cases field <;> cases held <;> cases value <;> first | exact kind.elim | skip
  all_goals
    simp only [ProjectEntry.item, Item.write, ProjectEntry.setField, Item.mk.injEq, true_and]
    funext other
    cases other <;> rfl

theorem Bullet.setField_item {bullet : Bullet} {owner : UUID} {field : PatchField}
    {old value : FieldValue} (held : bullet.field? field = some old)
    (kind : old.sameKind value) :
    (bullet.setField field value).item owner = (bullet.item owner).write field value := by
  cases field <;> cases held
  cases value <;> first | exact kind.elim | skip
  simp only [Bullet.item, Item.write, Bullet.setField, Item.mk.injEq, true_and]
  funext other
  cases other <;> rfl

theorem SkillCategory.setField_item {skill : SkillCategory} {field : PatchField}
    {old value : FieldValue} (held : skill.field? field = some old)
    (kind : old.sameKind value) :
    (skill.setField field value).item = skill.item.write field value := by
  cases field <;> cases held <;> cases value <;> first | exact kind.elim | skip
  all_goals
    simp only [SkillCategory.item, Item.write, SkillCategory.setField, Item.mk.injEq, true_and]
    funext other
    cases other <;> rfl

@[simp] theorem EducationEntry.setField_id (entry : EducationEntry) (field : PatchField)
    (value : FieldValue) : (entry.setField field value).id = entry.id := by
  cases field <;> cases value <;> rfl

@[simp] theorem ProjectEntry.setField_id (project : ProjectEntry) (field : PatchField)
    (value : FieldValue) : (project.setField field value).id = project.id := by
  cases field <;> cases value <;> rfl

@[simp] theorem ProjectEntry.setField_bullets (project : ProjectEntry) (field : PatchField)
    (value : FieldValue) : (project.setField field value).bullets = project.bullets := by
  cases field <;> cases value <;> rfl

@[simp] theorem Bullet.setField_id (bullet : Bullet) (field : PatchField) (value : FieldValue) :
    (bullet.setField field value).id = bullet.id := by
  cases field <;> cases value <;> rfl

@[simp] theorem SkillCategory.setField_id (skill : SkillCategory) (field : PatchField)
    (value : FieldValue) : (skill.setField field value).id = skill.id := by
  cases field <;> cases value <;> rfl

/-! ## Editing at a location -/

section Sections
variable {data : ResumeContent} {keep : Item → Prop} {new : Option Item}

theorem edited_education {education : List EducationEntry}
    (edited : Edited (data.education.map EducationEntry.item) (education.map EducationEntry.item)
      keep new)
    (rest : ∀ item ∈ data.projects.flatMap ProjectEntry.items ++
      data.skills.map SkillCategory.item, keep item) :
    Edited data.items { data with education := education }.items keep new :=
  edited.within [] _ (fun _ none => by simp at none) rest

theorem edited_projects {projects : List ProjectEntry}
    (edited : Edited (data.projects.flatMap ProjectEntry.items)
      (projects.flatMap ProjectEntry.items) keep new)
    (education : ∀ item ∈ data.education.map EducationEntry.item, keep item)
    (skills : ∀ item ∈ data.skills.map SkillCategory.item, keep item) :
    Edited data.items { data with projects := projects }.items keep new :=
  edited.within _ _ education skills

theorem edited_skills {skills : List SkillCategory}
    (edited : Edited (data.skills.map SkillCategory.item) (skills.map SkillCategory.item) keep new)
    (rest : ∀ item ∈ data.education.map EducationEntry.item ++
      data.projects.flatMap ProjectEntry.items, keep item) :
    Edited data.items { data with skills := skills }.items keep new := by
  have whole := edited.within _ [] rest (fun _ none => by simp at none)
  simpa [ResumeContent.items] using whole

end Sections

/-- What distinct ids say about the sections: keys inside each, and across. -/
structure Separated (data : ResumeContent) : Prop where
  education : (data.education.map EducationEntry.id).Nodup
  projects : (data.projects.map ProjectEntry.id).Nodup
  skills : (data.skills.map SkillCategory.id).Nodup
  bullets : ∀ project ∈ data.projects, (project.bullets.map Bullet.id).Nodup
  educationApart : ∀ x ∈ data.education.map EducationEntry.item,
    ∀ y ∈ data.projects.flatMap ProjectEntry.items ++ data.skills.map SkillCategory.item,
      x.id ≠ y.id
  skillsApart : ∀ x ∈ data.projects.flatMap ProjectEntry.items,
    ∀ y ∈ data.skills.map SkillCategory.item, x.id ≠ y.id

theorem separated {data : ResumeContent} (unique : (data.items.map Item.id).Nodup) :
    Separated data := by
  simp only [ResumeContent.items, List.map_append] at unique
  obtain ⟨education, rest, outer⟩ := List.nodup_append.mp unique
  obtain ⟨projects, skills, inner⟩ := List.nodup_append.mp rest
  have ofProject : ∀ project ∈ data.projects, (project.items.map Item.id).Nodup := by
    intro project member
    rw [List.map_flatMap] at projects
    exact (List.nodup_flatMap.mp projects).1 project member
  refine ⟨?_, ?_, ?_, ?_, ?_, ?_⟩
  · simpa [EducationEntry.item, Function.comp_def] using education
  · have heads : (data.projects.map ProjectEntry.id).Sublist
        ((data.projects.flatMap ProjectEntry.items).map Item.id) := by
      rw [List.map_flatMap, ← List.flatMap_singleton' (data.projects.map ProjectEntry.id),
        List.flatMap_map]
      exact List.Sublist.flatMap_right _ fun project _ => by
        simp [ProjectEntry.items, ProjectEntry.item]
    exact heads.nodup projects
  · simpa [SkillCategory.item, Function.comp_def] using skills
  · intro project member
    have ids := ofProject project member
    simp only [ProjectEntry.items, List.map_cons, List.map_map, List.nodup_cons] at ids
    simpa [Bullet.item, Function.comp_def] using ids.2
  · intro x left y right
    rw [← List.map_append] at outer
    exact outer _ (List.mem_map_of_mem left) _ (List.mem_map_of_mem right)
  · intro x left y right
    exact inner _ (List.mem_map_of_mem left) _ (List.mem_map_of_mem right)

namespace Separated
variable {data : ResumeContent} (apart : Separated data) {x : Item} {new : Option Item}
include apart

/-- An edit of the entry in its section keeps the other sections. -/
theorem education_edited {education : List EducationEntry}
    (member : x ∈ data.education.map EducationEntry.item)
    (edited : Edited (data.education.map EducationEntry.item) (education.map EducationEntry.item)
      (fun item => item.id ≠ x.id) new) :
    Edited data.items { data with education := education }.items (fun item => item.id ≠ x.id) new :=
  edited_education edited fun item right equal => apart.educationApart x member item right equal.symm

theorem projects_edited {projects : List ProjectEntry}
    (member : x ∈ data.projects.flatMap ProjectEntry.items)
    (edited : Edited (data.projects.flatMap ProjectEntry.items)
      (projects.flatMap ProjectEntry.items) (fun item => item.id ≠ x.id) new) :
    Edited data.items { data with projects := projects }.items (fun item => item.id ≠ x.id) new :=
  edited_projects edited
    (fun item left => apart.educationApart item left x (List.mem_append_left _ member))
    fun item right equal => apart.skillsApart x member item right equal.symm

theorem skills_edited {skills : List SkillCategory}
    (member : x ∈ data.skills.map SkillCategory.item)
    (edited : Edited (data.skills.map SkillCategory.item) (skills.map SkillCategory.item)
      (fun item => item.id ≠ x.id) new) :
    Edited data.items { data with skills := skills }.items (fun item => item.id ≠ x.id) new := by
  refine edited_skills edited fun item left => ?_
  rcases List.mem_append.mp left with education | project
  · exact apart.educationApart item education x (List.mem_append_right _ member)
  · exact apart.skillsApart item project x member

end Separated

theorem ProjectEntry.items_project {project : ProjectEntry} {item : Item}
    (member : item ∈ project.items) : item.owner.getD item.id = project.id := by
  simp only [ProjectEntry.items, List.mem_cons, List.mem_map] at member
  rcases member with rfl | ⟨bullet, -, rfl⟩ <;> rfl

namespace Location
variable {data : ResumeContent} {itemId : UUID} {location : Location}

theorem At.item_id (here : location.At data itemId) : location.item.id = itemId := by
  cases location with
  | education index entry => exact here.2
  | projects index project => exact here.2
  | bullet index project position found => exact here.2.2
  | skills index skill => exact here.2

theorem At.item_mem (here : location.At data itemId) : location.item ∈ data.items := by
  simp only [ResumeContent.items, List.mem_append, List.mem_map, List.mem_flatMap]
  cases location with
  | education index entry => exact .inl ⟨entry, List.mem_of_getElem? here.1, rfl⟩
  | projects index project =>
    exact .inr (.inl ⟨project, List.mem_of_getElem? here.1, List.mem_cons_self⟩)
  | bullet index project position found =>
    refine .inr (.inl ⟨project, List.mem_of_getElem? here.1, List.mem_cons_of_mem _ ?_⟩)
    exact List.mem_map_of_mem (List.mem_of_getElem? here.2.1)
  | skills index skill => exact .inr (.inr ⟨skill, List.mem_of_getElem? here.1, rfl⟩)

/-- Items outside the located entry have another id. -/
theorem At.other_project (here : location.At data itemId)
    (unique : (data.items.map Item.id).Nodup) {owner : ProjectEntry}
    (inside : location.item ∈ owner.items) {x : ProjectEntry} (member : x ∈ data.projects)
    (different : x.id ≠ owner.id) {item : Item} (held : item ∈ x.items) : item.id ≠ itemId := by
  intro same
  have stored : item ∈ data.items := by
    simp only [ResumeContent.items, List.mem_append, List.mem_flatMap]
    exact .inr (.inl ⟨x, member, held⟩)
  have equal := KeyedList.eq_of_key unique stored here.item_mem (same.trans here.item_id.symm)
  subst equal
  exact different ((ProjectEntry.items_project held).symm.trans
    (ProjectEntry.items_project inside))

/-- Items of other projects are kept by an edit of `owner`. -/
theorem At.others_kept (here : location.At data itemId)
    (unique : (data.items.map Item.id).Nodup) {owner : ProjectEntry}
    (inside : location.item ∈ owner.items) :
    ∀ x ∈ data.projects, x.id ≠ owner.id → ∀ item ∈ x.items, item.id ≠ itemId :=
  fun _ member different _ held => here.other_project unique inside member different held

/-- The bullets of a project carry its id as owner and ids of their own. -/
theorem bullet_apart (unique : (data.items.map Item.id).Nodup) {project : ProjectEntry}
    (member : project ∈ data.projects) {bullet : Bullet} (held : bullet ∈ project.bullets) :
    bullet.id ≠ project.id := by
  intro same
  have ids : (project.items.map Item.id).Nodup := by
    simp only [ResumeContent.items, List.map_append, List.nodup_append] at unique
    have inner := unique.2.1.1
    rw [List.map_flatMap] at inner
    exact (List.nodup_flatMap.mp inner).1 project member
  simp only [ProjectEntry.items, List.map_cons, List.map_map, List.nodup_cons] at ids
  exact ids.1 (List.mem_map.mpr ⟨bullet, held, same⟩)

/-- An edit of the bullets of a project. -/
theorem At.bullets_changed {index position : Nat} {project : ProjectEntry} {found : Bullet}
    (here : (bullet index project position found).At data itemId)
    (unique : (data.items.map Item.id).Nodup) {bullets : List Bullet} {new : Option Item}
    (edited : Edited (project.bullets.map (Bullet.item project.id))
      (bullets.map (Bullet.item project.id)) (fun item => item.id ≠ itemId) new) :
    Edited data.items { data with
      projects := data.projects.set index { project with bullets := bullets } }.items
      (fun item => item.id ≠ itemId) new := by
  have apart := separated unique
  have place := here
  obtain ⟨stored, inside, rfl⟩ := here
  have present := List.mem_of_getElem? stored
  have own : found.item project.id ∈ project.items :=
    List.mem_cons_of_mem _ (List.mem_map_of_mem (List.mem_of_getElem? inside))
  have inner := edited.within [project.item] []
    (by simpa [ProjectEntry.item] using
      (bullet_apart unique present (List.mem_of_getElem? inside)).symm) (by simp)
  simp only [List.append_nil] at inner
  exact apart.projects_edited (x := found.item project.id)
    (List.mem_flatMap.mpr ⟨project, present, own⟩)
    (Edited.ofSet apart.projects stored inner (place.others_kept unique own))

/-- A write replaces the item. -/
theorem At.write_edited (here : location.At data itemId)
    (unique : (data.items.map Item.id).Nodup) {field : PatchField} {old value : FieldValue}
    (held : location.field? field = some old) (kind : old.sameKind value) :
    Edited data.items (location.write data field value).items (fun item => item.id ≠ itemId)
      (some (location.item.write field value)) := by
  have apart := separated unique
  have place := here
  cases location with
  | education index entry =>
    obtain ⟨stored, rfl⟩ := here
    have inner := Edited.ofSet_map EducationEntry.item apart.education stored
      (entry.setField field value)
    rw [EducationEntry.setField_item held kind] at inner
    exact apart.education_edited (List.mem_map_of_mem (List.mem_of_getElem? stored)) inner
  | projects index project =>
    obtain ⟨stored, rfl⟩ := here
    have present := List.mem_of_getElem? stored
    have inner : Edited project.items (project.setField field value).items
        (fun item => item.id ≠ project.id) (some (project.item.write field value)) := by
      intro item
      simp only [ProjectEntry.items, ProjectEntry.setField_item held kind,
        ProjectEntry.setField_bullets, ProjectEntry.setField_id, List.mem_cons]
      constructor
      · rintro (rfl | bullet)
        · exact .inl rfl
        · obtain ⟨own, inside, rfl⟩ := List.mem_map.mp bullet
          exact .inr ⟨.inr bullet, bullet_apart unique present inside⟩
      · rintro (fresh | ⟨rfl | bullet, different⟩)
        · exact .inl (Option.some.inj fresh).symm
        · exact absurd rfl different
        · exact .inr bullet
    exact apart.projects_edited (x := project.item)
      (List.mem_flatMap.mpr ⟨project, present, List.mem_cons_self⟩)
      (Edited.ofSet apart.projects stored inner (place.others_kept unique List.mem_cons_self))
  | bullet index project position found =>
    obtain ⟨stored, inside, rfl⟩ := here
    have bullets := Edited.ofSet_map (Bullet.item project.id)
      (apart.bullets project (List.mem_of_getElem? stored)) inside (found.setField field value)
    rw [Bullet.setField_item held kind] at bullets
    exact place.bullets_changed unique bullets
  | skills index skill =>
    obtain ⟨stored, rfl⟩ := here
    have inner := Edited.ofSet_map SkillCategory.item apart.skills stored
      (skill.setField field value)
    rw [SkillCategory.setField_item held kind] at inner
    exact apart.skills_edited (List.mem_map_of_mem (List.mem_of_getElem? stored)) inner

/-- Only a project owns items. -/
theorem At.owns_nothing (here : location.At data itemId)
    (unique : (data.items.map Item.id).Nodup)
    (single : ∀ index project, location ≠ .projects index project) :
    ∀ item ∈ data.items, item.owner ≠ some itemId := by
  have apart := separated unique
  intro item stored owned
  simp only [ResumeContent.items, List.mem_append, List.mem_map, List.mem_flatMap] at stored
  rcases stored with ⟨entry, -, rfl⟩ | ⟨project, member, inside⟩ | ⟨skill, -, rfl⟩
  · cases owned
  · have owner := ProjectEntry.items_project inside
    rw [owned, Option.getD_some] at owner
    have inProjects : project.item ∈ data.projects.flatMap ProjectEntry.items :=
      List.mem_flatMap.mpr ⟨project, member, List.mem_cons_self⟩
    cases location with
    | education index entry =>
      exact apart.educationApart entry.item (List.mem_map_of_mem (List.mem_of_getElem? here.1)) _
        (List.mem_append_left _ inProjects) (here.2.trans owner)
    | projects index found => exact single index found rfl
    | bullet index found position bullet =>
      have equal := KeyedList.eq_of_key unique here.item_mem
        (List.mem_append_right _ (List.mem_append_left _ inProjects))
        (here.item_id.trans owner)
      exact Option.some_ne_none _ (congrArg Item.owner equal)
    | skills index skill =>
      exact apart.skillsApart _ inProjects skill.item
        (List.mem_map_of_mem (List.mem_of_getElem? here.1)) (owner.symm.trans here.2.symm)
  · cases owned

/-- A removal takes the item, and a project's bullets with it. -/
theorem At.remove_edited (here : location.At data itemId)
    (unique : (data.items.map Item.id).Nodup) :
    Edited data.items (location.remove data).items
      (fun item => item.id ≠ itemId ∧ item.owner ≠ some itemId) none := by
  have apart := separated unique
  have place := here
  have alone : (∀ index project, location ≠ .projects index project) →
      ∀ item ∈ data.items, item.id ≠ itemId ↔ item.id ≠ itemId ∧ item.owner ≠ some itemId :=
    fun single item member => (and_iff_left (place.owns_nothing unique single item member)).symm
  cases location with
  | education index entry =>
    obtain ⟨stored, rfl⟩ := here
    refine Edited.congr ?_ (alone fun _ _ => by simp)
    exact apart.education_edited (List.mem_map_of_mem (List.mem_of_getElem? stored))
      (Edited.ofErase_map EducationEntry.item apart.education stored)
  | projects index project =>
    obtain ⟨stored, rfl⟩ := here
    have present := List.mem_of_getElem? stored
    have member : project.item ∈ data.projects.flatMap ProjectEntry.items :=
      List.mem_flatMap.mpr ⟨project, present, List.mem_cons_self⟩
    have ownerless : ∀ item ∈ data.items, item.owner = some project.id →
        item ∈ project.items := by
      intro item stored owned
      simp only [ResumeContent.items, List.mem_append, List.mem_map, List.mem_flatMap] at stored
      rcases stored with ⟨entry, -, rfl⟩ | ⟨other, held, inside⟩ | ⟨skill, -, rfl⟩
      · cases owned
      · have owner := ProjectEntry.items_project inside
        rw [owned, Option.getD_some] at owner
        rwa [KeyedList.eq_of_key apart.projects held present owner.symm] at inside
      · cases owned
    refine edited_projects (Edited.ofErase apart.projects stored ?_ ?_) ?_ ?_
    · intro item inside kept
      have owner := ProjectEntry.items_project inside
      cases owned : item.owner with
      | none => exact kept.1 (by simpa [owned] using owner)
      | some q => exact kept.2 (by simpa [owned] using owner)
    · intro x held different item inside
      refine ⟨place.others_kept unique List.mem_cons_self x held different item inside, ?_⟩
      intro owned
      have owner := ProjectEntry.items_project inside
      rw [owned, Option.getD_some] at owner
      exact different owner.symm
    · intro item left
      refine ⟨apart.educationApart item left _ (List.mem_append_left _ member), ?_⟩
      obtain ⟨entry, -, rfl⟩ := List.mem_map.mp left
      simp [EducationEntry.item]
    · intro item right
      refine ⟨(apart.skillsApart _ member item right).symm, ?_⟩
      obtain ⟨skill, -, rfl⟩ := List.mem_map.mp right
      simp [SkillCategory.item]
  | bullet index project position found =>
    obtain ⟨stored, inside, rfl⟩ := here
    refine Edited.congr ?_ (alone fun _ _ => by simp)
    exact place.bullets_changed unique (Edited.ofErase_map (Bullet.item project.id)
      (apart.bullets project (List.mem_of_getElem? stored)) inside)
  | skills index skill =>
    obtain ⟨stored, rfl⟩ := here
    refine Edited.congr ?_ (alone fun _ _ => by simp)
    exact apart.skills_edited (List.mem_map_of_mem (List.mem_of_getElem? stored))
      (Edited.ofErase_map SkillCategory.item apart.skills stored)

/-- A move inside a group changes no item. -/
theorem At.move_edited (here : location.At data itemId)
    (unique : (data.items.map Item.id).Nodup) {target : Nat}
    (inside : target < location.groupSize data) :
    Edited data.items (location.move data target).items (fun _ => True) none := by
  have apart := separated unique
  cases location with
  | education index entry =>
    exact edited_education (Edited.ofMove_map _ inside) fun _ _ => trivial
  | projects index project =>
    exact edited_projects (Edited.ofMove inside) (fun _ _ => trivial) fun _ _ => trivial
  | bullet index project position found =>
    have inner := (Edited.ofMove_map (i := position) (Bullet.item project.id) inside).within
      [project.item] [] (fun _ _ => trivial) fun _ _ => trivial
    simp only [List.append_nil] at inner
    exact edited_projects (Edited.ofSet apart.projects here.1 inner fun _ _ _ _ _ => trivial)
      (fun _ _ => trivial) fun _ _ => trivial
  | skills index skill =>
    exact edited_skills (Edited.ofMove_map _ inside) fun _ _ => trivial

end Location

/-! ## Identities after an edit -/

theorem ResumeContent.items_ids (data : ResumeContent) :
    data.items.map Item.id = data.education.map EducationEntry.id ++
      ((data.projects.flatMap fun project => project.id :: project.bulletIds) ++
        data.skills.map SkillCategory.id) := by
  simp [items, List.map_flatMap, ProjectEntry.items, EducationEntry.item, ProjectEntry.item,
    Bullet.item, SkillCategory.item, ProjectEntry.bulletIds, Function.comp_def]

theorem flatMap_set_subperm {α β : Type} {f : α → List β} {l : List α} {i : Nat} {a b : α}
    (stored : l[i]? = some a) (smaller : (f b).Subperm (f a)) :
    ((l.set i b).flatMap f).Subperm (l.flatMap f) := by
  induction l generalizing i with
  | nil => simp
  | cons x rest ih =>
    cases i with
    | zero =>
      cases Option.some.inj stored
      simpa using smaller.append (List.Subperm.refl (rest.flatMap f))
    | succ i => simpa using (List.Subperm.refl (f x)).append (ih (by simpa using stored))

/-- The ids of two edited contents, by what happens to the bullets of one project. -/
theorem projects_ids_subperm {projects : List ProjectEntry} {index : Nat}
    {project : ProjectEntry} (stored : projects[index]? = some project) (edited : ProjectEntry)
    (sameId : edited.id = project.id)
    (smaller : edited.bulletIds.Subperm project.bulletIds) :
    ((projects.set index edited).flatMap fun p => p.id :: p.bulletIds).Subperm
      (projects.flatMap fun p => p.id :: p.bulletIds) :=
  flatMap_set_subperm stored (by rw [sameId]; exact (List.subperm_cons _).mpr smaller)

namespace Location
variable {data : ResumeContent} {itemId : UUID} {location : Location}

theorem At.write_ids (here : location.At data itemId) (field : PatchField) (value : FieldValue) :
    ((location.write data field value).items.map Item.id).Subperm (data.items.map Item.id) := by
  simp only [ResumeContent.items_ids]
  cases location with
  | education index entry =>
    rw [write, KeyedList.map_set_same here.1 (EducationEntry.setField_id entry field value)]
  | projects index project =>
    have smaller := projects_ids_subperm here.1 (project.setField field value) (by simp)
      (by simp [ProjectEntry.bulletIds, List.Subperm.refl])
    exact (List.Subperm.refl _).append (smaller.append (List.Subperm.refl _))
  | bullet index project position found =>
    have same : (project.bullets.set position (found.setField field value)).map Bullet.id =
        project.bullets.map Bullet.id :=
      KeyedList.map_set_same here.2.1 (Bullet.setField_id found field value)
    have smaller := projects_ids_subperm here.1 { project with
      bullets := project.bullets.set position (found.setField field value) } rfl
      (by simp [ProjectEntry.bulletIds, same, List.Subperm.refl])
    exact (List.Subperm.refl _).append (smaller.append (List.Subperm.refl _))
  | skills index skill =>
    rw [write, KeyedList.map_set_same here.1 (SkillCategory.setField_id skill field value)]

theorem At.remove_ids (here : location.At data itemId) :
    ((location.remove data).items.map Item.id).Subperm (data.items.map Item.id) := by
  simp only [ResumeContent.items_ids]
  cases location with
  | education index entry =>
    have smaller := ((List.eraseIdx_sublist data.education index).map EducationEntry.id).subperm
    exact smaller.append (List.Subperm.refl _)
  | projects index project =>
    have smaller := ((List.eraseIdx_sublist data.projects index).flatMap
      fun p => p.id :: p.bulletIds).subperm
    exact (List.Subperm.refl _).append (smaller.append (List.Subperm.refl _))
  | bullet index project position found =>
    have smaller := projects_ids_subperm here.1
      { project with bullets := project.bullets.eraseIdx position } rfl
      ((List.eraseIdx_sublist project.bullets position).map Bullet.id).subperm
    exact (List.Subperm.refl _).append (smaller.append (List.Subperm.refl _))
  | skills index skill =>
    have smaller := ((List.eraseIdx_sublist data.skills index).map SkillCategory.id).subperm
    exact (List.Subperm.refl _).append ((List.Subperm.refl _).append smaller)

theorem At.move_ids (here : location.At data itemId) {target : Nat}
    (inside : target < location.groupSize data) :
    ((location.move data target).items.map Item.id).Subperm (data.items.map Item.id) := by
  simp only [ResumeContent.items_ids]
  cases location with
  | education index entry =>
    have same := ((KeyedList.moveTo_perm data.education index inside).map EducationEntry.id).subperm
    exact same.append (List.Subperm.refl _)
  | projects index project =>
    have same := ((KeyedList.moveTo_perm data.projects index inside).flatMap_right
      fun p => p.id :: p.bulletIds).subperm
    exact (List.Subperm.refl _).append (same.append (List.Subperm.refl _))
  | bullet index project position found =>
    have smaller := projects_ids_subperm here.1
      { project with bullets := KeyedList.moveTo project.bullets position target } rfl
      ((KeyedList.moveTo_perm project.bullets position inside).map Bullet.id).subperm
    exact (List.Subperm.refl _).append (smaller.append (List.Subperm.refl _))
  | skills index skill =>
    have same := ((KeyedList.moveTo_perm data.skills index inside).map SkillCategory.id).subperm
    exact (List.Subperm.refl _).append ((List.Subperm.refl _).append same)

end Location
end Pathfinder
