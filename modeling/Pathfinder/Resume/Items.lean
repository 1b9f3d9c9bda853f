import Pathfinder.Domain.ResumeRevision

/-!
# A resume as a set of items

The abstract view of a content: education entries, projects, bullets and skill
categories are items with an identity, fields, and for a bullet the project that
owns it. An edit by position is an edit of this set by identity.
-/
namespace Pathfinder

structure Item where
  id : UUID
  owner : Option UUID
  fields : PatchField → Option FieldValue

/-- The item with one field overwritten. -/
def Item.write (item : Item) (field : PatchField) (value : FieldValue) : Item :=
  { item with fields := Function.update item.fields field (some value) }

/-- Two states of one item: its identity, its owner and the fields it has. -/
structure Item.Same (first second : Item) : Prop where
  id : first.id = second.id
  owner : first.owner = second.owner
  fields : ∀ field, (first.fields field).isSome = (second.fields field).isSome

theorem Item.Same.refl (item : Item) : item.Same item := ⟨rfl, rfl, fun _ => rfl⟩

theorem Item.Same.symm {first second : Item} (same : first.Same second) : second.Same first :=
  ⟨same.id.symm, same.owner.symm, fun field => (same.fields field).symm⟩

theorem Item.Same.trans {first second third : Item} (left : first.Same second)
    (right : second.Same third) : first.Same third :=
  ⟨left.id.trans right.id, left.owner.trans right.owner,
    fun field => (left.fields field).trans (right.fields field)⟩

/-- Overwriting a field that is there. -/
theorem Item.write_same {item : Item} {field : PatchField}
    (held : (item.fields field).isSome = true) (value : FieldValue) :
    (item.write field value).Same item := by
  refine ⟨rfl, rfl, fun other => ?_⟩
  by_cases same : other = field
  · subst same
    simp [Item.write, held]
  · simp [Item.write, Function.update_of_ne same]

def EducationEntry.item (entry : EducationEntry) : Item := ⟨entry.id, none, entry.field?⟩

def ProjectEntry.item (project : ProjectEntry) : Item := ⟨project.id, none, project.field?⟩

def Bullet.item (owner : UUID) (bullet : Bullet) : Item := ⟨bullet.id, some owner, bullet.field?⟩

def SkillCategory.item (skill : SkillCategory) : Item := ⟨skill.id, none, skill.field?⟩

/-- A project and its bullets. -/
def ProjectEntry.items (project : ProjectEntry) : List Item :=
  project.item :: project.bullets.map (Bullet.item project.id)

namespace ResumeContent

def items (content : ResumeContent) : List Item :=
  content.education.map EducationEntry.item ++
    (content.projects.flatMap ProjectEntry.items ++ content.skills.map SkillCategory.item)

/-- The ids of the personal fields, which no patch can reach. -/
def personalIds (content : ResumeContent) : List UUID :=
  content.displayNameId :: content.contact.map ContactField.id

theorem itemIds_perm (content : ResumeContent) :
    content.itemIds.Perm (content.personalIds ++ content.items.map Item.id) := by
  have education : (content.education.map EducationEntry.item).map Item.id =
      content.education.map EducationEntry.id := by simp [EducationEntry.item, Function.comp_def]
  have skills : (content.skills.map SkillCategory.item).map Item.id =
      content.skills.map SkillCategory.id := by simp [SkillCategory.item, Function.comp_def]
  have projects : ((content.projects.flatMap ProjectEntry.items).map Item.id).Perm
      (content.projects.map ProjectEntry.id ++ content.bulletIds) := by
    have ids : (content.projects.flatMap ProjectEntry.items).map Item.id =
        content.projects.flatMap fun project => project.id :: project.bulletIds := by
      simp [List.map_flatMap, ProjectEntry.items, ProjectEntry.item, ProjectEntry.bulletIds,
        Bullet.item, Function.comp_def]
    rw [ids]
    exact (List.map_append_flatMap_perm _ _ _).symm
  simp only [itemIds, personalIds, items, List.map_append, education, skills, List.append_assoc,
    List.cons_append]
  refine (List.Perm.append_left _ (List.Perm.append_left _ ?_)).cons _
  rw [← List.append_assoc]
  exact List.Perm.append_right _ projects.symm

theorem items_unique {content : ResumeContent} (distinct : content.itemIds.Nodup) :
    (content.items.map Item.id).Nodup :=
  (List.nodup_append.mp (content.itemIds_perm.nodup_iff.mp distinct)).2.1

theorem mem_itemIds {content : ResumeContent} (id : UUID) :
    id ∈ content.itemIds ↔ id ∈ content.personalIds ∨ ∃ item ∈ content.items, item.id = id := by
  rw [content.itemIds_perm.mem_iff, List.mem_append, List.mem_map]

theorem project_mem_items {content : ResumeContent} {project : ProjectEntry}
    (member : project ∈ content.projects) : project.item ∈ content.items := by
  refine List.mem_append_right _ (List.mem_append_left _ ?_)
  exact List.mem_flatMap.mpr ⟨project, member, List.mem_cons_self⟩

theorem bullet_mem_items {content : ResumeContent} {project : ProjectEntry} {bullet : Bullet}
    (member : project ∈ content.projects) (inside : bullet ∈ project.bullets) :
    bullet.item project.id ∈ content.items := by
  refine List.mem_append_right _ (List.mem_append_left _ ?_)
  exact List.mem_flatMap.mpr
    ⟨project, member, List.mem_cons_of_mem _ (List.mem_map_of_mem inside)⟩

/-- Only bullets have a bullet field, and only projects a summary. -/
theorem bullet_of_field {content : ResumeContent} {item : Item} (present : item ∈ content.items)
    (held : (item.fields .bullet).isSome) :
    ∃ project ∈ content.projects, ∃ bullet ∈ project.bullets, item = bullet.item project.id := by
  simp only [items, List.mem_append, List.mem_map, List.mem_flatMap, ProjectEntry.items,
    List.mem_cons] at present
  rcases present with ⟨entry, -, rfl⟩ | ⟨project, member, rfl | ⟨bullet, inside, rfl⟩⟩ |
    ⟨skill, -, rfl⟩
  · cases held
  · cases held
  · exact ⟨project, member, bullet, inside, rfl⟩
  · cases held

theorem project_of_field {content : ResumeContent} {item : Item} (present : item ∈ content.items)
    (held : (item.fields .summary).isSome) : ∃ project ∈ content.projects, item = project.item := by
  simp only [items, List.mem_append, List.mem_map, List.mem_flatMap, ProjectEntry.items,
    List.mem_cons] at present
  rcases present with ⟨entry, -, rfl⟩ | ⟨project, member, rfl | ⟨bullet, inside, rfl⟩⟩ |
    ⟨skill, -, rfl⟩
  · cases held
  · exact ⟨project, member, rfl⟩
  · cases held
  · cases held

theorem mem_bulletIds {content : ResumeContent} {id : UUID} :
    id ∈ content.bulletIds ↔ ∃ project ∈ content.projects, ∃ bullet ∈ project.bullets,
      bullet.id = id := by
  simp [bulletIds, ProjectEntry.bulletIds]

end ResumeContent

/-! ## Editing a part of a list of items -/

/-- `after` is `before` without the items that `keep` refuses, and with `new`. -/
def Edited (before after : List Item) (keep : Item → Prop) (new : Option Item) : Prop :=
  ∀ item, item ∈ after ↔ new = some item ∨ (item ∈ before ∧ keep item)

/-- An edit of a part is an edit of the whole, where it keeps the rest. -/
theorem Edited.within {before after : List Item} {keep : Item → Prop}
    {new : Option Item} (edited : Edited before after keep new) (left right : List Item)
    (leftKept : ∀ item ∈ left, keep item) (rightKept : ∀ item ∈ right, keep item) :
    Edited (left ++ (before ++ right)) (left ++ (after ++ right)) keep new := by
  intro item
  simp only [List.mem_append, edited item]
  constructor
  · rintro (here | (fresh | ⟨member, kept⟩) | here)
    · exact .inr ⟨.inl here, leftKept item here⟩
    · exact .inl fresh
    · exact .inr ⟨.inr (.inl member), kept⟩
    · exact .inr ⟨.inr (.inr here), rightKept item here⟩
  · rintro (fresh | ⟨here | here | here, kept⟩)
    · exact .inr (.inl (.inl fresh))
    · exact .inl here
    · exact .inr (.inl (.inr ⟨here, kept⟩))
    · exact .inr (.inr here)

/-- Only the items that are there need to be judged alike. -/
theorem Edited.congr {before after : List Item} {keep keep' : Item → Prop} {new : Option Item}
    (edited : Edited before after keep new) (same : ∀ item ∈ before, keep item ↔ keep' item) :
    Edited before after keep' new := by
  intro item
  rw [edited item]
  exact or_congr_right (and_congr_right fun member => same item member)

theorem Edited.ofPerm {before after : List Item} (same : after.Perm before) :
    Edited before after (fun _ => True) none := by
  intro item
  simp [same.mem_iff]

section Entries
variable {α : Type} {key : α → UUID} {view : α → List Item} {l : List α} {i : Nat} {a : α}

/-- Storing `b` over `a` edits the items of the list where it edits those of `a`. -/
theorem Edited.ofSet (unique : (l.map key).Nodup) (stored : l[i]? = some a) {b : α}
    {keep : Item → Prop} {new : Option Item} (edited : Edited (view a) (view b) keep new)
    (othersKept : ∀ x ∈ l, key x ≠ key a → ∀ item ∈ view x, keep item) :
    Edited (l.flatMap view) ((l.set i b).flatMap view) keep new := by
  have present : a ∈ l := List.mem_of_getElem? stored
  intro item
  simp only [List.mem_flatMap, KeyedList.mem_set unique stored]
  constructor
  · rintro ⟨x, rfl | ⟨member, different⟩, inside⟩
    · rcases (edited item).mp inside with fresh | ⟨old, kept⟩
      · exact .inl fresh
      · exact .inr ⟨⟨a, present, old⟩, kept⟩
    · exact .inr ⟨⟨x, member, inside⟩, othersKept x member different item inside⟩
  · rintro (fresh | ⟨⟨x, member, inside⟩, kept⟩)
    · exact ⟨b, .inl rfl, (edited item).mpr (.inl fresh)⟩
    · by_cases same : key x = key a
      · have equal := KeyedList.eq_of_key unique member present same
        subst equal
        exact ⟨b, .inl rfl, (edited item).mpr (.inr ⟨inside, kept⟩)⟩
      · exact ⟨x, .inr ⟨member, same⟩, inside⟩

/-- Removing `a` removes its items. -/
theorem Edited.ofErase (unique : (l.map key).Nodup) (stored : l[i]? = some a)
    {keep : Item → Prop} (gone : ∀ item ∈ view a, ¬ keep item)
    (othersKept : ∀ x ∈ l, key x ≠ key a → ∀ item ∈ view x, keep item) :
    Edited (l.flatMap view) ((l.eraseIdx i).flatMap view) keep none := by
  have present : a ∈ l := List.mem_of_getElem? stored
  intro item
  simp only [List.mem_flatMap, KeyedList.mem_eraseIdx unique stored, reduceCtorEq, false_or]
  constructor
  · rintro ⟨x, ⟨member, different⟩, inside⟩
    exact ⟨⟨x, member, inside⟩, othersKept x member different item inside⟩
  · rintro ⟨⟨x, member, inside⟩, kept⟩
    refine ⟨x, ⟨member, fun same => ?_⟩, inside⟩
    have equal := KeyedList.eq_of_key unique member present same
    subst equal
    exact gone item inside kept

theorem Edited.ofMove {target : Nat} (inside : target < l.length) :
    Edited (l.flatMap view) ((KeyedList.moveTo l i target).flatMap view) (fun _ => True) none :=
  .ofPerm ((KeyedList.moveTo_perm l i inside).flatMap_right view)

/-- Where every entry is one item, storing and removing are by the item's id. -/
theorem Edited.ofSet_map (item : α → Item) (unique : (l.map fun x => (item x).id).Nodup)
    (stored : l[i]? = some a) (b : α) :
    Edited (l.map item) ((l.set i b).map item) (fun x => x.id ≠ (item a).id) (some (item b)) := by
  simp only [List.map_eq_flatMap]
  refine Edited.ofSet unique stored ?_ ?_
  · intro x
    simp only [List.mem_singleton, Option.some.injEq]
    constructor
    · rintro rfl
      exact .inl rfl
    · rintro (rfl | ⟨rfl, different⟩)
      · rfl
      · exact absurd rfl different
  · intro x _ different y inside
    rw [List.mem_singleton.mp inside]
    exact different

theorem Edited.ofErase_map (item : α → Item) (unique : (l.map fun x => (item x).id).Nodup)
    (stored : l[i]? = some a) :
    Edited (l.map item) ((l.eraseIdx i).map item) (fun x => x.id ≠ (item a).id) none := by
  simp only [List.map_eq_flatMap]
  refine Edited.ofErase unique stored ?_ ?_
  · intro x inside
    rw [List.mem_singleton.mp inside]
    exact fun different => different rfl
  · intro x _ different y inside
    rw [List.mem_singleton.mp inside]
    exact different

theorem Edited.ofMove_map (item : α → Item) {target : Nat} (inside : target < l.length) :
    Edited (l.map item) ((KeyedList.moveTo l i target).map item) (fun _ => True) none :=
  .ofPerm ((KeyedList.moveTo_perm l i inside).map item)

end Entries
end Pathfinder
