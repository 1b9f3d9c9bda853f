import Pathfinder.Resume.Patches

/-!
# The order inside the groups

A content is made of groups: three sections, and the bullets of each project. A write
keeps every group; a removal leaves ids out of a group, and a move changes the place
of one id.
-/
namespace Pathfinder

/-- A list in which a patch has a position. -/
inductive Group where
  | education | projects | skills
  | bullets (projectId : UUID)
  deriving DecidableEq, Repr

namespace ResumeContent

def project? (content : ResumeContent) (projectId : UUID) : Option ProjectEntry :=
  content.projects.find? fun project => project.id = projectId

/-- The ids of a group, in order. -/
def group (content : ResumeContent) : Group → List UUID
  | .education => content.education.map EducationEntry.id
  | .projects => content.projects.map ProjectEntry.id
  | .skills => content.skills.map SkillCategory.id
  | .bullets projectId => ((content.project? projectId).map ProjectEntry.bulletIds).getD []

end ResumeContent

/-- The item is of the group. -/
def Item.In (item : Item) : Group → Prop
  | .education => item.owner = none ∧ (item.fields .institution).isSome = true
  | .projects => item.owner = none ∧ (item.fields .title).isSome = true
  | .skills => item.owner = none ∧ (item.fields .label).isSome = true
  | .bullets projectId => item.owner = some projectId

def Location.group : Location → Group
  | education _ _ => .education
  | projects _ _ => .projects
  | bullet _ project _ _ => .bullets project.id
  | skills _ _ => .skills

section Groups
variable {data : ResumeContent} {itemId id : UUID} {location : Location} {group : Group}

theorem group_item (member : id ∈ data.group group) :
    ∃ item ∈ data.items, item.id = id ∧ item.In group := by
  cases group with
  | education =>
    obtain ⟨entry, stored, rfl⟩ := List.mem_map.mp member
    exact ⟨entry.item, List.mem_append_left _ (List.mem_map_of_mem stored), rfl, rfl, rfl⟩
  | projects =>
    obtain ⟨project, stored, rfl⟩ := List.mem_map.mp member
    exact ⟨project.item, ResumeContent.project_mem_items stored, rfl, rfl, rfl⟩
  | skills =>
    obtain ⟨skill, stored, rfl⟩ := List.mem_map.mp member
    exact ⟨skill.item, List.mem_append_right _ (List.mem_append_right _
      (List.mem_map_of_mem stored)), rfl, rfl, rfl⟩
  | bullets projectId =>
    dsimp only [ResumeContent.group] at member
    cases found : data.project? projectId with
    | none =>
      rw [found] at member
      cases member
    | some project =>
      rw [found] at member
      obtain ⟨bullet, inside, rfl⟩ := List.mem_map.mp member
      have stored := List.mem_of_find?_eq_some found
      have same : project.id = projectId := by simpa using List.find?_some found
      exact ⟨bullet.item project.id, ResumeContent.bullet_mem_items stored inside, rfl,
        congrArg some same⟩

/-- Only the group of a location holds its item. -/
theorem Location.At.group_eq (here : location.At data itemId)
    (unique : (data.items.map Item.id).Nodup) (member : itemId ∈ data.group group) :
    group = location.group := by
  obtain ⟨item, stored, same, inside⟩ := group_item member
  have equal := KeyedList.eq_of_key unique stored here.item_mem (same.trans here.item_id.symm)
  rw [equal] at inside
  cases location with
  | education index entry =>
    cases group with
    | education => rfl
    | projects => cases inside.2
    | skills => cases inside.2
    | bullets => cases inside
  | projects index project =>
    cases group with
    | projects => rfl
    | education => cases inside.2
    | skills => cases inside.2
    | bullets => cases inside
  | bullet index project position found =>
    cases group with
    | bullets =>
      cases inside
      rfl
    | education => cases inside.1
    | projects => cases inside.1
    | skills => cases inside.1
  | skills index skill =>
    cases group with
    | skills => rfl
    | education => cases inside.2
    | projects => cases inside.2
    | bullets => cases inside

theorem Location.At.group_unchanged (here : location.At data itemId)
    (unique : (data.items.map Item.id).Nodup) (other : group ≠ location.group) :
    (data.group group).filter (fun id => decide (id ≠ itemId)) = data.group group := by
  refine List.filter_eq_self.mpr fun id member => decide_eq_true ?_
  rintro rfl
  exact other (here.group_eq unique member)

/-! ## Editing -/

/-- An edited project that keeps its bullets' ids keeps every group of bullets. -/
theorem bullets_set {index : Nat} {project : ProjectEntry} (edited : ProjectEntry)
    (stored : data.projects[index]? = some project) (same : edited.id = project.id)
    (ids : edited.bulletIds = project.bulletIds) (projectId : UUID) :
    ({ data with projects := data.projects.set index edited } : ResumeContent).group
      (.bullets projectId) = data.group (.bullets projectId) := by
  have found := KeyedList.find?_set_map ProjectEntry.bulletIds
    (p := fun project : ProjectEntry => decide (project.id = projectId)) stored
    (b := edited) (by rw [same]) ids
  exact congrArg (fun ids => ids.getD []) found

/-- The groups of other projects do not see the edit of one. -/
theorem bullets_congr {projects : List ProjectEntry}
    (unique : (data.projects.map ProjectEntry.id).Nodup)
    (distinct : (projects.map ProjectEntry.id).Nodup) {projectId : UUID}
    (same : ∀ project, project.id = projectId → (project ∈ projects ↔ project ∈ data.projects)) :
    ({ data with projects := projects } : ResumeContent).group (.bullets projectId) =
      data.group (.bullets projectId) := by
  have found := KeyedList.find?_key_congr distinct unique same
  exact congrArg (fun project => (Option.map ProjectEntry.bulletIds project).getD []) found

/-- The group of the project under its id. -/
theorem bullets_stored {project : ProjectEntry} (unique : (data.projects.map ProjectEntry.id).Nodup)
    (stored : project ∈ data.projects) : data.group (.bullets project.id) = project.bulletIds := by
  have found : data.project? project.id = some project := KeyedList.find?_key unique stored
  dsimp only [ResumeContent.group]
  rw [found]
  rfl

namespace Location

theorem At.write_group (here : location.At data itemId) (field : PatchField) (value : FieldValue)
    (group : Group) : (location.write data field value).group group = data.group group := by
  cases location with
  | education index entry =>
    cases group with
    | education => exact KeyedList.map_set_same here.1 (EducationEntry.setField_id entry field value)
    | projects | skills | bullets => rfl
  | projects index project =>
    cases group with
    | projects => exact KeyedList.map_set_same here.1 (ProjectEntry.setField_id project field value)
    | bullets projectId =>
      refine bullets_set _ here.1 (ProjectEntry.setField_id project field value) ?_ projectId
      rw [ProjectEntry.bulletIds, ProjectEntry.setField_bullets]
      rfl
    | education | skills => rfl
  | bullet index project position found =>
    cases group with
    | projects => exact KeyedList.map_set_same here.1 rfl
    | bullets projectId =>
      have ids := KeyedList.map_set_same here.2.1 (Bullet.setField_id found field value)
      let bullets := project.bullets.set position (found.setField field value)
      exact bullets_set { project with bullets := bullets } here.1 rfl ids projectId
    | education | skills => rfl
  | skills index skill =>
    cases group with
    | skills => exact KeyedList.map_set_same here.1 (SkillCategory.setField_id skill field value)
    | education | projects | bullets => rfl

/-- Where the item stands in its group. -/
def place : Location → Nat
  | education index _ | projects index _ | skills index _ => index
  | bullet _ _ position _ => position

theorem At.place_group (here : location.At data itemId) (unique : (data.items.map Item.id).Nodup) :
    (data.group location.group)[location.place]? = some itemId := by
  have apart := separated unique
  cases location with
  | education index entry =>
    exact (List.getElem?_map ..).trans ((congrArg _ here.1).trans (congrArg some here.2))
  | projects index project =>
    exact (List.getElem?_map ..).trans ((congrArg _ here.1).trans (congrArg some here.2))
  | bullet index project position found =>
    dsimp only [group, place]
    rw [bullets_stored apart.projects (List.mem_of_getElem? here.1), ← here.2.2]
    exact (List.getElem?_map ..).trans (congrArg _ here.2.1)
  | skills index skill =>
    exact (List.getElem?_map ..).trans ((congrArg _ here.1).trans (congrArg some here.2))

/-- The group of a project whose bullets have been edited. -/
theorem bullets_edited {index : Nat} {project : ProjectEntry} (bullets : List Bullet)
    (unique : (data.projects.map ProjectEntry.id).Nodup)
    (stored : data.projects[index]? = some project) :
    ({ data with
      projects := data.projects.set index { project with bullets := bullets } } : ResumeContent).group
        (.bullets project.id) = bullets.map Bullet.id := by
  have same : ({ project with bullets := bullets } : ProjectEntry).id = project.id := rfl
  have distinct := (KeyedList.map_set_same stored same).symm ▸ unique
  obtain ⟨inside, -⟩ := List.getElem?_eq_some_iff.mp stored
  exact @bullets_stored { data with projects := _ } _ distinct (List.mem_set inside _)

/-- Other projects keep their bullets when one is edited. -/
theorem bullets_others {index : Nat} {project : ProjectEntry} (bullets : List Bullet)
    (unique : (data.projects.map ProjectEntry.id).Nodup)
    (stored : data.projects[index]? = some project) {projectId : UUID}
    (other : projectId ≠ project.id) :
    ({ data with
      projects := data.projects.set index { project with bullets := bullets } } : ResumeContent).group
        (.bullets projectId) = data.group (.bullets projectId) := by
  have same : ({ project with bullets := bullets } : ProjectEntry).id = project.id := rfl
  have distinct := (KeyedList.map_set_same stored same).symm ▸ unique
  refine bullets_congr unique distinct fun held named => ?_
  rw [KeyedList.mem_set unique stored]
  constructor
  · rintro (rfl | ⟨member, -⟩)
    · exact absurd named.symm other
    · exact member
  · exact fun member => .inr ⟨member, fun equal => other (named.symm.trans equal)⟩

theorem group_nodup (unique : (data.items.map Item.id).Nodup) (group : Group) :
    (data.group group).Nodup := by
  have apart := separated unique
  cases group with
  | education => exact apart.education
  | projects => exact apart.projects
  | skills => exact apart.skills
  | bullets projectId =>
    dsimp only [ResumeContent.group]
    cases found : data.project? projectId with
    | none => exact List.nodup_nil
    | some project => exact apart.bullets project (List.mem_of_find?_eq_some found)

/-- No item is in its own group of bullets. -/
theorem At.group_alone (here : location.At data itemId)
    (unique : (data.items.map Item.id).Nodup) : location.group ≠ .bullets itemId := by
  cases location with
  | education | projects | skills => exact nofun
  | bullet index project position found =>
    intro same
    obtain ⟨stored, inside, rfl⟩ := here
    have owner := Group.bullets.inj same
    exact bullet_apart unique (List.mem_of_getElem? stored) (List.mem_of_getElem? inside)
      owner.symm

theorem At.remove_group_here (here : location.At data itemId)
    (unique : (data.items.map Item.id).Nodup) :
    (location.remove data).group location.group =
      (data.group location.group).eraseIdx location.place := by
  have apart := separated unique
  cases location with
  | education index entry => exact (List.eraseIdx_map ..).symm
  | projects index project => exact (List.eraseIdx_map ..).symm
  | bullet index project position found =>
    dsimp only [group, place, remove]
    rw [bullets_edited _ apart.projects here.1,
      bullets_stored apart.projects (List.mem_of_getElem? here.1)]
    exact (List.eraseIdx_map ..).symm
  | skills index skill => exact (List.eraseIdx_map ..).symm

theorem At.move_group_here (here : location.At data itemId)
    (unique : (data.items.map Item.id).Nodup) (target : Nat) :
    (location.move data target).group location.group =
      KeyedList.moveTo (data.group location.group) location.place target := by
  have apart := separated unique
  cases location with
  | education index entry => exact KeyedList.map_moveTo ..
  | projects index project => exact KeyedList.map_moveTo ..
  | bullet index project position found =>
    dsimp only [group, place, move]
    rw [bullets_edited _ apart.projects here.1,
      bullets_stored apart.projects (List.mem_of_getElem? here.1)]
    exact KeyedList.map_moveTo ..
  | skills index skill => exact KeyedList.map_moveTo ..

/-- Only a project has bullets. -/
theorem At.bullets_empty (here : location.At data itemId)
    (unique : (data.items.map Item.id).Nodup) (single : location.group ≠ .projects) :
    data.group (.bullets itemId) = [] := by
  dsimp only [ResumeContent.group]
  cases found : data.project? itemId with
  | none => rfl
  | some project =>
    have stored := List.mem_of_find?_eq_some found
    have same : project.id = itemId := by simpa using List.find?_some found
    have named : itemId ∈ data.group .projects := List.mem_map.mpr ⟨project, stored, same⟩
    exact absurd (here.group_eq unique named).symm single

/-- Another group loses nothing, unless its project is removed. -/
theorem At.remove_group_other (here : location.At data itemId)
    (unique : (data.items.map Item.id).Nodup) (other : group ≠ location.group) :
    (location.remove data).group group =
      if group = .bullets itemId then [] else data.group group := by
  have apart := separated unique
  have empty := here.bullets_empty unique
  cases location with
  | education index entry =>
    cases group with
    | education => exact absurd rfl other
    | projects | skills => exact (if_neg nofun).symm
    | bullets projectId =>
      split
      next same => rw [same]; exact empty nofun
      · rfl
  | skills index skill =>
    cases group with
    | skills => exact absurd rfl other
    | projects | education => exact (if_neg nofun).symm
    | bullets projectId =>
      split
      next same => rw [same]; exact empty nofun
      · rfl
  | bullet index project position found =>
    cases group with
    | projects =>
      rw [if_neg nofun]
      exact KeyedList.map_set_same here.1 rfl
    | education | skills => exact (if_neg nofun).symm
    | bullets projectId =>
      have apartHere : projectId ≠ project.id := fun same => other (congrArg Group.bullets same)
      refine (bullets_others _ apart.projects here.1 apartHere).trans ?_
      split
      next same => rw [same]; exact empty nofun
      · rfl
  | projects index project =>
    cases group with
    | projects => exact absurd rfl other
    | education | skills => exact (if_neg nofun).symm
    | bullets projectId =>
      obtain ⟨stored, rfl⟩ := here
      have distinct : ((data.projects.eraseIdx index).map ProjectEntry.id).Nodup :=
        ((List.eraseIdx_sublist _ _).map _).nodup apart.projects
      split
      next same =>
        cases same
        have gone : (data.projects.eraseIdx index).find? (fun held => held.id = project.id) =
            none := by
          refine List.find?_eq_none.mpr fun held member named => ?_
          have kept := (KeyedList.mem_eraseIdx apart.projects stored held).mp member
          exact kept.2 (of_decide_eq_true named)
        exact congrArg (fun held => (Option.map ProjectEntry.bulletIds held).getD []) gone
      next different =>
        refine bullets_congr apart.projects distinct fun held named => ?_
        rw [KeyedList.mem_eraseIdx apart.projects stored]
        refine and_iff_left fun equal => different ?_
        rw [← named, equal]

/-- A removal leaves the item out, and with a project its bullets. -/
theorem At.remove_group (here : location.At data itemId)
    (unique : (data.items.map Item.id).Nodup) (group : Group) :
    (location.remove data).group group = (data.group group).filter fun id =>
      decide (id ≠ itemId) && decide (group ≠ .bullets itemId) := by
  by_cases own : group = location.group
  · subst own
    have alone := here.group_alone unique
    rw [here.remove_group_here unique,
      KeyedList.eraseIdx_of_nodup (group_nodup unique _) (here.place_group unique)]
    simp only [ne_eq, alone, not_false_eq_true, decide_true, Bool.and_true]
  · rw [here.remove_group_other unique own]
    split
    next taken => simp [taken]
    next whole =>
      simp only [ne_eq, whole, not_false_eq_true, decide_true, Bool.and_true]
      exact (here.group_unchanged unique own).symm

theorem At.move_group_other (here : location.At data itemId)
    (unique : (data.items.map Item.id).Nodup) {target : Nat}
    (inside : target < location.groupSize data) (other : group ≠ location.group) :
    (location.move data target).group group = data.group group := by
  have apart := separated unique
  cases location with
  | education index entry =>
    cases group with
    | education => exact absurd rfl other
    | projects | skills | bullets => rfl
  | skills index skill =>
    cases group with
    | skills => exact absurd rfl other
    | projects | education | bullets => rfl
  | bullet index project position found =>
    cases group with
    | projects => exact KeyedList.map_set_same here.1 rfl
    | education | skills => rfl
    | bullets projectId =>
      exact bullets_others _ apart.projects here.1
        fun same => other (congrArg Group.bullets same)
  | projects index project =>
    cases group with
    | projects => exact absurd rfl other
    | education | skills => rfl
    | bullets projectId =>
      have permuted := KeyedList.moveTo_perm data.projects index inside
      have distinct := (permuted.map ProjectEntry.id).nodup_iff.mpr apart.projects
      exact bullets_congr apart.projects distinct fun held _ => permuted.mem_iff

end Location
end Groups
end Pathfinder
