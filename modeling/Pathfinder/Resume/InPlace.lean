import Pathfinder.Domain.ContentDump
import Pathfinder.Resume.Patches

/-!
# Edits in place

Editing the two lists of a project by one index is editing the list of its pairs:
`apply_scoped_patches` on the dump is `applyScopedPatches`.
-/
namespace Pathfinder

/-! ## The dump of pairs -/

/-- Two lists made of the members of pairs are these pairs again. -/
theorem ProjectEntry.dump_entry? (project : ProjectEntry) : project.dump.entry? = some project := by
  have pairs : List.zipWith Bullet.mk (project.bullets.map Bullet.id)
      (project.bullets.map Bullet.styled) = project.bullets := by
    rw [List.zipWith_map, List.zipWith_self]
    exact List.map_id _
  unfold ProjectDump.entry? ProjectEntry.dump ProjectEntry.bulletIds
  rw [if_pos (by simp)]
  dsimp only
  rw [pairs]

theorem ResumeContent.dump_modelValidate (content : ResumeContent) :
    content.dump.modelValidate = ResumeContentV1.modelValidate content := by
  have entries : (content.projects.map ProjectEntry.dump).mapM ProjectDump.entry? =
      some content.projects := by
    induction content.projects with
    | nil => rfl
    | cons project rest ih =>
      rw [List.map_cons, List.mapM_cons, ProjectEntry.dump_entry?, ih]
      rfl
  unfold ContentDump.modelValidate ResumeContent.dump
  dsimp only
  rw [entries]

namespace Location

/-- The place in the dump. -/
def dump : Location → DumpLocation
  | education index entry => .education index entry
  | projects index project => .projects index project.dump
  | bullet index project position _ => .bullet index project.dump position
  | skills index skill => .skills index skill

variable {data : ResumeContent} {itemId : UUID} {location : Location}

theorem dump_locked (locked : List UUID) (itemId : UUID) (location : Location) :
    location.dump.locked locked itemId = location.locked locked itemId := by
  cases location <;> rfl

theorem dump_holdsLocked (locked : List UUID) (location : Location) :
    location.dump.holdsLocked locked = location.holdsLocked locked := by
  cases location <;> rfl

theorem dump_groupSize (data : ResumeContent) (location : Location) :
    location.dump.groupSize data.dump = location.groupSize data := by
  cases location with
  | projects => exact List.length_map _
  | bullet => exact List.length_map _
  | education | skills => rfl

theorem At.dump_field? (here : location.At data itemId) (field : PatchField) :
    location.dump.field? field = location.field? field := by
  cases location with
  | education => rfl
  | projects index project => cases field <;> rfl
  | bullet index project position found =>
    cases field
    case bullet =>
      dsimp only [Location.dump, DumpLocation.field?, ProjectEntry.dump, Location.field?, Bullet.field?]
      rw [List.getElem?_map, here.2.1]
      rfl
    all_goals rfl
  | skills => rfl

theorem dump_remove (data : ResumeContent) (location : Location) :
    (location.remove data).dump = location.dump.remove data.dump := by
  cases location with
  | education | skills => rfl
  | projects index project =>
    simp only [remove, dump, DumpLocation.remove, ResumeContent.dump, List.eraseIdx_map]
  | bullet index project position found =>
    simp only [remove, dump, DumpLocation.remove, ResumeContent.dump, List.map_set,
      ProjectEntry.dump, ProjectEntry.bulletIds, List.eraseIdx_map]

theorem dump_move (data : ResumeContent) (target : Nat) (location : Location) :
    (location.move data target).dump = location.dump.move data.dump target := by
  cases location with
  | education | skills => rfl
  | projects index project =>
    simp only [move, dump, DumpLocation.move, ResumeContent.dump, KeyedList.map_moveTo]
  | bullet index project position found =>
    simp only [move, dump, DumpLocation.move, ResumeContent.dump, List.map_set,
      ProjectEntry.dump, ProjectEntry.bulletIds, KeyedList.map_moveTo]

theorem setField_dump (project : ProjectEntry) (field : PatchField) (value : FieldValue) :
    (project.setField field value).dump = project.dump.setField field value := by
  cases field <;> cases value <;> rfl

/-- A value is stored in the dump as in the pairs, where the field holds one of its kind. -/
theorem At.dump_write (here : location.At data itemId) {field : PatchField}
    {old value : FieldValue} (held : location.field? field = some old)
    (kind : old.sameKind value) :
    (location.write data field value).dump = location.dump.write data.dump field value := by
  cases location with
  | education | skills => rfl
  | projects index project =>
    simp only [write, Location.dump, DumpLocation.write, ResumeContent.dump, List.map_set,
      setField_dump]
  | bullet index project position found =>
    have isBullet : field = .bullet ∧ ∃ styled, value = .styled styled := by
      cases field <;> cases held
      cases value with
      | styled styled => exact ⟨rfl, styled, rfl⟩
      | label | items => exact kind.elim
    obtain ⟨rfl, styled, rfl⟩ := isBullet
    have ids : (project.bullets.set position { found with styled := styled }).map Bullet.id =
        project.bullets.map Bullet.id := KeyedList.map_set_same here.2.1 rfl
    simp only [write, Location.dump, DumpLocation.write, ResumeContent.dump, List.map_set,
      ProjectEntry.dump, ProjectEntry.bulletIds, Bullet.setField] at ids ⊢
    rw [ids]

end Location

/-! ## Locating -/

/-- `bullet_ids.index(key)` is where the pair with the key stands. -/
theorem locate_bullet {bullets : List Bullet} {itemId : UUID}
    (member : itemId ∈ bullets.map Bullet.id) :
    ∃ found, KeyedList.locate (fun bullet : Bullet => decide (bullet.id = itemId)) bullets =
      some ((bullets.map Bullet.id).idxOf itemId, found) := by
  obtain ⟨bullet, inside, same⟩ := List.mem_map.mp member
  have first : bullets.findIdx? (fun bullet => decide (bullet.id = itemId)) =
      some (bullets.findIdx fun bullet => decide (bullet.id = itemId)) :=
    List.findIdx?_eq_some_of_exists ⟨bullet, inside, decide_eq_true same⟩
  have index : (bullets.map Bullet.id).idxOf itemId =
      bullets.findIdx fun bullet => decide (bullet.id = itemId) := by
    rw [List.idxOf, List.findIdx_map]
    rfl
  have bound := (List.findIdx?_eq_some_iff_getElem.mp first).1
  refine ⟨bullets[bullets.findIdx fun bullet => decide (bullet.id = itemId)], ?_⟩
  rw [KeyedList.locate, first, index, Option.bind_some, List.getElem?_eq_getElem bound]
  rfl

theorem ResumeContent.dump_locate (data : ResumeContent) (itemId : UUID) :
    data.dump.locate itemId = (Pathfinder.locate data itemId).map Location.dump := by
  have search : KeyedList.locate (fun project : ProjectDump =>
        decide (project.id = itemId ∨ itemId ∈ project.bulletIds))
        (data.projects.map ProjectEntry.dump) =
      (KeyedList.locate (fun project : ProjectEntry =>
        decide (project.id = itemId ∨ itemId ∈ project.bulletIds)) data.projects).map
        fun place => (place.1, place.2.dump) := KeyedList.locate_map _ _ _
  unfold ContentDump.locate Pathfinder.locate locateInProjects
  dsimp only [ResumeContent.dump]
  rw [search]
  cases KeyedList.locate (fun entry : EducationEntry => decide (entry.id = itemId))
    data.education with
  | some place => rfl
  | none =>
    cases located : KeyedList.locate (fun project : ProjectEntry =>
        decide (project.id = itemId ∨ itemId ∈ project.bulletIds)) data.projects with
    | none =>
      dsimp only [Option.map_none, Option.bind_none]
      cases KeyedList.locate (fun skill : SkillCategory => decide (skill.id = itemId))
        data.skills with
      | none => rfl
      | some place => rfl
    | some place =>
      obtain ⟨index, project⟩ := place
      dsimp only [Option.map_some, Option.bind_some]
      by_cases same : project.id = itemId
      · rw [if_pos same]
        exact if_pos same
      · have inside : itemId ∈ project.bulletIds := by
          have accepted := (KeyedList.locate_some located).2
          exact (of_decide_eq_true accepted).resolve_left same
        obtain ⟨found, there⟩ := locate_bullet inside
        rw [if_neg same, there]
        exact if_neg same

/-! ## Patches -/

section Apply
variable {chars : CharacterTables} (preferences : ResumePreferencesV1 chars)
  (permittedFactIds : List UUID) (factClaims : UUID → Option FactClaim)

theorem dump_replace {data : ResumeContent} {patch : PatchV1 chars} {location : Location}
    (here : location.At data patch.itemId) {field : PatchField}
    (kept : ∀ old stored, location.field? field = some old →
      replacement chars factClaims old patch.operation = .ok stored → old.sameKind stored) :
    (match location.dump.field? field with
      | none => Except.error (StoreError.validation "patch field is invalid for the target")
      | some value => (replacement chars factClaims value patch.operation).map fun stored =>
          (location.dump.write data.dump field stored,
            Change.updated patch.itemId patch.operation)) =
    (match location.field? field with
      | none => Except.error (StoreError.validation "patch field is invalid for the target")
      | some value => (replacement chars factClaims value patch.operation).map fun stored =>
          (location.write data field stored, Change.updated patch.itemId patch.operation)).map
      fun (edited : ResumeContent × Change) => (edited.1.dump, edited.2) := by
  rw [here.dump_field? field]
  cases held : location.field? field with
  | none => rfl
  | some old =>
    dsimp only
    cases replaced : replacement chars factClaims old patch.operation with
    | error reason => rfl
    | ok stored =>
      have written := here.dump_write held (kept old stored held replaced)
      simp only [Except.map, written]

/-- A round of the loop on the dump is a round on the pairs. -/
theorem dump_applyPatch (data : ResumeContent) (patch : PatchV1 chars) :
    ContentDump.applyPatch preferences permittedFactIds factClaims data.dump patch =
      (applyPatch preferences permittedFactIds factClaims data patch).map
        fun (edited, change) => (edited.dump, change) := by
  unfold ContentDump.applyPatch applyPatch
  dsimp only
  split
  · rfl
  · rw [data.dump_locate]
    cases located : locate data patch.itemId with
    | none => rfl
    | some location =>
      have here := locate_at located
      dsimp only [Option.map_some]
      rw [location.dump_locked, location.dump_holdsLocked]
      split
      · rfl
      · split
        · rfl
        · obtain ⟨itemId, operation, shape⟩ := patch
          cases operation with
          | remove => simp only [Except.map, location.dump_remove]
          | move position =>
            dsimp only
            rw [location.dump_groupSize]
            split
            · rfl
            · simp only [Except.map, location.dump_move]
          | replaceText field text facts =>
            exact dump_replace factClaims here fun old stored held replaced =>
              (replaceText_ok held replaced).1
          | replaceItems field items facts =>
            have listed : field.listed = true := by
              simp only [PatchOperation.valid, Bool.and_eq_true] at shape
              exact shape.1.1.1
            exact dump_replace factClaims here fun old stored held replaced =>
              (replaceItems_ok listed held replaced).1
          | emphasize field emphasis =>
            exact dump_replace factClaims here fun old stored held replaced =>
              (emphasize_ok held replaced).1

theorem dump_applyPatches (data : ResumeContent) (patches : List (PatchV1 chars)) :
    ContentDump.applyPatches preferences permittedFactIds factClaims data.dump patches =
      (applyPatches preferences permittedFactIds factClaims data patches).map
        fun (edited, changes) => (edited.dump, changes) := by
  induction patches generalizing data with
  | nil => rfl
  | cons patch rest ih =>
    rw [ContentDump.applyPatches, applyPatches, dump_applyPatch]
    cases applyPatch preferences permittedFactIds factClaims data patch with
    | error reason => rfl
    | ok result =>
      obtain ⟨edited, change⟩ := result
      dsimp only [Except.map]
      rw [ih edited]
      cases applyPatches preferences permittedFactIds factClaims edited rest with
      | error reason => rfl
      | ok final => rfl

/-- Editing the dump in place is editing the pairs. -/
theorem applyScopedPatchesInPlace_eq (original : ResumeContentV1) (patches : List (PatchV1 chars))
    (targetItemIds : List UUID) :
    applyScopedPatchesInPlace original patches targetItemIds preferences permittedFactIds
        factClaims =
      applyScopedPatches original patches targetItemIds preferences permittedFactIds
        factClaims := by
  unfold applyScopedPatchesInPlace applyScopedPatches
  rw [dump_applyPatches]
  cases applyPatches preferences permittedFactIds factClaims original.data patches with
  | error reason => rfl
  | ok result =>
    obtain ⟨edited, changes⟩ := result
    dsimp only [Except.map]
    exact edited.dump_modelValidate ▸ rfl

end Apply
end Pathfinder
