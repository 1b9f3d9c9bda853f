import Pathfinder.Resume.Lineage
import Pathfinder.Resume.Order

/-!
# What accepted patches leave alone

One patch, then a list of them: the order of the items that stay where they are, the
values of the fields, and what no patch can reach.
-/
namespace Pathfinder
variable {chars : CharacterTables}

/-! ## Places of patches -/

/-- What an accepted patch does to the dump, at the place it was located. -/
inductive PlacedStep (before : ResumeContent) (patch : PatchV1 chars) : ResumeContent → Prop
  | remove {location : Location} (here : location.At before patch.itemId)
      (operation : patch.operation = .remove) :
      PlacedStep before patch (location.remove before)
  | move {location : Location} {position : Nat} (here : location.At before patch.itemId)
      (operation : patch.operation = .move position)
      (inside : position < location.groupSize before) :
      PlacedStep before patch (location.move before position)
  | write {location : Location} {field : PatchField} {value : FieldValue}
      (here : location.At before patch.itemId) (notRemove : patch.operation ≠ .remove)
      (notMove : ∀ position, patch.operation ≠ .move position) :
      PlacedStep before patch (location.write before field value)

theorem applyPatch_placed {preferences : ResumePreferencesV1 chars} {permittedFactIds : List UUID}
    {factClaims : UUID → Option FactClaim} {before after : ResumeContent} {patch : PatchV1 chars}
    {change : Change}
    (ran : applyPatch preferences permittedFactIds factClaims before patch = .ok (after, change)) :
    PlacedStep before patch after := by
  unfold applyPatch at ran
  simp only at ran
  split at ran
  · cases ran
  split at ran
  · cases ran
  next location found =>
  have here := locate_at found
  split at ran
  · cases ran
  split at ran
  · cases ran
  split at ran
  next operation =>
    cases ran
    exact .remove here operation
  next position operation =>
    split at ran
    · cases ran
    next inside =>
    cases ran
    exact .move here operation (Nat.lt_of_not_le inside)
  all_goals
    next operation =>
    split at ran
    · cases ran
    obtain ⟨stored, -, same⟩ := map_ok ran
    cases same
    exact .write here (by simp [operation]) (by simp [operation])

/-! ## Order -/

/-- The patch changes the place of the item in its group. -/
def PatchV1.moves (patch : PatchV1 chars) (id : UUID) : Bool :=
  match patch.operation with
  | .move _ => decide (patch.itemId = id)
  | .remove | .replaceText .. | .replaceItems .. | .emphasize .. => false

/-- The patch takes the item out of the group, alone or with its project. -/
def PatchV1.takes (patch : PatchV1 chars) (group : Group) (id : UUID) : Bool :=
  decide (patch.operation = .remove ∧ (patch.itemId = id ∨ group = .bullets patch.itemId))

theorem PlacedStep.group {before after : ResumeContent} {patch : PatchV1 chars}
    (step : PlacedStep before patch after) (unique : (before.items.map Item.id).Nodup)
    (group : Group) {stays : UUID → Bool} (still : ∀ id, patch.moves id = true → stays id = false) :
    (after.group group).filter stays =
      (before.group group).filter fun id => stays id && !patch.takes group id := by
  have kept : patch.operation ≠ .remove →
      (before.group group).filter stays =
        (before.group group).filter fun id => stays id && !patch.takes group id := by
    intro notRemove
    refine List.filter_congr fun id _ => ?_
    simp [PatchV1.takes, notRemove]
  cases step with
  | @remove location here operation =>
    rw [here.remove_group unique, List.filter_filter]
    refine List.filter_congr fun id _ => ?_
    simp [PatchV1.takes, operation, eq_comm]
  | @move location position here operation inside =>
    rw [← kept (by rw [operation]; exact nofun)]
    by_cases own : group = location.group
    · subst own
      rw [here.move_group_here unique]
      refine KeyedList.filter_moveTo (here.place_group unique) (still _ ?_) position
      simp [PatchV1.moves, operation]
    · rw [here.move_group_other unique inside own]
  | @write location field value here notRemove notMove =>
    rw [here.write_group, kept notRemove]

/-- No patch of the list moves the item. -/
def unmoved (patches : List (PatchV1 chars)) (id : UUID) : Bool :=
  patches.all fun patch => !patch.moves id

/-- Some patch of the list takes the item out of its group. -/
def takenOut (patches : List (PatchV1 chars)) (group : Group) (id : UUID) : Bool :=
  patches.any fun patch => patch.takes group id

/-- A run of the loop over `patches`, by its places. -/
inductive PlacedRun : ResumeContent → List (PatchV1 chars) → ResumeContent → Prop
  | nil (data : ResumeContent) : PlacedRun data [] data
  | cons {before between after : ResumeContent} {patch : PatchV1 chars}
      {rest : List (PatchV1 chars)} (step : PlacedStep before patch between)
      (later : PlacedRun between rest after) : PlacedRun before (patch :: rest) after

theorem applyPatches_placed {preferences : ResumePreferencesV1 chars}
    {permittedFactIds : List UUID} {factClaims : UUID → Option FactClaim}
    {patches : List (PatchV1 chars)} {before after : ResumeContent} {changes : List Change}
    (ran : applyPatches preferences permittedFactIds factClaims before patches =
      .ok (after, changes)) : PlacedRun before patches after := by
  induction patches generalizing before changes with
  | nil =>
    cases ran
    exact .nil _
  | cons patch rest ih =>
    simp only [applyPatches] at ran
    split at ran
    · cases ran
    next edited change first =>
    obtain ⟨⟨final, others⟩, ranRest, same⟩ := map_ok ran
    cases same
    exact .cons (applyPatch_placed first) (ih ranRest)

section Run
variable {permittedFactIds : List UUID} {factClaims : UUID → Option FactClaim}
  {before after : ResumeContent} {patches : List (PatchV1 chars)}

theorem PlacedStep.ids {patch : PatchV1 chars} (step : PlacedStep before patch after) :
    (after.items.map Item.id).Subperm (before.items.map Item.id) := by
  cases step with
  | remove here => exact here.remove_ids
  | move here operation inside => exact here.move_ids inside
  | @write location field value here => exact here.write_ids field value

theorem PlacedStep.unique {patch : PatchV1 chars} (step : PlacedStep before patch after)
    (distinct : (before.items.map Item.id).Nodup) : (after.items.map Item.id).Nodup := by
  obtain ⟨part, same, sub⟩ := step.ids
  exact same.nodup_iff.mp (sub.nodup distinct)

/-- The items of a group that no patch moves keep their order; some are taken out. -/
theorem PlacedRun.group (run : PlacedRun before patches after)
    (unique : (before.items.map Item.id).Nodup) (group : Group) {stays : UUID → Bool}
    (still : ∀ id, stays id = true → unmoved patches id = true) :
    (after.group group).filter stays =
      (before.group group).filter fun id => stays id && !takenOut patches group id := by
  induction run with
  | nil data => simp [takenOut]
  | @cons before between after patch rest step later ih =>
    have unmovedHere : ∀ id, patch.moves id = true → stays id = false := by
      intro id moved
      refine Bool.eq_false_iff.mpr fun kept => ?_
      have none := still id kept
      simp [unmoved, moved] at none
    have unmovedLater : ∀ id, stays id = true → unmoved rest id = true := by
      intro id kept
      have none := still id kept
      simp only [unmoved, List.all_cons, Bool.and_eq_true] at none
      exact none.2
    have first : ∀ id, patch.moves id = true → (stays id && !takenOut rest group id) = false := by
      intro id moved
      rw [unmovedHere id moved, Bool.false_and]
    rw [ih (step.unique unique) unmovedLater, step.group unique group first]
    refine List.filter_congr fun id _ => ?_
    rw [takenOut, takenOut, List.any_cons]
    cases stays id <;> cases patch.takes group id <;> simp

end Run

/-! ## Values -/

/-- What a patch makes of the value of a field. -/
def PatchV1.stores (patch : PatchV1 chars) (id : UUID) (field : PatchField)
    (held : Option FieldValue) : Option FieldValue :=
  if patch.itemId = id then
    match patch.operation with
    | .replaceText target text _ => if target = field then some (.styled ⟨text, []⟩) else held
    | .replaceItems target items _ => if target = field then some (.items items) else held
    | .emphasize target emphasis =>
      if target = field then
        match held with
        | some (.styled old) => some (.styled { old with emphasis := emphasis })
        | other => other
      else held
    | .remove | .move _ => held
  else held

/-- The value a field has behind a list of patches. -/
def valueAfter (patches : List (PatchV1 chars)) (id : UUID) (field : PatchField)
    (held : Option FieldValue) : Option FieldValue :=
  patches.foldl (fun value patch => patch.stores id field value) held

/-- The patch writes the field of the item. -/
def PatchV1.writes (patch : PatchV1 chars) (id : UUID) (field : PatchField) : Bool :=
  decide (patch.itemId = id) && match patch.operation with
    | .replaceText target _ _ | .replaceItems target _ _ | .emphasize target _ =>
      decide (target = field)
    | .remove | .move _ => false

theorem PatchV1.stores_of_not_writes {patch : PatchV1 chars} {id : UUID} {field : PatchField}
    (silent : patch.writes id field = false) (held : Option FieldValue) :
    patch.stores id field held = held := by
  unfold PatchV1.stores
  by_cases target : patch.itemId = id
  · rw [if_pos target]
    simp only [PatchV1.writes, target, decide_true, Bool.true_and] at silent
    split
    all_goals
      next operation =>
      simp only [operation, decide_eq_false_iff_not] at silent
      first | exact if_neg silent | rfl
  · exact if_neg target

/-- A field that no patch writes keeps its value. -/
theorem valueAfter_unwritten {patches : List (PatchV1 chars)} {id : UUID} {field : PatchField}
    (silent : ∀ patch ∈ patches, patch.writes id field = false) (held : Option FieldValue) :
    valueAfter patches id field held = held := by
  induction patches with
  | nil => rfl
  | cons patch rest ih =>
    rw [valueAfter, List.foldl_cons, PatchV1.stores_of_not_writes (silent patch List.mem_cons_self)]
    exact ih fun other member => silent other (List.mem_cons_of_mem _ member)

section Values
variable {permittedFactIds : List UUID} {factClaims : UUID → Option FactClaim}
  {before after : ResumeContent} {patch : PatchV1 chars} {item : Item}

theorem rewrite_fields {new : Item} (target : item.id = patch.itemId)
    (fresh : patch.operation.rewrite item = some new) (field : PatchField) :
    new.fields field = patch.stores item.id field (item.fields field) := by
  unfold PatchV1.stores
  rw [if_pos target.symm]
  cases operation : patch.operation with
  | remove => rw [operation] at fresh; cases fresh
  | move position => rw [operation] at fresh; cases fresh
  | replaceText field' text facts =>
    rw [operation] at fresh
    cases fresh
    by_cases same : field' = field
    · subst same
      simp [Item.write]
    · simp [Item.write, same, Function.update_of_ne (Ne.symm same)]
  | replaceItems field' items facts =>
    rw [operation] at fresh
    cases fresh
    by_cases same : field' = field
    · subst same
      simp [Item.write]
    · simp [Item.write, same, Function.update_of_ne (Ne.symm same)]
  | emphasize field' emphasis =>
    rw [operation] at fresh
    simp only [PatchOperation.rewrite] at fresh
    split at fresh
    next old held =>
      cases fresh
      by_cases same : field' = field
      · subst same
        simp [Item.write, held]
      · simp [Item.write, same, Function.update_of_ne (Ne.symm same)]
    · cases fresh

/-- An item of the edited content, with the values it had. -/
theorem PatchStep.values (step : PatchStep permittedFactIds factClaims before after patch item)
    {survivor : Item} (stays : survivor ∈ after.items) :
    ∃ origin ∈ before.items, origin.id = survivor.id ∧ origin.owner = survivor.owner ∧
      ∀ field, survivor.fields field = patch.stores survivor.id field (origin.fields field) := by
  rcases (step.edited survivor).mp stays with fresh | ⟨present, kept⟩
  · have same := PatchOperation.rewrite_same step.accepted fresh
    refine ⟨item, step.found, same.id.symm, same.owner.symm, fun field => ?_⟩
    rw [same.id]
    exact rewrite_fields step.target fresh field
  · refine ⟨survivor, present, rfl, rfl, fun field => ?_⟩
    refine (PatchV1.stores_of_not_writes ?_ _).symm
    unfold PatchV1.writes
    cases operation : patch.operation with
    | remove => simp
    | move position => simp
    | replaceText field' text facts =>
      rw [operation] at kept
      simp [Ne.symm kept]
    | replaceItems field' items facts =>
      rw [operation] at kept
      simp [Ne.symm kept]
    | emphasize field' emphasis =>
      rw [operation] at kept
      simp [Ne.symm kept]

theorem Applied.values {patches : List (PatchV1 chars)}
    (applied : Applied permittedFactIds factClaims before patches after) {survivor : Item}
    (stays : survivor ∈ after.items) :
    ∃ origin ∈ before.items, origin.id = survivor.id ∧ origin.owner = survivor.owner ∧
      ∀ field, survivor.fields field =
        valueAfter patches survivor.id field (origin.fields field) := by
  induction applied with
  | nil data => exact ⟨survivor, stays, rfl, rfl, fun _ => rfl⟩
  | cons step _ ih =>
    obtain ⟨middle, between, id, owner, later⟩ := ih stays
    obtain ⟨origin, old, first, firstOwner, here⟩ := step.values between
    refine ⟨origin, old, first.trans id, firstOwner.trans owner, fun field => ?_⟩
    rw [later field, here field, ← id]
    rfl

end Values

/-! ## What no patch reaches -/

/-- The source and the review status of an item. -/
def ResumeContent.marks (content : ResumeContent) : List (UUID × SourceLocationV1 × ReviewMark) :=
  content.education.map (fun entry => (entry.id, entry.source, entry.reviewStatus)) ++
    (content.projects.map (fun project => (project.id, project.source, project.reviewStatus)) ++
      content.skills.map fun skill => (skill.id, skill.source, skill.reviewStatus))

section Reach
variable {before after : ResumeContent} {patch : PatchV1 chars} {patches : List (PatchV1 chars)}

theorem EducationEntry.setField_mark (entry : EducationEntry) (field : PatchField)
    (value : FieldValue) : ((entry.setField field value).id, (entry.setField field value).source,
      (entry.setField field value).reviewStatus) = (entry.id, entry.source, entry.reviewStatus) := by
  cases field <;> cases value <;> rfl

theorem ProjectEntry.setField_mark (project : ProjectEntry) (field : PatchField)
    (value : FieldValue) :
    ((project.setField field value).id, (project.setField field value).source,
      (project.setField field value).reviewStatus) =
        (project.id, project.source, project.reviewStatus) := by
  cases field <;> cases value <;> rfl

theorem SkillCategory.setField_mark (skill : SkillCategory) (field : PatchField)
    (value : FieldValue) : ((skill.setField field value).id, (skill.setField field value).source,
      (skill.setField field value).reviewStatus) = (skill.id, skill.source, skill.reviewStatus) := by
  cases field <;> cases value <;> rfl

theorem PlacedStep.marks (step : PlacedStep before patch after) :
    after.marks ⊆ before.marks := by
  have within : ∀ {first second third first' second' third' :
      List (UUID × SourceLocationV1 × ReviewMark)}, first' ⊆ first → second' ⊆ second →
        third' ⊆ third → first' ++ (second' ++ third') ⊆ first ++ (second ++ third) :=
    fun one two three => List.append_subset.mpr ⟨fun _ member => List.mem_append_left _ (one member),
      List.append_subset.mpr
        ⟨fun _ member => List.mem_append_right _ (List.mem_append_left _ (two member)),
          fun _ member => List.mem_append_right _ (List.mem_append_right _ (three member))⟩⟩
  have same : ∀ l : List (UUID × SourceLocationV1 × ReviewMark), l ⊆ l := List.Subset.refl
  have of_eq : ∀ {l l' : List (UUID × SourceLocationV1 × ReviewMark)}, l = l' → l ⊆ l' :=
    fun equal => equal ▸ List.Subset.refl _
  cases step with
  | @remove location here operation =>
    cases location with
    | education => exact within (((List.eraseIdx_sublist _ _).map _).subset) (same _) (same _)
    | projects => exact within (same _) (((List.eraseIdx_sublist _ _).map _).subset) (same _)
    | bullet =>
      exact within (same _) (of_eq (KeyedList.map_set_same here.1 rfl)) (same _)
    | skills => exact within (same _) (same _) (((List.eraseIdx_sublist _ _).map _).subset)
  | @move location position here operation inside =>
    cases location with
    | education =>
      exact within ((KeyedList.moveTo_perm _ _ inside).map _).subset (same _) (same _)
    | projects =>
      exact within (same _) ((KeyedList.moveTo_perm _ _ inside).map _).subset (same _)
    | bullet =>
      exact within (same _) (of_eq (KeyedList.map_set_same here.1 rfl)) (same _)
    | skills => exact within (same _) (same _) ((KeyedList.moveTo_perm _ _ inside).map _).subset
  | @write location field value here notRemove notMove =>
    cases location with
    | education index entry =>
      refine within (of_eq (KeyedList.map_set_same here.1 ?_)) (same _) (same _)
      exact entry.setField_mark field value
    | projects index project =>
      refine within (same _) (of_eq (KeyedList.map_set_same here.1 ?_)) (same _)
      exact project.setField_mark field value
    | bullet =>
      exact within (same _) (of_eq (KeyedList.map_set_same here.1 rfl)) (same _)
    | skills index skill =>
      refine within (same _) (same _) (of_eq (KeyedList.map_set_same here.1 ?_))
      exact skill.setField_mark field value

theorem PlacedRun.marks (run : PlacedRun before patches after) : after.marks ⊆ before.marks := by
  induction run with
  | nil data => exact List.Subset.refl _
  | cons step later ih => exact List.Subset.trans ih step.marks

/-- The personal part of a content. -/
def ResumeContent.personal (content : ResumeContent) :
    UUID × Text × ReviewMark × List ContactField :=
  (content.displayNameId, content.displayName, content.displayNameReviewStatus, content.contact)

theorem PlacedStep.personal (step : PlacedStep before patch after) :
    after.personal = before.personal := by
  cases step with
  | @remove location => cases location <;> rfl
  | @move location => cases location <;> rfl
  | @write location => cases location <;> rfl

theorem PlacedRun.personal (run : PlacedRun before patches after) :
    after.personal = before.personal := by
  induction run with
  | nil data => rfl
  | cons step later ih => exact ih.trans step.personal

end Reach

/-! ## Ids that are left -/

/-- A patch removes the item, or the project whose bullet it is. -/
def RemovedFrom (content : ResumeContent) (patches : List (PatchV1 chars)) (id : UUID) : Prop :=
  ∃ patch ∈ patches, patch.removes id ∨
    ∃ project ∈ content.projects, id ∈ project.bulletIds ∧ patch.removes project.id

section Ids
variable {permittedFactIds : List UUID} {factClaims : UUID → Option FactClaim}
  {before after : ResumeContent} {patches : List (PatchV1 chars)}

theorem item_owner {item : Item} (stored : item ∈ before.items) {owner : UUID}
    (owned : item.owner = some owner) :
    ∃ project ∈ before.projects, project.id = owner ∧ item.id ∈ project.bulletIds := by
  simp only [ResumeContent.items, List.mem_append, List.mem_map, List.mem_flatMap,
    ProjectEntry.items, List.mem_cons] at stored
  rcases stored with ⟨entry, -, rfl⟩ | ⟨project, member, rfl | ⟨bullet, inside, rfl⟩⟩ |
    ⟨skill, -, rfl⟩
  · cases owned
  · cases owned
  · cases owned
    exact ⟨project, member, rfl, List.mem_map_of_mem inside⟩
  · cases owned

/-- An item is spared exactly if nothing removes it. -/
theorem spared_iff (unique : (before.items.map Item.id).Nodup) {item : Item}
    (stored : item ∈ before.items) :
    Spared patches item ↔ ¬ RemovedFrom before patches item.id := by
  constructor
  · rintro spared ⟨patch, member, removes | ⟨project, held, inside, removes⟩⟩
    · exact (spared patch member).1 removes
    · obtain ⟨bullet, own, same⟩ := List.mem_map.mp inside
      have equal := KeyedList.eq_of_key unique stored
        (ResumeContent.bullet_mem_items held own) same.symm
      exact (spared patch member).2 project.id (by rw [equal]; rfl) removes
  · intro left patch member
    refine ⟨fun removes => left ⟨patch, member, .inl removes⟩, fun owner owned removes => ?_⟩
    obtain ⟨project, held, same, inside⟩ := item_owner stored owned
    exact left ⟨patch, member, .inr ⟨project, held, inside, same ▸ removes⟩⟩

theorem removedFrom_item (applied : Applied permittedFactIds factClaims before patches after)
    {id : UUID} (removed : RemovedFrom before patches id) :
    ∃ item ∈ before.items, item.id = id := by
  obtain ⟨patch, member, removes | ⟨project, held, inside, -⟩⟩ := removed
  · obtain ⟨origin, old, same⟩ := List.mem_map.mp (applied.target_mem patch member)
    exact ⟨origin, old, same.trans removes.2⟩
  · obtain ⟨bullet, own, same⟩ := List.mem_map.mp inside
    exact ⟨_, ResumeContent.bullet_mem_items held own, same⟩

theorem Applied.itemIds_iff (applied : Applied permittedFactIds factClaims before patches after)
    (distinct : before.itemIds.Nodup) (id : UUID) :
    id ∈ after.itemIds ↔ id ∈ before.itemIds ∧ ¬ RemovedFrom before patches id := by
  have unique := ResumeContent.items_unique distinct
  have apart := List.nodup_append.mp (before.itemIds_perm.nodup_iff.mp distinct)
  rw [ResumeContent.mem_itemIds, ResumeContent.mem_itemIds, applied.personal.1]
  constructor
  · rintro (personal | ⟨item, stays, rfl⟩)
    · refine ⟨.inl personal, fun removed => ?_⟩
      obtain ⟨item, stored, same⟩ := removedFrom_item applied removed
      exact apart.2.2 id personal id (List.mem_map.mpr ⟨item, stored, same⟩) rfl
    · obtain ⟨origin, old, same, spared⟩ := applied.survivor unique stays
      refine ⟨.inr ⟨origin, old, same.id⟩, ?_⟩
      rw [← same.id]
      exact (spared_iff unique old).mp (Spared.of_same same.symm spared)
  · rintro ⟨personal | ⟨item, stored, rfl⟩, left⟩
    · exact .inl personal
    · obtain ⟨survivor, stays, same⟩ :=
        applied.stays unique stored ((spared_iff unique stored).mpr left)
      exact .inr ⟨survivor, stays, same.id⟩

end Ids

/-! ## Locked items -/

theorem lockedEntries_unique {content : ResumeContent} (distinct : content.itemIds.Nodup) :
    ((lockedEntries content).map Prod.fst).Nodup := by
  have keys : (lockedEntries content).map Prod.fst =
      content.education.map EducationEntry.id ++ content.projects.map ProjectEntry.id ++
        content.skills.map SkillCategory.id ++ content.bulletIds := by
    simp only [lockedEntries, ResumeContent.bulletIds, List.map_append, List.map_map,
      List.map_flatMap, Function.comp_def]
    rfl
  have reordered : (content.education.map EducationEntry.id ++
      content.projects.map ProjectEntry.id ++ content.bulletIds ++
        content.skills.map SkillCategory.id).Nodup := by
    have whole := distinct
    simp only [ResumeContent.itemIds, List.cons_append, List.append_assoc] at whole
    have behind := (List.nodup_append.mp (List.nodup_cons.mp whole).2).2.1
    simpa only [List.append_assoc] using behind
  rw [keys]
  refine List.Perm.nodup_iff ?_ |>.mpr reordered
  rw [List.append_assoc, List.append_assoc (_ ++ _)]
  exact List.Perm.append_left _ List.perm_append_comm

/-- With distinct ids the dictionary holds every entry. -/
theorem lockedValue_eq {content : ResumeContent} (distinct : content.itemIds.Nodup) (id : UUID)
    (value : LockedValue) : lockedValue content id = some value ↔
      (id, value) ∈ lockedEntries content := by
  have unique : ((lockedEntries content).reverse.map Prod.fst).Nodup := by
    rw [List.map_reverse, List.nodup_reverse]
    exact lockedEntries_unique distinct
  rw [lockedValue, Option.map_eq_some_iff]
  constructor
  · rintro ⟨entry, found, rfl⟩
    obtain ⟨member, same⟩ := (KeyedList.find?_key_iff unique entry).mp found
    rw [List.mem_reverse] at member
    exact same ▸ member
  · intro member
    exact ⟨(id, value), (KeyedList.find?_key_iff unique (id, value)).mpr
      ⟨List.mem_reverse.mpr member, rfl⟩, rfl⟩

theorem requireLockedItemsUnchanged_items {original candidate : ResumeContent}
    {preferences : ResumePreferencesV1 chars}
    (checked : requireLockedItemsUnchanged original candidate preferences = .ok ()) :
    ∀ id ∈ preferences.values.lockedItemIds,
      lockedValue original id = lockedValue candidate id := by
  unfold requireLockedItemsUnchanged at checked
  split at checked
  · cases checked
  split at checked
  · cases checked
  next unchanged =>
  intro id locked
  by_contra different
  exact unchanged (List.any_eq_true.mpr ⟨id, locked, decide_eq_true different⟩)

end Pathfinder
