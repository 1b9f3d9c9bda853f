import Pathfinder.Resume.Lineage

/-!
# The replay of a lineage

`_actual_fact_uses` on the rows of a recorded lineage, against the attribution
of the lineage: the dictionary it ends with is that attribution, and it ends
without an exception if every version's snapshot covers what is attributed there.
-/
namespace Pathfinder
open LastWriter
variable {chars : CharacterTables}

/-- The dictionary holds exactly the entries of the function. -/
def FactUses.Holds (uses : FactUses) (held : FieldKey → Option (List UUID)) : Prop :=
  ∀ key facts, (key, facts) ∈ uses ↔ held key = some facts

namespace FactUses
variable {uses : FactUses} {held : FieldKey → Option (List UUID)}

theorem Holds.put (before : uses.Holds held) (key : FieldKey) (facts : List UUID) :
    (uses.put key facts).Holds (Function.update held key (some facts)) := by
  intro other stored
  by_cases same : other = key
  · subst same
    simp [FactUses.put, eq_comm]
  · simp [FactUses.put, same, before other stored]

theorem Holds.filter (before : uses.Holds held) (keep : FieldKey → Bool) :
    FactUses.Holds (uses.filter fun entry => keep entry.1)
      (fun key => if keep key then held key else none) := by
  intro key facts
  cases kept : keep key <;> simp [kept, before key facts]

theorem Holds.get (before : uses.Holds held) {key : FieldKey} {facts : List UUID}
    (stored : held key = some facts) : uses.get key = facts := by
  unfold FactUses.get
  cases found : uses.find? fun entry => entry.1 = key with
  | none =>
    have absent := List.find?_eq_none.mp found _ ((before key facts).mpr stored)
    simp at absent
  | some entry =>
    have same : entry.1 = key := by simpa using List.find?_some found
    have member : (key, entry.2) ∈ uses := same ▸ List.mem_of_find?_eq_some found
    have equal := (before key entry.2).mp member
    rw [stored] at equal
    exact (Option.some.inj equal).symm

/-- A fact is in the union where some key holds it. -/
theorem Holds.mem_union (before : uses.Holds held) (fact : UUID) :
    fact ∈ uses.union ↔ ∃ key facts, held key = some facts ∧ fact ∈ facts := by
  constructor
  · intro member
    obtain ⟨⟨key, facts⟩, stored, inside⟩ := List.mem_flatMap.mp member
    exact ⟨key, facts, (before key facts).mp stored, inside⟩
  · rintro ⟨key, facts, stored, inside⟩
    exact List.mem_flatMap.mpr ⟨(key, facts), (before key facts).mpr stored, inside⟩

end FactUses

/-! ## Patches -/

theorem usesEffect_replace {patch : PatchV1 chars} {field : PatchField} {facts : List UUID}
    (written : ∀ key, patch.cites key = if (patch.itemId, field) = key then some facts else none)
    (stays : patch.operation ≠ .remove) (held : FieldKey → Option (List UUID)) :
    (fun key => (usesEffect patch key).apply (held key)) =
      Function.update held (patch.itemId, field) (some facts) := by
  funext key
  by_cases same : (patch.itemId, field) = key
  · subst same
    simp [usesEffect, citationEffect, written, PatchV1.removes, stays, Effect.apply]
  · simp [usesEffect, citationEffect, written, PatchV1.removes, stays, Effect.apply, same,
      Function.update_of_ne (Ne.symm same)]

theorem replayPatch_holds {uses after : FactUses} {held : FieldKey → Option (List UUID)}
    {patch : PatchV1 chars} (before : uses.Holds held) (ran : replayPatch uses patch = .ok after) :
    after.Holds fun key => (usesEffect patch key).apply (held key) := by
  obtain ⟨itemId, operation, shape⟩ := patch
  cases operation with
  | remove =>
    cases ran
    have kept := before.filter fun key => key.1 ≠ itemId
    refine fun key facts => (kept key facts).trans ?_
    by_cases same : key.1 = itemId
    · simp [usesEffect, PatchV1.removes, same, Effect.apply]
    · simp [usesEffect, PatchV1.removes, same, Ne.symm same, Effect.apply, citationEffect,
        PatchV1.cites]
  | move position =>
    cases ran
    exact before
  | emphasize field emphasis =>
    cases ran
    exact before
  | replaceText field text facts =>
    simp only [replayPatch] at ran
    split at ran
    · cases ran
    cases ran
    rw [usesEffect_replace (fun _ => rfl) (by simp)]
    exact before.put _ _
  | replaceItems field items facts =>
    simp only [replayPatch] at ran
    split at ran
    · cases ran
    cases ran
    rw [usesEffect_replace (fun _ => rfl) (by simp)]
    exact before.put _ _

theorem replayPatches_holds {patches : List (PatchV1 chars)} {uses after : FactUses}
    {held : FieldKey → Option (List UUID)} (before : uses.Holds held)
    (ran : replayPatches patches uses = .ok after) :
    after.Holds (replay usesEffect held patches) := by
  induction patches generalizing uses held with
  | nil =>
    cases ran
    exact before
  | cons patch rest ih =>
    simp only [replayPatches] at ran
    split at ran
    · cases ran
    next first => exact ih (replayPatch_holds before first) ran

/-- Patches that cite something replay without an exception. -/
theorem replayPatches_runs {patches : List (PatchV1 chars)}
    (cited : ∀ patch ∈ patches, ∀ key facts, patch.cites key = some facts → facts ≠ [])
    (uses : FactUses) : ∃ after, replayPatches patches uses = .ok after := by
  induction patches generalizing uses with
  | nil => exact ⟨uses, rfl⟩
  | cons patch rest ih =>
    have first : ∃ middle, replayPatch uses patch = .ok middle := by
      have here := cited patch List.mem_cons_self
      obtain ⟨itemId, operation, shape⟩ := patch
      cases operation with
      | remove => exact ⟨_, rfl⟩
      | move position => exact ⟨_, rfl⟩
      | emphasize field emphasis => exact ⟨_, rfl⟩
      | replaceText field text facts =>
        exact ⟨_, if_neg (here (itemId, field) facts (by simp [PatchV1.cites]))⟩
      | replaceItems field items facts =>
        exact ⟨_, if_neg (here (itemId, field) facts (by simp [PatchV1.cites]))⟩
    obtain ⟨middle, ran⟩ := first
    obtain ⟨after, later⟩ := ih (fun other member => cited other (List.mem_cons_of_mem _ member))
      middle
    exact ⟨after, by simp only [replayPatches, ran, later]⟩

/-! ## The generated version -/

section Generated
variable {uuid5 : UUID → Text → UUID} {sessionId : UUID} {snapshot : List UUID}
  {cited : UUID → UUID}

/-- The citations after the bullets of some projects were read. -/
def bulletHeld (ids : List UUID) (cited : UUID → UUID) (held : FieldKey → Option (List UUID)) :
    FieldKey → Option (List UUID) := fun key =>
  if key.2 = .bullet ∧ key.1 ∈ ids then some [cited key.1] else held key

/-- The fact a bullet's id was made from is the only one, if its matches are one. -/
theorem matches_cited {bulletId factId : UUID} (inside : cited bulletId ∈ snapshot)
    (made : bulletId = uuid5 sessionId (uuidText (cited bulletId)))
    (only : snapshot.filter (fun fact => uuid5 sessionId (uuidText fact) = bulletId) = [factId]) :
    factId = cited bulletId := by
  have member : cited bulletId ∈
      snapshot.filter fun fact => uuid5 sessionId (uuidText fact) = bulletId := by
    simp [inside, ← made]
  rw [only, List.mem_singleton] at member
  exact member.symm

theorem bulletUses_holds {bullets : List Bullet} {uses after : FactUses}
    {held : FieldKey → Option (List UUID)} (before : uses.Holds held)
    (made : ∀ bullet ∈ bullets, cited bullet.id ∈ snapshot ∧
      bullet.id = uuid5 sessionId (uuidText (cited bullet.id)))
    (ran : bulletUses uuid5 sessionId snapshot bullets uses = .ok after) :
    after.Holds (bulletHeld (bullets.map Bullet.id) cited held) := by
  induction bullets generalizing uses held with
  | nil =>
    cases ran
    exact fun key facts => (before key facts).trans (by simp [bulletHeld])
  | cons bullet rest ih =>
    simp only [bulletUses] at ran
    split at ran
    next factId only =>
      obtain ⟨inside, id⟩ := made bullet List.mem_cons_self
      cases matches_cited inside id only
      have final := ih (before.put (bullet.id, .bullet) [cited bullet.id])
        (fun other member => made other (List.mem_cons_of_mem _ member)) ran
      refine fun key facts => (final key facts).trans ?_
      have same : bulletHeld (rest.map Bullet.id) cited
          (Function.update held (bullet.id, .bullet) (some [cited bullet.id])) key =
          bulletHeld ((bullet :: rest).map Bullet.id) cited held key := by
        obtain ⟨item, field⟩ := key
        by_cases here : item = bullet.id ∧ field = .bullet
        · obtain ⟨rfl, rfl⟩ := here
          simp [bulletHeld]
        · have apart : (item, field) ≠ (bullet.id, PatchField.bullet) := by
            simpa [Prod.mk.injEq] using here
          simp only [bulletHeld, Function.update_of_ne apart, List.map_cons, List.mem_cons]
          congr 1
          refine propext (and_congr_right fun isBullet => ?_)
          exact (or_iff_right fun same => here ⟨same, isBullet⟩).symm
      rw [same]
    · cases ran

/-- The citations after some projects were read. -/
def projectsHeld (projects : List ProjectEntry) (cited : UUID → UUID)
    (held : FieldKey → Option (List UUID)) : FieldKey → Option (List UUID) := fun key =>
  match key.2 with
  | .bullet => if key.1 ∈ projects.flatMap ProjectEntry.bulletIds then some [cited key.1]
      else held key
  | .summary =>
    match projects.find? fun project => project.id = key.1 with
    | some project => project.bullets.head?.elim (held key) fun bullet => some [cited bullet.id]
    | none => held key
  | _ => held key

/-- No later project has the id, so the summary stays as it was read. -/
theorem projectsHeld_cons {project : ProjectEntry} {rest : List ProjectEntry}
    {held next : FieldKey → Option (List UUID)}
    (fresh : project.id ∉ rest.map ProjectEntry.id)
    (bullet : ∀ id, next (id, .bullet) =
      if id ∈ project.bulletIds then some [cited id] else held (id, .bullet))
    (summary : ∀ id, next (id, .summary) = if id = project.id then
      project.bullets.head?.elim (held (id, .summary)) fun first => some [cited first.id]
      else held (id, .summary))
    (other : ∀ id field, field ≠ .bullet → field ≠ .summary → next (id, field) = held (id, field))
    (key : FieldKey) :
    projectsHeld rest cited next key = projectsHeld (project :: rest) cited held key := by
  obtain ⟨id, field⟩ := key
  have none_later : id = project.id → rest.find? (fun p => p.id = id) = none := by
    rintro rfl
    refine List.find?_eq_none.mpr fun p member same => fresh ?_
    exact List.mem_map.mpr ⟨p, member, by simpa using same⟩
  cases field with
  | bullet =>
    simp only [projectsHeld, bullet, List.flatMap_cons, List.mem_append]
    split <;> split <;> simp_all
  | summary =>
    by_cases same : id = project.id
    · subst same
      simp [projectsHeld, none_later rfl, summary]
    · have apart : project.id ≠ id := Ne.symm same
      simp [projectsHeld, summary, same, apart]
  | title | period | institution | qualification | label | technologies | items =>
    simp [projectsHeld, other]

theorem generatedUses_holds {projects : List ProjectEntry} {uses after : FactUses}
    {held : FieldKey → Option (List UUID)} (before : uses.Holds held)
    (distinct : (projects.map ProjectEntry.id).Nodup)
    (made : ∀ project ∈ projects, ∀ bullet ∈ project.bullets, cited bullet.id ∈ snapshot ∧
      bullet.id = uuid5 sessionId (uuidText (cited bullet.id)))
    (ran : generatedUses uuid5 sessionId snapshot projects uses = .ok after) :
    after.Holds (projectsHeld projects cited held) := by
  induction projects generalizing uses held with
  | nil =>
    cases ran
    intro key facts
    rw [before key facts]
    obtain ⟨item, field⟩ := key
    cases field <;> simp [projectsHeld]
  | cons project rest ih =>
    obtain ⟨fresh, restDistinct⟩ := List.nodup_cons.mp distinct
    simp only [generatedUses] at ran
    split at ran
    · cases ran
    next read bulletsRan =>
    have bulletsHeld := bulletUses_holds before (made project List.mem_cons_self) bulletsRan
    have others := fun other member => made other (List.mem_cons_of_mem project member)
    cases bullets : project.bullets with
    | nil =>
      rw [bullets] at ran bulletsHeld
      have final := ih bulletsHeld restDistinct others ran
      refine fun key facts => (final key facts).trans (iff_of_eq (congrArg (· = some facts) ?_))
      refine projectsHeld_cons fresh ?_ ?_ ?_ key
      · simp [bulletHeld, ProjectEntry.bulletIds, bullets]
      · intro id
        simp [bulletHeld, bullets]
      · intro id field notBullet _
        simp [bulletHeld, notBullet]
    | cons first later =>
      rw [bullets] at ran bulletsHeld
      have cites : read.get (first.id, .bullet) = [cited first.id] :=
        bulletsHeld.get (by simp [bulletHeld])
      simp only [cites] at ran
      have final := ih (bulletsHeld.put (project.id, .summary) [cited first.id]) restDistinct
        others ran
      refine fun key facts => (final key facts).trans (iff_of_eq (congrArg (· = some facts) ?_))
      refine projectsHeld_cons fresh ?_ ?_ ?_ key
      · intro id
        simp [Function.update_of_ne, bulletHeld, ProjectEntry.bulletIds, bullets]
      · intro id
        by_cases same : id = project.id
        · simp [same, bullets]
        · simp [same, bulletHeld, Function.update_of_ne]
      · intro id field notBullet notSummary
        simp [bulletHeld, notBullet, notSummary, Function.update_of_ne]

/-- From an empty dictionary the generated version leaves its own citations. -/
theorem projectsHeld_generated (content : ResumeContent) (cited : UUID → UUID) :
    projectsHeld content.projects cited (fun _ => none) = generatedCitation content cited := by
  funext key
  obtain ⟨id, field⟩ := key
  cases field with
  | summary =>
    simp only [projectsHeld, generatedCitation]
    cases content.projects.find? fun project => project.id = id with
    | none => rfl
    | some project => cases bullets : project.bullets <;> simp [bullets]
  | bullet => rfl
  | title | period | institution | qualification | label | technologies | items => rfl

end Generated
end Pathfinder
