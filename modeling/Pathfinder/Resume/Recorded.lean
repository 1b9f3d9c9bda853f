import Pathfinder.Resume.Lineage
import Pathfinder.Resume.Replay

/-!
# Recorded lineages

The rows of a session whose versions were made as a lineage says. Reading them
back, `_actual_fact_uses` ends without an exception exactly where the bullets of
the first version can be resolved and every version covers its attribution.
-/
namespace Pathfinder
open LastWriter
variable {chars : CharacterTables}

namespace SessionLineage

/-- The rows that record a lineage of a session. -/
inductive Recorded (db : FactDb chars) (tenant : TenantContext) (sessionId : UUID) :
    ResumeVersion → SessionLineage chars → Prop
  | generated {row : ResumeVersion} {cited : UUID → UUID} (root : row.parentVersionId = none)
      (number : row.version = 1) :
      Recorded db tenant sessionId row
        (.generated row.content (factSnapshot db tenant row.id) cited)
  | revised {row parent : ResumeVersion} {parentId : UUID} {base : SessionLineage chars}
      {patches : List (PatchV1 chars)} (earlier : Recorded db tenant sessionId parent base)
      (linked : row.parentVersionId = some parentId)
      (found : findVersion db tenant sessionId parentId = some parent)
      (number : parent.version + 1 = row.version)
      (recorded : recordedPatches db tenant sessionId row = .ok patches) :
      Recorded db tenant sessionId row
        (.revised base patches row.content (factSnapshot db tenant row.id))

/-- Every bullet of the generated version has one matching fact in its snapshot. -/
def Resolvable (uuid5 : UUID → Text → UUID) (sessionId : UUID) : SessionLineage chars → Prop
  | generated content snapshot _ => ∀ project ∈ content.data.projects,
      ∀ bullet ∈ project.bullets, ∃ fact,
        snapshot.filter (fun fact => uuid5 sessionId (uuidText fact) = bullet.id) = [fact]
  | revised base _ _ _ => base.Resolvable uuid5 sessionId

/-- The snapshot of a version contains the facts attributed there. -/
def CoversItself (lineage : SessionLineage chars) : Prop :=
  ∀ fact, lineage.Attributes fact → fact ∈ lineage.snapshot

/-- Every version before the last covers itself. -/
def AncestorsCovered : SessionLineage chars → Prop
  | generated _ _ _ => True
  | revised base _ _ _ => base.AncestorsCovered ∧ base.CoversItself

end SessionLineage

/-! ## One version -/

theorem checkSnapshot_ok {uses after : FactUses} {snapshot : List UUID} :
    checkSnapshot uses snapshot = .ok after ↔
      uses = after ∧ ∀ fact ∈ uses.union, fact ∈ snapshot := by
  simp only [checkSnapshot, List.all_eq_true, decide_eq_true_eq]
  split
  next covered => exact ⟨fun same => ⟨Except.ok.inj same, covered⟩, fun both => both.1 ▸ rfl⟩
  next uncovered => exact ⟨fun ran => (by cases ran), fun both => absurd both.2 uncovered⟩

/-- The check passes where the version covers itself. -/
theorem checkSnapshot_runs {uses : FactUses} {lineage : SessionLineage chars}
    (held : uses.Holds lineage.attribution) :
    (∃ after, checkSnapshot uses lineage.snapshot = .ok after) ↔ lineage.CoversItself := by
  have attributed : ∀ fact, fact ∈ uses.union ↔ lineage.Attributes fact := held.mem_union
  simp only [checkSnapshot_ok, attributed, SessionLineage.CoversItself]
  exact ⟨fun ⟨_, _, covered⟩ => covered, fun covered => ⟨uses, rfl, covered⟩⟩

section Generated
variable {uuid5 : UUID → Text → UUID} {sessionId : UUID} {snapshot : List UUID}

theorem bulletUses_runs {bullets : List Bullet} {uses : FactUses} :
    (∃ after, bulletUses uuid5 sessionId snapshot bullets uses = .ok after) ↔
      ∀ bullet ∈ bullets, ∃ fact,
        snapshot.filter (fun fact => uuid5 sessionId (uuidText fact) = bullet.id) = [fact] := by
  induction bullets generalizing uses with
  | nil => simp [bulletUses]
  | cons bullet rest ih =>
    simp only [bulletUses, List.forall_mem_cons]
    split
    next fact only =>
      rw [ih]
      exact ⟨fun others => ⟨⟨fact, only⟩, others⟩, And.right⟩
    next unresolved =>
      constructor
      · rintro ⟨after, ran⟩
        cases ran
      · rintro ⟨⟨fact, only⟩, _⟩
        exact absurd only (unresolved fact)

theorem generatedUses_runs {projects : List ProjectEntry} {uses : FactUses} :
    (∃ after, generatedUses uuid5 sessionId snapshot projects uses = .ok after) ↔
      ∀ project ∈ projects, ∀ bullet ∈ project.bullets, ∃ fact,
        snapshot.filter (fun fact => uuid5 sessionId (uuidText fact) = bullet.id) = [fact] := by
  induction projects generalizing uses with
  | nil => simp [generatedUses]
  | cons project rest ih =>
    have here : (∃ after, bulletUses uuid5 sessionId snapshot project.bullets uses = .ok after) ↔
        _ := bulletUses_runs
    rw [List.forall_mem_cons, ← here]
    simp only [generatedUses]
    split
    next reason failed => simp [failed]
    next read ran =>
      rw [ih]
      simp [ran]

end Generated

/-! ## The walk along the parents -/

section Walk
variable {uuid5 : UUID → Text → UUID} {db : FactDb chars} {tenant : TenantContext}
  {sessionId : UUID}

theorem laterUses_append (rows : List ResumeVersion) (row : ResumeVersion) (uses : FactUses) :
    laterUses db tenant sessionId (rows ++ [row]) uses =
      match laterUses db tenant sessionId rows uses with
      | .error reason => .error reason
      | .ok uses => revisedUses db tenant sessionId uses row := by
  induction rows generalizing uses with
  | nil =>
    simp only [List.nil_append, laterUses]
    split <;> simp_all
  | cons first rest ih =>
    simp only [List.cons_append, laterUses]
    split
    · rfl
    · exact ih _

/-- The uses after a first version and later ones. -/
def readUses (uuid5 : UUID → Text → UUID) (db : FactDb chars) (tenant : TenantContext)
    (sessionId : UUID) (first : ResumeVersion) (later : List ResumeVersion) :
    Except StoreError FactUses :=
  match firstUses uuid5 db tenant sessionId first with
  | .error reason => .error reason
  | .ok uses => laterUses db tenant sessionId later uses

theorem readUses_append (first : ResumeVersion) (later : List ResumeVersion)
    (row : ResumeVersion) :
    readUses uuid5 db tenant sessionId first (later ++ [row]) =
      match readUses uuid5 db tenant sessionId first later with
      | .error reason => .error reason
      | .ok uses => revisedUses db tenant sessionId uses row := by
  unfold readUses
  split
  · rfl
  · exact laterUses_append later row _

/-- The walk ends at the first version and returns the rows in their order. -/
theorem lineage_revised {row parent : ResumeVersion} {parentId : UUID}
    {rows : List ResumeVersion} (linked : row.parentVersionId = some parentId)
    (found : findVersion db tenant sessionId parentId = some parent)
    (number : parent.version + 1 = row.version)
    (walked : ∀ fuel, parent.version ≤ fuel → lineage db tenant sessionId fuel parent = .ok rows)
    {fuel : Nat} (enough : row.version ≤ fuel) :
    lineage db tenant sessionId fuel row = .ok (rows ++ [row]) := by
  cases fuel with
  | zero => omega
  | succ fuel =>
    have base := walked fuel (by omega)
    simp [lineage, linked, found, number, base, Except.map]

/-- The replay of the recorded patches on what is still there. -/
theorem revisedUses_ok {row : ResumeVersion} {uses : FactUses} {patches : List (PatchV1 chars)}
    {base : SessionLineage chars} (recorded : recordedPatches db tenant sessionId row = .ok patches)
    (cited : ∀ patch ∈ patches, ∀ key facts, patch.cites key = some facts → facts ≠ [])
    (before : uses.Holds base.attribution) :
    ∃ replayed : FactUses,
      replayed.Holds (SessionLineage.revised base patches row.content
        (factSnapshot db tenant row.id)).attribution ∧
      revisedUses db tenant sessionId uses row =
        checkSnapshot replayed (factSnapshot db tenant row.id) := by
  have present := before.filter fun key => key.1 ∈ row.content.data.itemIds
  obtain ⟨replayed, ran⟩ := replayPatches_runs cited
    (uses.filter fun entry => entry.1.1 ∈ row.content.data.itemIds)
  refine ⟨replayed, ?_, ?_⟩
  · have held := replayPatches_holds present ran
    simpa only [SessionLineage.attribution, decide_eq_true_eq] using held
  · simp only [revisedUses, recorded, ran]

/-- The first version is read where its bullets can be resolved and it covers itself. -/
theorem firstUses_runs {row : ResumeVersion} (first : SessionLineage chars)
    (number : row.version = 1) (snapshot : first.snapshot = factSnapshot db tenant row.id)
    (held : ∀ uses, generatedUses uuid5 sessionId (factSnapshot db tenant row.id)
      row.content.data.projects [] = .ok uses → uses.Holds first.attribution) :
    (∃ uses, firstUses uuid5 db tenant sessionId row = .ok uses) ↔
      (∃ uses, generatedUses uuid5 sessionId (factSnapshot db tenant row.id)
        row.content.data.projects [] = .ok uses) ∧ first.CoversItself := by
  simp only [firstUses, number, ne_eq, not_true_eq_false, if_false]
  cases ran : generatedUses uuid5 sessionId (factSnapshot db tenant row.id)
      row.content.data.projects [] with
  | error reason => simp
  | ok read =>
    simp only [← snapshot, checkSnapshot_runs (held read ran)]
    simp

/-- What reading the rows of a recorded lineage back comes to. -/
structure ReadBack (uuid5 : UUID → Text → UUID) (db : FactDb chars) (tenant : TenantContext)
    (sessionId : UUID) (row : ResumeVersion) (recorded : SessionLineage chars)
    (first : ResumeVersion) (later : List ResumeVersion) : Prop where
  walked : ∀ fuel, row.version ≤ fuel →
    lineage db tenant sessionId fuel row = .ok (first :: later)
  held : ∀ uses, readUses uuid5 db tenant sessionId first later = .ok uses →
    uses.Holds recorded.attribution
  runs : (∃ uses, readUses uuid5 db tenant sessionId first later = .ok uses) ↔
    recorded.Resolvable uuid5 sessionId ∧ recorded.AncestorsCovered ∧ recorded.CoversItself

theorem ReadBack.attributed {row first : ResumeVersion} {later : List ResumeVersion}
    {recorded : SessionLineage chars}
    (readBack : ReadBack uuid5 db tenant row.sessionId row recorded first later) :
    attributedUses uuid5 db tenant row = readUses uuid5 db tenant row.sessionId first later := by
  rw [attributedUses, readBack.walked row.version (Nat.le_refl _)]
  rfl

/-- Reading a generated version. -/
theorem readBack_generated {row : ResumeVersion} {cited : UUID → UUID}
    {facts : UUID → Option FactClaim} (root : row.parentVersionId = none)
    (number : row.version = 1)
    (accepted : (.generated row.content (factSnapshot db tenant row.id) cited :
      SessionLineage chars).Accepted uuid5 sessionId facts) :
    ReadBack uuid5 db tenant sessionId row
      (.generated row.content (factSnapshot db tenant row.id) cited) row [] := by
  cases accepted with
  | generated distinct bullets _ =>
  have projects := (separated (ResumeContent.items_unique distinct)).projects
  have held : ∀ uses, generatedUses uuid5 sessionId (factSnapshot db tenant row.id)
      row.content.data.projects [] = .ok uses →
      uses.Holds (generatedCitation row.content.data cited) := by
    intro uses ran
    rw [← projectsHeld_generated]
    have empty : FactUses.Holds [] (fun _ => none) := by simp [FactUses.Holds]
    exact generatedUses_holds empty projects
      (fun project member bullet inside =>
        ⟨(bullets project member bullet inside).1, (bullets project member bullet inside).2.1⟩) ran
  refine ⟨?_, ?_, ?_⟩
  · intro fuel _
    cases fuel <;> simp [lineage, root]
  · intro uses ran
    simp only [readUses, firstUses, number, ne_eq, not_true_eq_false, if_false, laterUses] at ran
    split at ran
    · cases ran
    next checked first =>
    split at first
    · cases first
    next read generated =>
    cases ran
    obtain ⟨rfl, -⟩ := checkSnapshot_ok.mp first
    exact held _ generated
  · have first := firstUses_runs (.generated row.content (factSnapshot db tenant row.id) cited)
      number rfl held
    rw [generatedUses_runs] at first
    simp only [SessionLineage.Resolvable, SessionLineage.AncestorsCovered, true_and, ← first,
      readUses, laterUses]
    cases firstUses uuid5 db tenant sessionId row <;> simp

/-- Reading a later version, after the ones before it. -/
theorem readBack_revised {row parent first : ResumeVersion} {parentId : UUID}
    {later : List ResumeVersion} {base : SessionLineage chars} {patches : List (PatchV1 chars)}
    (linked : row.parentVersionId = some parentId)
    (found : findVersion db tenant sessionId parentId = some parent)
    (number : parent.version + 1 = row.version)
    (recorded : recordedPatches db tenant sessionId row = .ok patches)
    (cited : ∀ patch ∈ patches, ∀ key facts, patch.cites key = some facts → facts ≠ [])
    (before : ReadBack uuid5 db tenant sessionId parent base first later) :
    ReadBack uuid5 db tenant sessionId row
      (.revised base patches row.content (factSnapshot db tenant row.id)) first
      (later ++ [row]) := by
  refine ⟨?_, ?_, ?_⟩
  · intro fuel enough
    exact lineage_revised linked found number before.walked enough
  · intro uses ran
    rw [readUses_append] at ran
    split at ran
    · cases ran
    next read earlier =>
    obtain ⟨replayed, held, replay⟩ := revisedUses_ok recorded cited (before.held read earlier)
    rw [replay] at ran
    obtain ⟨rfl, -⟩ := checkSnapshot_ok.mp ran
    exact held
  · rw [readUses_append]
    simp only [SessionLineage.Resolvable, SessionLineage.AncestorsCovered]
    cases earlier : readUses uuid5 db tenant sessionId first later with
    | error reason =>
      have stuck := before.runs.not.mp (by simp [earlier])
      simp only [reduceCtorEq, exists_false, false_iff]
      rintro ⟨resolvable, ⟨ancestors, parent⟩, _⟩
      exact stuck ⟨resolvable, ancestors, parent⟩
    | ok read =>
      obtain ⟨resolvable, ancestors, parent⟩ := before.runs.mp ⟨read, earlier⟩
      obtain ⟨replayed, held, replay⟩ := revisedUses_ok recorded cited (before.held read earlier)
      simp only [replay, resolvable, ancestors, parent, true_and]
      exact checkSnapshot_runs held

end Walk

namespace SessionLineage
variable {uuid5 : UUID → Text → UUID} {db : FactDb chars} {tenant : TenantContext}
  {sessionId : UUID} {facts : UUID → Option FactClaim} {row : ResumeVersion}
  {lineage : SessionLineage chars}

theorem Recorded.readBack (recorded : lineage.Recorded db tenant sessionId row)
    (accepted : lineage.Accepted uuid5 sessionId facts) :
    ∃ first later, ReadBack uuid5 db tenant sessionId row lineage first later := by
  induction recorded with
  | generated root number => exact ⟨_, [], readBack_generated root number accepted⟩
  | revised earlier linked found number patches ih =>
    obtain ⟨base, applied⟩ := accepted.applied
    obtain ⟨first, later, before⟩ := ih base
    exact ⟨first, _, readBack_revised linked found number patches applied.cites_nonempty before⟩

/-- Where the replay ends, its dictionary is the attribution of the lineage. -/
theorem Recorded.attributedUses_holds (recorded : lineage.Recorded db tenant row.sessionId row)
    (accepted : lineage.Accepted uuid5 row.sessionId facts) {uses : FactUses}
    (ran : attributedUses uuid5 db tenant row = .ok uses) : uses.Holds lineage.attribution := by
  obtain ⟨first, later, readBack⟩ := recorded.readBack accepted
  exact readBack.held uses (readBack.attributed ▸ ran)

/-- It ends if the first version can be resolved and every version covers itself. -/
theorem Recorded.attributedUses_runs (recorded : lineage.Recorded db tenant row.sessionId row)
    (accepted : lineage.Accepted uuid5 row.sessionId facts) :
    (∃ uses, attributedUses uuid5 db tenant row = .ok uses) ↔
      lineage.Resolvable uuid5 row.sessionId ∧ lineage.AncestorsCovered ∧ lineage.CoversItself := by
  obtain ⟨first, later, readBack⟩ := recorded.readBack accepted
  rw [readBack.attributed]
  exact readBack.runs

end SessionLineage
end Pathfinder
