import Pathfinder.Db.ResumeFacts
import Pathfinder.Library.KeyedList

/-!
# Who may cite a fact of the user

A fact of session scope belongs to its session: what any other session binds or
cites has no scope or its own. The identities of versions are told apart by the
database.
-/
namespace Pathfinder
variable {chars : CharacterTables}

/-- Every user version under this identity is of a fact without a scope, or with
the scope of the session. -/
def FactDb.Visible (db : FactDb chars) (sessionId versionId : UUID) : Prop :=
  ∀ version ∈ db.userFactVersions, version.id = versionId →
    ∀ fact ∈ db.userFacts, fact.id = version.factId →
      fact.scopeSessionId = none ∨ fact.scopeSessionId = some sessionId

/-- The keys of the tables, and that scopes are respected. -/
structure FactsOk (db : FactDb chars) : Prop where
  factIds : (db.userFacts.map ResumeUserFact.id).Nodup
  userVersionIds : (db.userFactVersions.map ResumeUserFactVersion.id).Nodup
  versionIds : (db.versions.map ResumeVersion.id).Nodup
  apart : ∀ version ∈ db.materialFactVersions,
    version.id ∉ db.userFactVersions.map ResumeUserFactVersion.id
  parent : ∀ version ∈ db.userFactVersions, version.factId ∈ db.userFacts.map ResumeUserFact.id
  boundStored : ∀ row ∈ db.sessionUserFacts,
    row.factVersionId ∈ db.userFactVersions.map ResumeUserFactVersion.id
  boundVisible : ∀ row ∈ db.sessionUserFacts, db.Visible row.sessionId row.factVersionId
  citedStored : ∀ row ∈ db.versionFacts,
    row.factVersionId ∈ db.materialFactVersions.map MaterialFactVersion.id ∨
      row.factVersionId ∈ db.userFactVersions.map ResumeUserFactVersion.id
  citingStored : ∀ row ∈ db.versionFacts, row.versionId ∈ db.versions.map ResumeVersion.id
  citedVisible : ∀ row ∈ db.versionFacts, ∀ version ∈ db.versions, version.id = row.versionId →
    db.Visible version.sessionId row.factVersionId

section Bound
variable {db : FactDb chars} {tenant : TenantContext} {sessionId : UUID}

theorem mem_userRows {row : UUID × ResumeUserFactVersion}
    (member : row ∈ userRows db tenant sessionId) :
    row.2 ∈ db.userFactVersions ∧ row.2.id = row.1 ∧
      ∃ binding ∈ db.sessionUserFacts, binding.sessionId = sessionId ∧
        binding.factVersionId = row.1 := by
  obtain ⟨binding, bound, listed⟩ := List.mem_flatMap.mp member
  obtain ⟨version, joined, rfl⟩ := List.mem_map.mp listed
  simp only [List.mem_filter, decide_eq_true_eq] at bound joined
  exact ⟨joined.1, joined.2.2.1, binding, bound.1, bound.2.2, rfl⟩

theorem mem_materialRows {row : UUID × MaterialFactVersion}
    (member : row ∈ materialRows db tenant sessionId) :
    row.2 ∈ db.materialFactVersions ∧ row.2.id = row.1 := by
  obtain ⟨binding, bound, listed⟩ := List.mem_flatMap.mp member
  obtain ⟨version, joined, rfl⟩ := List.mem_map.mp listed
  simp only [List.mem_filter, decide_eq_true_eq] at joined
  exact ⟨joined.1, joined.2.2⟩

theorem boundFacts_material {id : UUID} (member : id ∈ (boundFacts db tenant sessionId).material) :
    id ∈ db.materialFactVersions.map MaterialFactVersion.id := by
  obtain ⟨row, kept, rfl⟩ := List.mem_map.mp (List.mem_dedup.mp member)
  obtain ⟨stored, same⟩ := mem_materialRows (List.mem_filter.mp kept).1
  exact List.mem_map.mpr ⟨row.2, stored, same⟩

theorem boundFacts_user {id : UUID} (member : id ∈ (boundFacts db tenant sessionId).user) :
    ∃ binding ∈ db.sessionUserFacts, binding.sessionId = sessionId ∧
      binding.factVersionId = id := by
  obtain ⟨row, kept, rfl⟩ := List.mem_map.mp (List.mem_dedup.mp member)
  exact (mem_userRows (List.mem_filter.mp kept).1).2.2

end Bound

theorem factsOk_empty : FactsOk (FactTables.empty : FactTables chars).toFactDb := by
  constructor <;> simp [FactTables.empty]

namespace FactsOk
variable {tables : FactTables chars}

/-- A user version keeps its visibility where only others are added. -/
theorem visible_mono {db db' : FactDb chars} {sessionId versionId : UUID}
    (visible : db.Visible sessionId versionId)
    (versions : ∀ version ∈ db'.userFactVersions, version.id = versionId →
      version ∈ db.userFactVersions)
    (facts : ∀ version ∈ db.userFactVersions, ∀ fact ∈ db'.userFacts, fact.id = version.factId →
      ∃ origin ∈ db.userFacts, origin.id = fact.id ∧
        origin.scopeSessionId = fact.scopeSessionId) :
    db'.Visible sessionId versionId := by
  intro version member same fact stored parent
  have before := versions version member same
  obtain ⟨origin, present, id, scope⟩ := facts version before fact stored parent
  rw [← scope]
  exact visible version before same origin present (id.trans parent)

theorem recordMaterial {factSets : List MaterialFactSet} {facts : List MaterialFact}
    {versions : List MaterialFactVersion} (ok : FactsOk tables.toFactDb)
    (fresh : ∀ version ∈ versions,
      version.id ∉ tables.userFactVersions.map ResumeUserFactVersion.id) :
    FactsOk (tables.recordMaterial factSets facts versions).toFactDb :=
  { ok with
    apart := by
      intro version member
      rcases List.mem_append.mp member with old | new
      · exact ok.apart version old
      · exact fresh version new
    citedStored := by
      intro row member
      rcases ok.citedStored row member with material | user
      · left
        simp only [FactTables.recordMaterial, List.map_append, List.mem_append]
        exact .inl material
      · exact .inr user }

theorem global_visible (ok : FactsOk tables.toFactDb) {tenant : TenantContext}
    {projectIds : List UUID} {version : ResumeUserFactVersion}
    (member : version ∈ tables.globalUserFacts tenant projectIds) (sessionId : UUID) :
    version ∈ tables.userFactVersions ∧ tables.toFactDb.Visible sessionId version.id := by
  simp only [FactTables.globalUserFacts, List.mem_filter, Bool.decide_and, Bool.and_eq_true,
    decide_eq_true_eq, List.any_eq_true] at member
  obtain ⟨stored, -, -, origin, present, -, -, unscoped, parent, -⟩ := member
  refine ⟨stored, ?_⟩
  intro other listed same fact held child
  obtain rfl := KeyedList.eq_of_key ok.userVersionIds listed stored same
  obtain rfl := KeyedList.eq_of_key ok.factIds held present (child.trans parent.symm)
  exact .inl unscoped

theorem createSession (ok : FactsOk tables.toFactDb) (tenant : TenantContext) (sessionId : UUID)
    (projects : List (UUID × Option UUID)) :
    FactsOk (tables.createSession tenant sessionId projects).toFactDb :=
  { ok with
    boundStored := by
      intro row member
      rcases List.mem_append.mp member with old | new
      · exact ok.boundStored row old
      · obtain ⟨version, bound, rfl⟩ := List.mem_map.mp new
        exact List.mem_map_of_mem (ok.global_visible bound sessionId).1
    boundVisible := by
      intro row member
      rcases List.mem_append.mp member with old | new
      · exact ok.boundVisible row old
      · obtain ⟨version, bound, rfl⟩ := List.mem_map.mp new
        exact (ok.global_visible bound sessionId).2 }

/-- One more user version under a new identity, where facts keep their scope. -/
theorem addUserVersion {db : FactDb chars} {facts : List ResumeUserFact}
    {version : ResumeUserFactVersion} (ok : FactsOk db)
    (factIds : (facts.map ResumeUserFact.id).Nodup)
    (covered : ∀ id ∈ db.userFacts.map ResumeUserFact.id, id ∈ facts.map ResumeUserFact.id)
    (scopes : ∀ fact ∈ facts, fact.id ∈ db.userFacts.map ResumeUserFact.id →
      ∃ origin ∈ db.userFacts, origin.id = fact.id ∧ origin.scopeSessionId = fact.scopeSessionId)
    (child : version.factId ∈ facts.map ResumeUserFact.id)
    (freshMaterial : version.id ∉ db.materialFactVersions.map MaterialFactVersion.id)
    (freshUser : version.id ∉ db.userFactVersions.map ResumeUserFactVersion.id) :
    FactsOk { db with
      userFacts := facts, userFactVersions := db.userFactVersions ++ [version] } := by
  have grown {versionId : UUID}
      (stored : versionId ∈ db.userFactVersions.map ResumeUserFactVersion.id) :
      versionId ∈ (db.userFactVersions ++ [version]).map ResumeUserFactVersion.id := by
    rw [List.map_append, List.mem_append]
    exact .inl stored
  have kept {sessionId versionId : UUID} (visible : db.Visible sessionId versionId)
      (other : versionId ≠ version.id) :
      FactDb.Visible { db with
        userFacts := facts, userFactVersions := db.userFactVersions ++ [version] }
        sessionId versionId := by
    refine visible_mono visible ?_ ?_
    · intro row member same
      rcases List.mem_append.mp member with old | new
      · exact old
      · obtain rfl := List.mem_singleton.mp new
        exact absurd same.symm other
    · intro row listed fact member same
      exact scopes fact member (same ▸ ok.parent row listed)
  refine ⟨factIds, ?_, ok.versionIds, ?_, ?_, fun row member => grown (ok.boundStored row member),
    ?_, ?_, ok.citingStored, ?_⟩
  · exact KeyedList.nodup_snoc ok.userVersionIds fun row member same =>
      freshUser (same ▸ List.mem_map_of_mem member)
  · intro row member listed
    rw [List.map_append, List.mem_append] at listed
    rcases listed with old | new
    · exact ok.apart row member old
    · rw [List.map_singleton, List.mem_singleton] at new
      exact freshMaterial (new ▸ List.mem_map_of_mem member)
  · intro row member
    rcases List.mem_append.mp member with old | new
    · exact covered _ (ok.parent row old)
    · obtain rfl := List.mem_singleton.mp new
      exact child
  · intro row member
    exact kept (ok.boundVisible row member) fun same => freshUser (same ▸ ok.boundStored row member)
  · intro row member
    rcases ok.citedStored row member with material | user
    · exact .inl material
    · exact .inr (grown user)
  · intro row member citing listed same
    refine kept (ok.citedVisible row member citing listed same) fun clash => ?_
    rcases ok.citedStored row member with material | user
    · exact freshMaterial (clash ▸ material)
    · exact freshUser (clash ▸ user)

theorem addUserFact {fact : ResumeUserFact} {version : ResumeUserFactVersion}
    (ok : FactsOk tables.toFactDb) (child : version.factId = fact.id)
    (freshFact : fact.id ∉ tables.userFacts.map ResumeUserFact.id)
    (freshMaterial : version.id ∉ tables.materialFactVersions.map MaterialFactVersion.id)
    (freshUser : version.id ∉ tables.userFactVersions.map ResumeUserFactVersion.id) :
    FactsOk (tables.addUserFact fact version).toFactDb := by
  refine ok.addUserVersion ?_ ?_ ?_ ?_ freshMaterial freshUser
  · exact KeyedList.nodup_snoc ok.factIds fun row member same =>
      freshFact (same ▸ List.mem_map_of_mem member)
  · intro id stored
    rw [List.map_append, List.mem_append]
    exact .inl stored
  · intro row member listed
    rcases List.mem_append.mp member with old | new
    · exact ⟨row, old, rfl, rfl⟩
    · obtain rfl := List.mem_singleton.mp new
      exact absurd listed freshFact
  · simp [child]

/-- The facts behind a review, by identity and scope. -/
theorem reviewed_ids (fact : ResumeUserFact) :
    (tables.userFacts.map fun row => if row.id = fact.id then FactTables.nextVersion row else row).map
        ResumeUserFact.id = tables.userFacts.map ResumeUserFact.id := by
  rw [List.map_map]
  refine List.map_congr_left fun row _ => ?_
  simp only [Function.comp_apply]
  split <;> rfl

theorem addReview {fact : ResumeUserFact} (previous : ResumeUserFactVersion)
    (decision : ReviewDecision) {versionId : UUID} (ok : FactsOk tables.toFactDb)
    (stored : fact ∈ tables.userFacts)
    (freshMaterial : versionId ∉ tables.materialFactVersions.map MaterialFactVersion.id)
    (freshUser : versionId ∉ tables.userFactVersions.map ResumeUserFactVersion.id) :
    FactsOk (tables.addReview fact previous decision versionId).toFactDb := by
  refine ok.addUserVersion ?_ ?_ ?_ ?_ freshMaterial freshUser
  · rw [reviewed_ids]
    exact ok.factIds
  · intro id listed
    rwa [reviewed_ids]
  · intro row member listed
    obtain ⟨origin, present, rfl⟩ := List.mem_map.mp member
    exact ⟨origin, present, by split <;> rfl, by split <;> rfl⟩
  · rw [reviewed_ids]
    exact List.mem_map_of_mem stored

theorem bindUser {row : ResumeSessionUserFact} (ok : FactsOk tables.toFactDb)
    (stored : row.factVersionId ∈ tables.userFactVersions.map ResumeUserFactVersion.id)
    (visible : tables.toFactDb.Visible row.sessionId row.factVersionId) :
    FactsOk (tables.bindUser row).toFactDb :=
  { ok with
    boundStored := by
      intro other member
      rcases List.mem_append.mp member with old | new
      · exact ok.boundStored other old
      · exact List.mem_singleton.mp new ▸ stored
    boundVisible := by
      intro other member
      rcases List.mem_append.mp member with old | new
      · exact ok.boundVisible other old
      · obtain rfl := List.mem_singleton.mp new
        exact visible }

/-- The new version of a reviewed fact is visible where the fact is. -/
theorem reviewed_visible {fact : ResumeUserFact} {previous : ResumeUserFactVersion}
    (decision : ReviewDecision) {versionId sessionId : UUID} (ok : FactsOk tables.toFactDb)
    (stored : fact ∈ tables.userFacts)
    (scope : fact.scopeSessionId = none ∨ fact.scopeSessionId = some sessionId)
    (freshUser : versionId ∉ tables.userFactVersions.map ResumeUserFactVersion.id) :
    (tables.addReview fact previous decision versionId).toFactDb.Visible sessionId versionId := by
  intro version member same other listed parent
  rcases List.mem_append.mp member with old | new
  · exact absurd (same ▸ List.mem_map_of_mem old) freshUser
  · obtain rfl := List.mem_singleton.mp new
    obtain ⟨origin, present, rfl⟩ := List.mem_map.mp listed
    have origin_id : origin.id = fact.id := by
      split at parent <;> exact parent
    obtain rfl := KeyedList.eq_of_key ok.factIds present stored origin_id
    rw [if_pos rfl]
    exact scope

/-- A version cites what was bound to its session. -/
theorem addVersion {version : ResumeVersion} (tenant : TenantContext)
    (ok : FactsOk tables.toFactDb)
    (fresh : version.id ∉ tables.versions.map ResumeVersion.id) :
    FactsOk (tables.addVersion version
      (boundFacts tables.toFactDb tenant version.sessionId)).toFactDb := by
  have cites {row : ResumeVersionFact} (member : row ∈ (tables.addVersion version
      (boundFacts tables.toFactDb tenant version.sessionId)).versionFacts) :
      row ∈ tables.versionFacts ∨ row.versionId = version.id ∧
        (row.factVersionId ∈ tables.materialFactVersions.map MaterialFactVersion.id ∨
          ∃ binding ∈ tables.sessionUserFacts, binding.sessionId = version.sessionId ∧
            binding.factVersionId = row.factVersionId) := by
    rcases List.mem_append.mp member with earlier | user
    · rcases List.mem_append.mp earlier with old | material
      · exact .inl old
      · obtain ⟨id, bound, rfl⟩ := List.mem_map.mp material
        exact .inr ⟨rfl, .inl (boundFacts_material bound)⟩
    · obtain ⟨id, bound, rfl⟩ := List.mem_map.mp user
      exact .inr ⟨rfl, .inr (boundFacts_user bound)⟩
  refine { ok with versionIds := ?_, citedStored := ?_, citingStored := ?_, citedVisible := ?_ }
  · exact KeyedList.nodup_snoc ok.versionIds fun row member same =>
      fresh (same ▸ List.mem_map_of_mem member)
  · intro row member
    rcases cites member with old | ⟨-, material | ⟨binding, bound, -, same⟩⟩
    · exact ok.citedStored row old
    · exact .inl material
    · exact .inr (same ▸ ok.boundStored binding bound)
  · intro row member
    rw [FactTables.addVersion, List.map_append, List.mem_append]
    rcases cites member with old | ⟨same, -⟩
    · exact .inl (ok.citingStored row old)
    · exact .inr (by simp [same])
  · intro row member citing listed same
    rcases List.mem_append.mp listed with before | last
    · rcases cites member with old | ⟨own, -⟩
      · exact ok.citedVisible row old citing before same
      · exact absurd (own ▸ same ▸ List.mem_map_of_mem before) fresh
    · obtain rfl := List.mem_singleton.mp last
      rcases cites member with old | ⟨-, material | ⟨binding, bound, session, cited⟩⟩
      · exact absurd (same ▸ ok.citingStored row old) fresh
      · intro user listed clash
        obtain ⟨stored, present, id⟩ := List.mem_map.mp material
        exact absurd (id ▸ clash ▸ List.mem_map_of_mem listed) (ok.apart stored present)
      · exact session ▸ cited ▸ ok.boundVisible binding bound

end FactsOk

/-! ## Every request -/

section Requests
variable {tables : FactTables chars} {tenant : TenantContext} {sessionId : UUID}
  {review : FactReviewV1} {fact : ResumeUserFact} {previous : ResumeUserFactVersion}

/-- A review is about the current version of a fact that the session may see. -/
theorem requireReview_ok (ran : tables.requireReview tenant sessionId review = .ok (fact, previous)) :
    fact ∈ tables.userFacts ∧ previous ∈ tables.userFactVersions ∧
      previous.id = review.factVersionId ∧ fact.id = previous.factId ∧
        (fact.scopeSessionId = none ∨ fact.scopeSessionId = some sessionId) := by
  unfold FactTables.requireReview at ran
  split at ran
  · cases ran
  next found reviewed =>
  split at ran
  · cases ran
  next parent held =>
  split at ran
  · cases ran
  split at ran
  · cases ran
  split at ran
  · cases ran
  cases ran
  obtain ⟨stored, current⟩ := Option.filter_eq_some_iff.mp held
  have named := List.find?_some reviewed
  have child := List.find?_some stored
  simp only [decide_eq_true_eq] at named child
  simp only [decide_eq_true_eq] at current
  exact ⟨List.mem_of_find?_eq_some stored, List.mem_of_find?_eq_some reviewed, named.2, child.2,
    current.1⟩

/-- Every request keeps the keys and the scopes. -/
theorem attempt_ok {op : FactOp chars} {after : FactTables chars} (ok : FactsOk tables.toFactDb)
    (fresh : op.fresh tables = true) (ran : op.attempt tables = .ok after) :
    FactsOk after.toFactDb := by
  cases op with
  | recordMaterial factSets facts versions =>
    cases ran
    refine ok.recordMaterial fun version member => ?_
    have new := List.all_eq_true.mp fresh version member
    simp only [Bool.and_eq_true, decide_eq_true_eq] at new
    exact new.2
  | createSession tenant sessionId projects =>
    cases ran
    exact ok.createSession tenant sessionId projects
  | fact tenant sessionId input factId versionId =>
    obtain ⟨done, -, same⟩ := map_ok ran
    cases same
    simp only [FactOp.fresh, Bool.and_eq_true, decide_eq_true_eq] at fresh
    exact ok.addUserFact rfl fresh.1.1 fresh.1.2 fresh.2
  | adopt tenant sessionId versionId =>
    obtain ⟨found, -, same⟩ := map_ok ran
    cases found <;> cases same <;> exact { ok with }
  | factReview tenant sessionId review versionId =>
    obtain ⟨⟨fact, previous⟩, reviewed, same⟩ := map_ok ran
    obtain ⟨stored, -, -, -, scope⟩ := requireReview_ok reviewed
    simp only [FactOp.fresh, Bool.and_eq_true, decide_eq_true_eq] at fresh
    have added := ok.addReview previous review.decision stored fresh.1 fresh.2
    by_cases confirmed : review.decision = .confirm
    · rw [if_pos confirmed] at same
      cases same
      refine added.bindUser ?_ (ok.reviewed_visible review.decision stored scope fresh.2)
      simp [FactTables.addReview, FactTables.reviewedVersion]
    · rw [if_neg confirmed] at same
      cases same
      exact added
  | feedback tenant sessionId feedbackId =>
    cases ran
    exact { ok with }
  | answer tenant sessionId feedbackId patches =>
    cases ran
    exact { ok with }
  | publish tenant version =>
    cases ran
    exact ok.addVersion tenant (by simpa [FactOp.fresh] using fresh)

theorem reached_factsOk (ops : List (FactOp chars)) :
    FactsOk ((factStore chars).reached ops).toFactDb := by
  refine (factStore chars).reached_invariant (P := fun tables => FactsOk tables.toFactDb)
    factsOk_empty ?_ ops
  intro tables op ok
  show FactsOk (serveFact tables op).1.toFactDb
  unfold serveFact
  split
  next fresh =>
    split
    · exact ok
    next ran => exact attempt_ok ok fresh ran
  · exact ok

end Requests
end Pathfinder
