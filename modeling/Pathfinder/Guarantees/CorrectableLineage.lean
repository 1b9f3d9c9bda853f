import Pathfinder.Guarantees.AttributionExact

/-!
# Which repaired versions can be confirmed

A version whose own facts are in order is confirmed if and only if every
version before it kept, in its own snapshot, the facts attributed to it then.
-/
namespace Pathfinder
variable {chars : CharacterTables}

/-- The version's own facts are in order: it has no open question, and what it
attributes is something, is confirmed, is in its own snapshot and is not superseded
by a pending or confirmed correction. -/
structure SelfConfirmable (db : FactDb chars) (tenant : TenantContext) (row : ResumeVersion)
    (lineage : SessionLineage chars) : Prop where
  answered : row.questions = []
  supported : ∃ fact, lineage.Attributes fact
  covered : lineage.CoversItself
  known : ∀ fact, lineage.Attributes fact →
    (∃ version ∈ db.materialFactVersions, version.workspaceId = tenant.workspaceId ∧
      version.id = fact) ∨
    ∃ version ∈ db.userFactVersions, version.workspaceId = tenant.workspaceId ∧ version.id = fact
  materialConfirmed : ∀ version ∈ db.materialFactVersions,
    version.workspaceId = tenant.workspaceId → lineage.Attributes version.id →
      version.reviewStatus = .confirmed
  userConfirmed : ∀ version ∈ db.userFactVersions,
    version.workspaceId = tenant.workspaceId → lineage.Attributes version.id →
      version.reviewStatus = .confirmed
  uncorrected : ∀ fact ∈ db.userFacts, fact.workspaceId = tenant.workspaceId →
    (∃ target, (fact.supersedesMaterialVersionId = some target ∨
      fact.supersedesUserVersionId = some target) ∧ lineage.Attributes target) →
    underCorrection db tenant fact = false

section
variable {uuid5 : UUID → Text → UUID} {db : FactDb chars} {tenant : TenantContext}
  {facts : UUID → Option FactClaim} {row : ResumeVersion} {lineage : SessionLineage chars}

/-- The checks behind `_actual_fact_uses` pass where the facts are in order. -/
theorem SelfConfirmable.passes (own : SelfConfirmable db tenant row lineage) {used : List UUID}
    (reported : ∀ fact, fact ∈ used ↔ lineage.Attributes fact)
    (ran : actualFactUses uuid5 db tenant row = .ok used) :
    requireConfirmable uuid5 db tenant row = .ok () := by
  have some : used ≠ [] := by
    obtain ⟨fact, attributed⟩ := own.supported
    exact List.ne_nil_of_mem ((reported fact).mpr attributed)
  have known : (used.all fun id => (materialStatuses db tenant used ++
      userStatuses db tenant used).any fun entry => entry.1 = id) = true := by
    simp only [List.all_eq_true, List.any_eq_true, decide_eq_true_eq]
    intro fact member
    rcases own.known fact ((reported fact).mp member) with
      ⟨version, stored, same, rfl⟩ | ⟨version, stored, same, rfl⟩
    · refine ⟨(version.id, version.reviewStatus), List.mem_append_left _ ?_, rfl⟩
      exact List.mem_map.mpr ⟨version, by simp [stored, same, member], rfl⟩
    · refine ⟨(version.id, version.reviewStatus), List.mem_append_right _ ?_, rfl⟩
      exact List.mem_map.mpr ⟨version, by simp [stored, same, member], rfl⟩
  have confirmed : ((materialStatuses db tenant used ++ userStatuses db tenant used).any
      fun entry => entry.2 ≠ .confirmed) = false := by
    simp only [List.any_eq_false, decide_eq_true_eq, not_not]
    intro entry listed
    rcases List.mem_append.mp listed with listed | listed
    · obtain ⟨version, stored, rfl⟩ := List.mem_map.mp listed
      simp only [List.mem_filter, decide_eq_true_eq] at stored
      exact own.materialConfirmed version stored.1 stored.2.1 ((reported _).mp stored.2.2)
    · obtain ⟨version, stored, rfl⟩ := List.mem_map.mp listed
      simp only [List.mem_filter, decide_eq_true_eq] at stored
      exact own.userConfirmed version stored.1 stored.2.1 ((reported _).mp stored.2.2)
  have uncorrected : ((db.userFacts.filter (corrects tenant used)).any
      (underCorrection db tenant)) = false := by
    simp only [List.any_eq_false, Bool.not_eq_true]
    intro fact listed
    obtain ⟨stored, corrected⟩ := List.mem_filter.mp listed
    simp only [corrects, Bool.and_eq_true, Bool.or_eq_true, decide_eq_true_eq,
      Option.any_eq_true] at corrected
    obtain ⟨same, (⟨target, supersedes, member⟩ | ⟨target, supersedes, member⟩)⟩ := corrected
    · exact own.uncorrected fact stored same ⟨target, .inl supersedes, (reported _).mp member⟩
    · exact own.uncorrected fact stored same ⟨target, .inr supersedes, (reported _).mp member⟩
  simp only [requireConfirmable, own.answered, ran, ne_eq, not_true_eq_false, if_false]
  rw [if_neg some, known, confirmed, uncorrected]
  rfl

/-- A version whose own facts are in order can be confirmed if and only if the
bullets of the first version can be resolved and every version before it covers itself. -/
theorem confirmable_iff_ancestors_covered
    (recorded : lineage.Recorded db tenant row.sessionId row)
    (accepted : lineage.Accepted uuid5 row.sessionId facts)
    (own : SelfConfirmable db tenant row lineage) :
    requireConfirmable uuid5 db tenant row = .ok () ↔
      lineage.Resolvable uuid5 row.sessionId ∧ lineage.AncestorsCovered := by
  have runs := recorded.attributedUses_runs accepted
  constructor
  · intro confirmable
    have ended : ∃ uses, attributedUses uuid5 db tenant row = .ok uses := by
      cases ran : attributedUses uuid5 db tenant row with
      | ok uses => exact ⟨uses, rfl⟩
      | error reason =>
        simp [requireConfirmable, actualFactUses, own.answered, ran, Except.map] at confirmable
    obtain ⟨resolvable, ancestors, -⟩ := runs.mp ended
    exact ⟨resolvable, ancestors⟩
  · rintro ⟨resolvable, ancestors⟩
    obtain ⟨uses, ran⟩ := runs.mpr ⟨resolvable, ancestors, own.covered⟩
    have reported : actualFactUses uuid5 db tenant row = .ok uses.union := by
      simp [actualFactUses, ran, Except.map]
    exact own.passes (recorded.mem_uses accepted reported) reported

end

/-! ## A repaired session -/

/-- The first revision only rewords the first project; fact 12, which the second
project shows, has been corrected by the user fact 14 and is no longer bound. -/
def rewordingPatches : List (PatchV1 asciiTables) :=
  [⟨sampleUuid5 7 (uuidText 11), .replaceText .bullet "Cut latency 40%".toList [11], by decide⟩]

def rewordedProject : ProjectEntry :=
  { sampleProject 20 11 "Cut latency by 40%" with
    bullets := [⟨sampleUuid5 7 (uuidText 11), plainText "Cut latency 40%"⟩] }

def sampleReworded : ResumeContentV1 :=
  ⟨sampleResume [rewordedProject, sampleProject 30 12 "Built the index"], by decide⟩

/-- The second revision takes the project out that still showed fact 12. -/
def repairingPatches : List (PatchV1 asciiTables) :=
  [⟨30, .remove, PatchOperation.remove_valid asciiTables⟩]

def sampleRepaired : ResumeContentV1 := ⟨sampleResume [rewordedProject], by decide⟩

def rewordedSession : SessionLineage asciiTables :=
  .revised sampleBase rewordingPatches sampleReworded [11, 13, 14]

def repairedSession : SessionLineage asciiTables :=
  .revised rewordedSession repairingPatches sampleRepaired [11, 13, 14]

theorem repairedSession_accepted : repairedSession.Accepted sampleUuid5 7 sampleFacts :=
  have reworded : applyScopedPatches sampleGenerated rewordingPatches
      [sampleUuid5 7 (uuidText 11)] samplePreferences [11, 13, 14]
      (fun id => if id ∈ [11, 13, 14] then sampleFacts id else none) =
      .ok (sampleReworded, _) := rfl
  have repaired : applyScopedPatches sampleReworded repairingPatches [30] samplePreferences
      [11, 13, 14] (fun id => if id ∈ [11, 13, 14] then sampleFacts id else none) =
      .ok (sampleRepaired, _) := rfl
  .revised (.revised sampleBase_accepted reworded) repaired

def sampleThirdVersion : ResumeVersion :=
  ⟨103, 3, 7, 3, 203, some 102, some 302, sampleRepaired, []⟩

def sampleConditions : FactConditions := ⟨none, none, none⟩

def repairedDb : FactDb asciiTables where
  materialFactVersions :=
    [⟨11, 3, 41, 1, "Cut latency by 40%".toList, .implementation, sampleConditions, .confirmed⟩,
      ⟨12, 3, 42, 1, "Built the index".toList, .implementation, sampleConditions, .confirmed⟩,
      ⟨13, 3, 43, 1, "Served 9 teams".toList, .implementation, sampleConditions, .confirmed⟩]
  userFacts := [⟨51, 3, 60, some 7, 1, some 12, none⟩]
  userFactVersions :=
    [⟨14, 3, 51, 1, "Kept the index".toList, .implementation, sampleConditions, .confirmed⟩]
  sessionFacts := [⟨3, 7, 60, 11⟩, ⟨3, 7, 60, 12⟩, ⟨3, 7, 60, 13⟩]
  sessionUserFacts := [⟨3, 7, 14⟩]
  sessionProjects := [⟨3, 7, 60⟩]
  versions := [sampleFirstVersion, sampleSecondVersion sampleReworded, sampleThirdVersion]
  versionFacts := sampleVersionFacts 101 [11, 12, 13] ++
    (sampleVersionFacts 102 [11, 13] ++ [⟨3, 102, 14, true⟩]) ++
    (sampleVersionFacts 103 [11, 13] ++ [⟨3, 103, 14, true⟩])
  feedback := [⟨301, 3, 7, some rewordingPatches⟩, ⟨302, 3, 7, some repairingPatches⟩]

theorem repairedSession_recorded :
    repairedSession.Recorded repairedDb sampleTenant 7 sampleThirdVersion :=
  have first : sampleBase.Recorded repairedDb sampleTenant 7 sampleFirstVersion :=
    .generated rfl rfl
  have second : rewordedSession.Recorded repairedDb sampleTenant 7
      (sampleSecondVersion sampleReworded) := .revised first rfl rfl rfl rfl
  .revised second rfl rfl rfl rfl

theorem repairedSession_attribution (key : FieldKey) :
    repairedSession.attribution key = none ∨ repairedSession.attribution key = some [11] := by
  obtain ⟨id, field⟩ := key
  by_cases listed : id ∈ sampleRepaired.data.itemIds
  · have ids : sampleRepaired.data.itemIds = [1, 20, sampleUuid5 7 (uuidText 11)] := rfl
    simp only [ids, List.mem_cons, List.not_mem_nil, or_false] at listed
    rcases listed with rfl | rfl | rfl <;> cases field <;> decide
  · refine .inl (Option.eq_none_iff_forall_ne_some.mpr fun cited held => ?_)
    obtain ⟨-, before, patch, later, split, stored, -⟩ :=
      (SessionLineage.attribution_absent repairedSession listed).mp held
    have only : patch ∈ repairingPatches := by
      have member : patch ∈ repairedSession.lastPatches :=
        split ▸ List.mem_append_right _ List.mem_cons_self
      exact member
    cases List.mem_singleton.mp only
    exact absurd (usesEffect_store stored).2 (by simp [PatchV1.cites])

/-- The repaired version attributes the first fact only. -/
theorem repairedSession_attributes (fact : UUID) : repairedSession.Attributes fact ↔ fact = 11 := by
  constructor
  · rintro ⟨key, cited, held, member⟩
    rcases repairedSession_attribution key with none | some
    · simp [none] at held
    · cases some.symm.trans held
      simpa using member
  · rintro rfl
    exact ⟨(20, .summary), [11], rfl, by decide⟩

theorem repairedSession_selfConfirmable :
    SelfConfirmable repairedDb sampleTenant sampleThirdVersion repairedSession where
  answered := rfl
  supported := ⟨11, (repairedSession_attributes 11).mpr rfl⟩
  covered := by
    intro fact attributed
    cases (repairedSession_attributes fact).mp attributed
    decide
  known := by
    intro fact attributed
    cases (repairedSession_attributes fact).mp attributed
    decide
  materialConfirmed := by
    have all : ∀ version ∈ repairedDb.materialFactVersions,
      version.reviewStatus = .confirmed := by decide
    exact fun version listed _ _ => all version listed
  userConfirmed := by
    have all : ∀ version ∈ repairedDb.userFactVersions,
      version.reviewStatus = .confirmed := by decide
    exact fun version listed _ _ => all version listed
  uncorrected := by
    rintro fact listed - ⟨target, supersedes, attributed⟩
    cases (repairedSession_attributes target).mp attributed
    cases List.mem_singleton.mp listed
    rcases supersedes with same | same <;> cases same

theorem repairedSession_refused :
    requireConfirmable sampleUuid5 repairedDb sampleTenant sampleThirdVersion =
      .error (.conflict "version fact snapshot omits a used fact") := rfl

/-- The second version lost fact 12 from its snapshot while it still showed it. -/
theorem repairedSession_uncovered :
    ¬ (repairedSession.Resolvable sampleUuid5 7 ∧ repairedSession.AncestorsCovered) := by
  intro covered
  have accepts := (confirmable_iff_ancestors_covered repairedSession_recorded
    repairedSession_accepted repairedSession_selfConfirmable).mpr covered
  cases repairedSession_refused.symm.trans accepts

/-- The third version is in order and is refused for what the second one cited. -/
theorem repaired_not_confirmable : ¬ ∀ (uuid5 : UUID → Text → UUID) (db : FactDb asciiTables)
    (tenant : TenantContext) (facts : UUID → Option FactClaim) (row : ResumeVersion)
    (lineage : SessionLineage asciiTables), lineage.Recorded db tenant row.sessionId row →
    lineage.Accepted uuid5 row.sessionId facts → SelfConfirmable db tenant row lineage →
    requireConfirmable uuid5 db tenant row = .ok () := by
  intro confirmable
  have accepts := confirmable sampleUuid5 repairedDb sampleTenant sampleFacts sampleThirdVersion
    repairedSession repairedSession_recorded repairedSession_accepted
    repairedSession_selfConfirmable
  cases repairedSession_refused.symm.trans accepts

end Pathfinder
