import Pathfinder.Resume.FactBindings

/-!
# What the other sessions see

The tables without the rows that belong to one session: its own, and the facts
of the user whose scope it is. Requests of other sessions work on these tables
as they do on all of them, and the session's own corrections do not change them.
-/
namespace Pathfinder
variable {chars : CharacterTables}

namespace FactTables

/-- The fact has the scope of the session. -/
def ownsFact (tables : FactTables chars) (sessionId factId : UUID) : Bool :=
  tables.userFacts.any fun fact => fact.id = factId ∧ fact.scopeSessionId = some sessionId

/-- The version is one of the session. -/
def ownsVersion (tables : FactTables chars) (sessionId versionId : UUID) : Bool :=
  tables.versions.any fun version => version.id = versionId ∧ version.sessionId = sessionId

/-- The tables that the other sessions see. -/
def hide (tables : FactTables chars) (sessionId : UUID) : FactTables chars :=
  { tables with
    userFacts := tables.userFacts.filter fun fact => fact.scopeSessionId ≠ some sessionId
    userFactVersions := tables.userFactVersions.filter fun version =>
      !tables.ownsFact sessionId version.factId
    sessionFacts := tables.sessionFacts.filter fun row => row.sessionId ≠ sessionId
    sessionUserFacts := tables.sessionUserFacts.filter fun row => row.sessionId ≠ sessionId
    versions := tables.versions.filter fun version => version.sessionId ≠ sessionId
    versionFacts := tables.versionFacts.filter fun row => !tables.ownsVersion sessionId row.versionId
    feedback := tables.feedback.filter fun row => row.sessionId ≠ sessionId }

end FactTables

section Reads
variable {tables : FactTables chars} {tenant : TenantContext} {hidden sessionId : UUID}

theorem ownsFact_iff {factId : UUID} : tables.ownsFact hidden factId = true ↔
    ∃ fact ∈ tables.userFacts, fact.id = factId ∧ fact.scopeSessionId = some hidden := by
  simp [FactTables.ownsFact]

/-- A fact with the scope of no session or another one is not hidden. -/
theorem not_owned (ok : FactsOk tables.toFactDb) {fact : ResumeUserFact}
    (stored : fact ∈ tables.userFacts) (other : fact.scopeSessionId ≠ some hidden) :
    tables.ownsFact hidden fact.id = false := by
  rw [Bool.eq_false_iff]
  intro owned
  obtain ⟨origin, present, same, scope⟩ := ownsFact_iff.mp owned
  obtain rfl := KeyedList.eq_of_key ok.factIds present stored same
  exact other scope

/-- What another session may see is not hidden. -/
theorem Visible.not_owned {versionId : UUID} {version : ResumeUserFactVersion}
    (visible : tables.toFactDb.Visible sessionId versionId) (other : sessionId ≠ hidden)
    (stored : version ∈ tables.userFactVersions) (same : version.id = versionId) :
    tables.ownsFact hidden version.factId = false := by
  rw [Bool.eq_false_iff]
  intro owned
  obtain ⟨fact, present, child, scope⟩ := ownsFact_iff.mp owned
  rcases visible version stored same fact present child with unscoped | own
  · rw [unscoped] at scope
    cases scope
  · exact other (Option.some.inj (own.symm.trans scope))

/-! ## Bindings -/

section Bindings
variable (other : sessionId ≠ hidden)
include other

theorem sessionFacts_hide :
    (tables.hide hidden).sessionFacts.filter (fun row =>
        row.workspaceId = tenant.workspaceId ∧ row.sessionId = sessionId) =
      tables.sessionFacts.filter fun row =>
        row.workspaceId = tenant.workspaceId ∧ row.sessionId = sessionId :=
  KeyedList.filter_kept fun row _ wanted => by
    simp only [decide_eq_true_eq] at wanted ⊢
    exact wanted.2 ▸ other

theorem sessionUserFacts_hide :
    (tables.hide hidden).sessionUserFacts.filter (fun row =>
        row.workspaceId = tenant.workspaceId ∧ row.sessionId = sessionId) =
      tables.sessionUserFacts.filter fun row =>
        row.workspaceId = tenant.workspaceId ∧ row.sessionId = sessionId :=
  KeyedList.filter_kept fun row _ wanted => by
    simp only [decide_eq_true_eq] at wanted ⊢
    exact wanted.2 ▸ other

theorem bindsMaterial_hide (versionId : UUID) :
    (tables.hide hidden).bindsMaterial tenant sessionId versionId =
      tables.bindsMaterial tenant sessionId versionId :=
  KeyedList.any_kept fun row _ wanted => by
    simp only [decide_eq_true_eq] at wanted ⊢
    exact wanted.2.1 ▸ other

theorem bindsUser_hide (versionId : UUID) :
    (tables.hide hidden).bindsUser tenant sessionId versionId =
      tables.bindsUser tenant sessionId versionId :=
  KeyedList.any_kept fun row _ wanted => by
    simp only [decide_eq_true_eq] at wanted ⊢
    exact wanted.2.1 ▸ other

theorem materialRows_hide : materialRows (tables.hide hidden).toFactDb tenant sessionId =
    materialRows tables.toFactDb tenant sessionId := by
  unfold materialRows
  rw [sessionFacts_hide other]
  rfl

theorem userRows_hide (ok : FactsOk tables.toFactDb) :
    userRows (tables.hide hidden).toFactDb tenant sessionId =
      userRows tables.toFactDb tenant sessionId := by
  unfold userRows
  rw [sessionUserFacts_hide other]
  refine List.flatMap_congr fun row bound => congrArg (List.map _) ?_
  simp only [List.mem_filter, decide_eq_true_eq] at bound
  refine KeyedList.filter_kept fun version stored wanted => ?_
  simp only [decide_eq_true_eq] at wanted
  rw [Visible.not_owned (ok.boundVisible row bound.1) (bound.2.2 ▸ other) stored wanted.2.1]
  rfl

/-- The parents of what a session binds are not hidden either. -/
theorem parentFacts_hide (ok : FactsOk tables.toFactDb) :
    parentFacts (tables.hide hidden).toFactDb tenant
        ((userRows tables.toFactDb tenant sessionId).map Prod.snd) =
      parentFacts tables.toFactDb tenant
        ((userRows tables.toFactDb tenant sessionId).map Prod.snd) := by
  refine KeyedList.filter_kept fun fact stored wanted => ?_
  simp only [decide_eq_true_eq, List.map_map, List.mem_map, Function.comp_apply] at wanted ⊢
  obtain ⟨-, row, bound, parent⟩ := wanted
  obtain ⟨version, id, binding, listed, session, same⟩ := mem_userRows bound
  have visible := ok.boundVisible binding listed row.2 version (id.trans same.symm) fact stored
    parent.symm
  rw [session] at visible
  rintro scope
  rcases visible with unscoped | own
  · rw [unscoped] at scope
    cases scope
  · exact other (Option.some.inj (own.symm.trans scope))

/-- The facts bound to a session do not depend on what is hidden from it. -/
theorem boundFacts_hide (ok : FactsOk tables.toFactDb) :
    boundFacts (tables.hide hidden).toFactDb tenant sessionId =
      boundFacts tables.toFactDb tenant sessionId := by
  unfold boundFacts
  rw [materialRows_hide other, userRows_hide other ok]
  dsimp only
  rw [parentFacts_hide other ok]

/-! ## The checks of a session -/

theorem requireFact_hide (input : UserFactInputV1) :
    (tables.hide hidden).requireFact tenant sessionId input =
      tables.requireFact tenant sessionId input := by
  unfold FactTables.requireFact
  simp only [bindsMaterial_hide other, bindsUser_hide other]
  rfl

theorem requireAdoption_hide (versionId : UUID) :
    (tables.hide hidden).requireAdoption tenant sessionId versionId =
      tables.requireAdoption tenant sessionId versionId := by
  unfold FactTables.requireAdoption
  simp only [bindsMaterial_hide other]
  rfl

/-- A review from another session is accepted or refused as if the session's own
facts were not there; the reasons of a refusal may differ. -/
theorem requireReview_hide (ok : FactsOk tables.toFactDb) (review : FactReviewV1) :
    ((tables.hide hidden).requireReview tenant sessionId review).toOption =
      (tables.requireReview tenant sessionId review).toOption := by
  unfold FactTables.requireReview
  cases reviewed : tables.userFactVersions.find? fun version =>
      version.workspaceId = tenant.workspaceId ∧ version.id = review.factVersionId with
  | none =>
    have absent : (tables.hide hidden).userFactVersions.find? (fun version =>
        version.workspaceId = tenant.workspaceId ∧ version.id = review.factVersionId) = none := by
      refine List.find?_eq_none.mpr fun version member => ?_
      exact List.find?_eq_none.mp reviewed version (List.mem_filter.mp member).1
    rw [absent]
  | some previous =>
    have stored := List.mem_of_find?_eq_some reviewed
    have named := List.find?_some reviewed
    simp only [decide_eq_true_eq] at named
    have only {version : ResumeUserFactVersion} (listed : version ∈ tables.userFactVersions)
        (same : version.id = review.factVersionId) : version = previous :=
      KeyedList.eq_of_key ok.userVersionIds listed stored (same.trans named.2.symm)
    cases owned : tables.ownsFact hidden previous.factId with
    | true =>
      have absent : (tables.hide hidden).userFactVersions.find? (fun version =>
          version.workspaceId = tenant.workspaceId ∧ version.id = review.factVersionId) = none := by
        refine List.find?_eq_none.mpr fun version member wanted => ?_
        obtain ⟨listed, seen⟩ := List.mem_filter.mp member
        simp only [decide_eq_true_eq] at wanted
        rw [only listed wanted.2, owned] at seen
        cases seen
      rw [absent]
      dsimp only
      split
      · rfl
      next fact held =>
      obtain ⟨found, current⟩ := Option.filter_eq_some_iff.mp held
      have child := List.find?_some found
      simp only [decide_eq_true_eq] at child current
      obtain ⟨origin, present, same, scope⟩ := ownsFact_iff.mp owned
      obtain rfl := KeyedList.eq_of_key ok.factIds present (List.mem_of_find?_eq_some found)
        (same.trans child.2.symm)
      rcases current.1 with unscoped | own
      · rw [unscoped] at scope
        cases scope
      · exact absurd (Option.some.inj (own.symm.trans scope)) other
    | false =>
      have seen : (tables.hide hidden).userFactVersions.find? (fun version =>
          version.workspaceId = tenant.workspaceId ∧ version.id = review.factVersionId) =
          some previous := by
        rw [← reviewed]
        refine KeyedList.find?_kept fun version listed wanted => ?_
        simp only [decide_eq_true_eq] at wanted
        rw [only listed wanted.2, owned]
        rfl
      have parents : ((tables.hide hidden).userFacts.find? fun fact =>
          fact.workspaceId = tenant.workspaceId ∧ fact.id = previous.factId) =
          tables.userFacts.find? fun fact =>
            fact.workspaceId = tenant.workspaceId ∧ fact.id = previous.factId := by
        refine KeyedList.find?_kept fun fact listed wanted => ?_
        simp only [decide_eq_true_eq] at wanted ⊢
        intro scope
        exact Bool.false_ne_true (owned.symm.trans (ownsFact_iff.mpr ⟨fact, listed, wanted.2, scope⟩))
      rw [seen]
      dsimp only
      rw [parents]
      rfl

end Bindings
end Reads

/-! ## Writes -/

section Writes
variable {tables : FactTables chars} {hidden : UUID}

theorem globalUserFacts_hide (ok : FactsOk tables.toFactDb) (tenant : TenantContext)
    (projectIds : List UUID) :
    (tables.hide hidden).globalUserFacts tenant projectIds =
      tables.globalUserFacts tenant projectIds := by
  have offered (version : ResumeUserFactVersion) :
      ((tables.hide hidden).userFacts.any fun fact => fact.workspaceId = tenant.workspaceId ∧
        fact.projectId ∈ projectIds ∧ fact.scopeSessionId = none ∧ fact.id = version.factId ∧
        fact.currentVersion = version.version) =
      tables.userFacts.any fun fact => fact.workspaceId = tenant.workspaceId ∧
        fact.projectId ∈ projectIds ∧ fact.scopeSessionId = none ∧ fact.id = version.factId ∧
        fact.currentVersion = version.version := by
    refine KeyedList.any_kept fun fact _ wanted => ?_
    simp only [decide_eq_true_eq] at wanted ⊢
    rw [wanted.2.2.1]
    exact nofun
  unfold FactTables.globalUserFacts
  simp only [offered]
  refine KeyedList.filter_kept fun version _ wanted => ?_
  simp only [decide_eq_true_eq, List.any_eq_true] at wanted
  obtain ⟨-, -, fact, stored, -, -, unscoped, child, -⟩ := wanted
  rw [← child, not_owned ok stored (by rw [unscoped]; exact nofun)]
  rfl

/-- New rows of another session are seen. -/
theorem filter_others {β : Type} (session : β → UUID) (rows : List β) {news : List β}
    (others : ∀ row ∈ news, session row ≠ hidden) :
    (rows ++ news).filter (fun row => session row ≠ hidden) =
      rows.filter (fun row => session row ≠ hidden) ++ news := by
  rw [List.filter_append]
  refine congrArg _ (List.filter_eq_self.mpr fun row member => ?_)
  exact decide_eq_true (others row member)

/-- New rows of the session itself are not. -/
theorem filter_own {β : Type} (session : β → UUID) (rows : List β) {news : List β}
    (own : ∀ row ∈ news, session row = hidden) :
    (rows ++ news).filter (fun row => session row ≠ hidden) =
      rows.filter fun row => session row ≠ hidden := by
  have none_seen : news.filter (fun row => session row ≠ hidden) = [] := by
    refine List.filter_eq_nil_iff.mpr fun row member => ?_
    simpa using own row member
  rw [List.filter_append, none_seen, List.append_nil]

/-- The material a new session binds is its own. -/
theorem createSession_session (tenant : TenantContext) (sessionId : UUID)
    (projects : List (UUID × Option UUID)) :
    ∀ row ∈ projects.flatMap (fun project => match project.2 with
        | none => []
        | some factSetId => (tables.confirmedMaterial tenant factSetId).map fun version =>
            (⟨tenant.workspaceId, sessionId, project.1, version.id⟩ : ResumeSessionFact)),
      row.sessionId = sessionId := by
  intro row member
  obtain ⟨project, -, listed⟩ := List.mem_flatMap.mp member
  cases held : project.2 with
  | none => simp [held] at listed
  | some factSetId =>
    rw [held] at listed
    obtain ⟨version, -, rfl⟩ := List.mem_map.mp listed
    rfl

theorem createSession_hide (ok : FactsOk tables.toFactDb) (tenant : TenantContext)
    {sessionId : UUID} (other : sessionId ≠ hidden) (projects : List (UUID × Option UUID)) :
    (tables.createSession tenant sessionId projects).hide hidden =
      (tables.hide hidden).createSession tenant sessionId projects := by
  refine FactTables.ext rfl rfl rfl ?_ ?_ rfl rfl rfl rfl rfl rfl
  · refine filter_others _ _ fun row member => ?_
    rw [createSession_session tenant sessionId projects row member]
    exact other
  · show _ = _ ++ ((tables.hide hidden).globalUserFacts tenant _).map _
    rw [globalUserFacts_hide ok]
    exact filter_others _ _ (List.forall_mem_map.mpr fun _ _ => other)

/-- The session itself. -/
theorem createSession_own (tenant : TenantContext) (projects : List (UUID × Option UUID)) :
    (tables.createSession tenant hidden projects).hide hidden =
      { tables.hide hidden with
        sessionProjects := tables.sessionProjects ++ projects.map fun project =>
          ⟨tenant.workspaceId, hidden, project.1⟩ } := by
  refine FactTables.ext rfl rfl rfl ?_ ?_ rfl rfl rfl rfl rfl rfl
  · exact filter_own _ _ (createSession_session tenant hidden projects)
  · exact filter_own _ _ (List.forall_mem_map.mpr fun _ _ => rfl)

/-! ### Facts of the user -/

theorem ownsFact_addUserFact (fact : ResumeUserFact) (version : ResumeUserFactVersion)
    (factId : UUID) :
    (tables.addUserFact fact version).ownsFact hidden factId =
      (tables.ownsFact hidden factId ||
        decide (fact.id = factId ∧ fact.scopeSessionId = some hidden)) := by
  simp [FactTables.ownsFact, FactTables.addUserFact]

section Added
variable {fact : ResumeUserFact} {version : ResumeUserFactVersion}
  (child : version.factId = fact.id) (fresh : fact.id ∉ tables.userFacts.map ResumeUserFact.id)
include child fresh

theorem addUserFact_hide (seen : fact.scopeSessionId ≠ some hidden) :
    (tables.addUserFact fact version).hide hidden =
      (tables.hide hidden).addUserFact fact version := by
  have owns (factId : UUID) : (tables.addUserFact fact version).ownsFact hidden factId =
      tables.ownsFact hidden factId := by
    simp [ownsFact_addUserFact, seen]
  have unowned : tables.ownsFact hidden version.factId = false := by
    rw [child, Bool.eq_false_iff]
    intro owned
    obtain ⟨origin, present, same, -⟩ := ownsFact_iff.mp owned
    exact fresh (same ▸ List.mem_map_of_mem present)
  refine FactTables.ext rfl ?_ ?_ rfl rfl rfl rfl rfl rfl rfl rfl
  · simp [FactTables.hide, FactTables.addUserFact, seen]
  · show (tables.userFactVersions ++ [version]).filter _ = _
    simp only [owns]
    simp [FactTables.hide, FactTables.addUserFact, unowned]

theorem addUserFact_own (ok : FactsOk tables.toFactDb)
    (own : fact.scopeSessionId = some hidden) :
    (tables.addUserFact fact version).hide hidden = tables.hide hidden := by
  refine FactTables.ext rfl ?_ ?_ rfl rfl rfl rfl rfl rfl rfl rfl
  · simp [FactTables.hide, FactTables.addUserFact, own]
  · show (tables.userFactVersions ++ [version]).filter _ = tables.userFactVersions.filter _
    have last : (tables.addUserFact fact version).ownsFact hidden version.factId = true := by
      simp [ownsFact_addUserFact, child, own]
    rw [List.filter_append, List.filter_singleton, last]
    simp only [Bool.not_true, cond_false, List.append_nil]
    refine List.filter_congr fun row member => ?_
    have older : fact.id ≠ row.factId := fun same => fresh (same ▸ ok.parent row member)
    simp [ownsFact_addUserFact, older]

end Added

section Reviewed
variable {fact : ResumeUserFact} {previous : ResumeUserFactVersion} {decision : ReviewDecision}
  {versionId : UUID}

theorem ownsFact_addReview (factId : UUID) :
    (tables.addReview fact previous decision versionId).ownsFact hidden factId =
      tables.ownsFact hidden factId := by
  simp only [FactTables.ownsFact, FactTables.addReview, List.any_map]
  refine congrArg (tables.userFacts.any ·) (funext fun row => ?_)
  simp only [Function.comp_apply]
  split <;> rfl

variable (hidden previous decision versionId) in
theorem addReview_hide (ok : FactsOk tables.toFactDb) (stored : fact ∈ tables.userFacts)
    (seen : fact.scopeSessionId ≠ some hidden) :
    (tables.addReview fact previous decision versionId).hide hidden =
      (tables.hide hidden).addReview fact previous decision versionId := by
  have kept (row : ResumeUserFact) :
      (if row.id = fact.id then FactTables.nextVersion row else row).scopeSessionId =
        row.scopeSessionId := by
    split <;> rfl
  refine FactTables.ext rfl ?_ ?_ rfl rfl rfl rfl rfl rfl rfl rfl
  · show (tables.userFacts.map _).filter _ = (tables.userFacts.filter _).map _
    rw [List.filter_map]
    refine congrArg (List.map _) (List.filter_congr fun row _ => ?_)
    simp only [Function.comp_apply, kept]
  · show (tables.userFactVersions ++ [_]).filter _ = _
    simp only [ownsFact_addReview]
    rw [List.filter_append, List.filter_singleton]
    simp [FactTables.hide, FactTables.addReview, FactTables.reviewedVersion,
      not_owned ok stored seen]

variable (hidden previous decision versionId) in
theorem addReview_own (ok : FactsOk tables.toFactDb) (stored : fact ∈ tables.userFacts)
    (own : fact.scopeSessionId = some hidden) :
    (tables.addReview fact previous decision versionId).hide hidden = tables.hide hidden := by
  refine FactTables.ext rfl ?_ ?_ rfl rfl rfl rfl rfl rfl rfl rfl
  · show (tables.userFacts.map _).filter _ = tables.userFacts.filter _
    rw [List.filter_map]
    have same : ∀ row ∈ tables.userFacts.filter (fun row => row.scopeSessionId ≠ some hidden),
        (if row.id = fact.id then FactTables.nextVersion row else row) = row := by
      intro row member
      obtain ⟨listed, seen⟩ := List.mem_filter.mp member
      refine if_neg fun clash => ?_
      obtain rfl := KeyedList.eq_of_key ok.factIds listed stored clash
      simp [own] at seen
    have filters : tables.userFacts.filter ((fun row => decide (row.scopeSessionId ≠ some hidden)) ∘
        fun row => if row.id = fact.id then FactTables.nextVersion row else row) =
        tables.userFacts.filter fun row => row.scopeSessionId ≠ some hidden := by
      refine List.filter_congr fun row _ => ?_
      simp only [Function.comp_apply]
      split <;> rfl
    rw [filters, List.map_congr_left same, List.map_id']
  · show (tables.userFactVersions ++ [_]).filter _ = tables.userFactVersions.filter _
    simp only [ownsFact_addReview]
    have hides : tables.ownsFact hidden fact.id = true := ownsFact_iff.mpr ⟨fact, stored, rfl, own⟩
    rw [List.filter_append, List.filter_singleton]
    simp [FactTables.reviewedVersion, hides]

end Reviewed

/-! ### Versions -/

theorem ownsVersion_addVersion (version : ResumeVersion) (bound : BoundFacts) (versionId : UUID) :
    (tables.addVersion version bound).ownsVersion hidden versionId =
      (tables.ownsVersion hidden versionId ||
        decide (version.id = versionId ∧ version.sessionId = hidden)) := by
  simp [FactTables.ownsVersion, FactTables.addVersion]

section Published
variable {version : ResumeVersion} (bound : BoundFacts)
  (fresh : version.id ∉ tables.versions.map ResumeVersion.id)
include fresh

theorem addVersion_hide (other : version.sessionId ≠ hidden) :
    (tables.addVersion version bound).hide hidden =
      (tables.hide hidden).addVersion version bound := by
  have owns (versionId : UUID) : (tables.addVersion version bound).ownsVersion hidden versionId =
      tables.ownsVersion hidden versionId := by
    simp [ownsVersion_addVersion, other]
  have unowned : tables.ownsVersion hidden version.id = false := by
    rw [Bool.eq_false_iff]
    intro owned
    obtain ⟨row, present, same⟩ := List.any_eq_true.mp owned
    simp only [decide_eq_true_eq] at same
    exact fresh (same.1 ▸ List.mem_map_of_mem present)
  refine FactTables.ext rfl rfl rfl rfl rfl rfl ?_ ?_ rfl rfl rfl
  · exact filter_others _ _ (by simpa using other)
  · show (tables.versionFacts ++ _ ++ _).filter _ = _
    simp only [owns]
    simp [FactTables.hide, FactTables.addVersion, List.filter_map, Function.comp_def, unowned]

theorem addVersion_own (ok : FactsOk tables.toFactDb) (own : version.sessionId = hidden) :
    (tables.addVersion version bound).hide hidden = tables.hide hidden := by
  have last : (tables.addVersion version bound).ownsVersion hidden version.id = true := by
    simp [ownsVersion_addVersion, own]
  refine FactTables.ext rfl rfl rfl rfl rfl rfl ?_ ?_ rfl rfl rfl
  · exact filter_own _ _ (by simpa using own)
  · show (tables.versionFacts ++ _ ++ _).filter _ = tables.versionFacts.filter _
    simp only [List.filter_append, List.filter_map, Function.comp_def, last, Bool.not_true,
      List.filter_false, List.map_nil, List.append_nil]
    refine List.filter_congr fun row member => ?_
    have older : version.id ≠ row.versionId := fun same => fresh (same ▸ ok.citingStored row member)
    simp [ownsVersion_addVersion, older]

end Published
end Writes
end Pathfinder
