import Pathfinder.Resume.Attribution
import Pathfinder.Resume.Recorded

/-!
# The reported facts are the cited ones, but for orphans

`_actual_fact_uses` drops what is gone before it replays the patches of a
version, not after. A bullet that the last patch list first replaces and then
takes out with its project leaves its citation behind.
-/
namespace Pathfinder
open LastWriter

section
variable {chars : CharacterTables} {uuid5 : UUID → Text → UUID} {db : FactDb chars}
  {tenant : TenantContext} {facts : UUID → Option FactClaim} {row : ResumeVersion}
  {lineage : SessionLineage chars}

/-- The reported facts are the attributed ones. -/
theorem SessionLineage.Recorded.mem_uses (recorded : lineage.Recorded db tenant row.sessionId row)
    (accepted : lineage.Accepted uuid5 row.sessionId facts) {uses : List UUID}
    (ran : actualFactUses uuid5 db tenant row = .ok uses) (fact : UUID) :
    fact ∈ uses ↔ lineage.Attributes fact := by
  obtain ⟨read, replayed, rfl⟩ := map_ok ran
  exact (recorded.attributedUses_holds accepted replayed).mem_union fact

/-- The reported facts are exactly the cited ones if every fact cited by an
orphan of the last patch list is also cited by a field that is there. -/
theorem reported_exact_iff (recorded : lineage.Recorded db tenant row.sessionId row)
    (accepted : lineage.Accepted uuid5 row.sessionId facts) {uses : List UUID}
    (ran : actualFactUses uuid5 db tenant row = .ok uses) :
    (∀ fact, fact ∈ uses ↔ lineage.Cites fact) ↔
      ∀ key cited, lineage.Orphaned key cited → ∀ fact ∈ cited, lineage.Cites fact := by
  have reported : ∀ fact, fact ∈ uses ↔
      lineage.Cites fact ∨ ∃ key cited, lineage.Orphaned key cited ∧ fact ∈ cited := by
    intro fact
    rw [recorded.mem_uses accepted ran, accepted.attributes_iff]
  constructor
  · intro same key cited orphaned fact member
    exact (same fact).mp ((reported fact).mpr (.inr ⟨key, cited, orphaned, member⟩))
  · intro covered fact
    rw [reported fact]
    constructor
    · rintro (cites | ⟨key, cited, orphaned, member⟩)
      · exact cites
      · exact covered key cited orphaned fact member
    · exact .inl

end

/-! ## A session with an orphan -/

/-- `uuid5` on the names the sample session uses. -/
def sampleUuid5 (_ : UUID) (name : Text) : UUID :=
  if name = uuidText 11 then 0x41ebf1fa1c4d597e828f3878bd035113
  else if name = uuidText 12 then 0xd74d44ca65ee5e0c859a1077efd56431
  else if name = uuidText 13 then 0x3b2ac8f12b075b6bb9d408d690b4ce8b
  else 0

def plainText (text : String) : StyledText := ⟨text.toList, []⟩

/-- A reviewed project that shows one fact. -/
def sampleProject (id fact : UUID) (claim : String) : ProjectEntry :=
  ⟨id, plainText "Search", plainText "2024", [], plainText claim,
    [⟨sampleUuid5 7 (uuidText fact), plainText claim⟩], ⟨1, 1, 1, 9⟩, .reviewed⟩

def sampleResume (projects : List ProjectEntry) : ResumeContent :=
  ⟨1, "Ada".toList, .reviewed, [], [], projects, []⟩

def samplePreferences : ResumePreferencesV1 asciiTables :=
  ⟨⟨[], [], [], none, [.education, .projects, .skills], [], .one, []⟩, by decide⟩

def sampleFacts (id : UUID) : Option FactClaim :=
  if id = 11 then some ⟨"Cut latency by 40%".toList, .implementation⟩
  else if id = 12 then some ⟨"Built the index".toList, .implementation⟩
  else if id = 13 then some ⟨"Served 9 teams".toList, .implementation⟩
  else none

def sampleTenant : TenantContext := ⟨3, 4, .member⟩

def sampleGenerated : ResumeContentV1 :=
  ⟨sampleResume [sampleProject 20 11 "Cut latency by 40%", sampleProject 30 12 "Built the index"],
    by decide⟩

def sampleCited (bullet : UUID) : UUID :=
  if bullet = sampleUuid5 7 (uuidText 11) then 11 else 12

/-- The generated version of the sample session. -/
def sampleBase : SessionLineage asciiTables := .generated sampleGenerated [11, 12, 13] sampleCited

theorem sampleBase_accepted : sampleBase.Accepted sampleUuid5 7 sampleFacts := by
  refine .generated (by decide) ?_ ?_
  · decide
  · decide

theorem served_valid : (PatchOperation.replaceText .bullet "Served 9 teams".toList [13]).valid
    asciiTables = true := by decide

/-- Replace the bullet of the second project, then take the project out. -/
def orphaningPatches : List (PatchV1 asciiTables) :=
  [⟨sampleUuid5 7 (uuidText 12), .replaceText .bullet "Served 9 teams".toList [13], served_valid⟩,
    ⟨30, .remove, PatchOperation.remove_valid asciiTables⟩]

def sampleShortened : ResumeContentV1 :=
  ⟨sampleResume [sampleProject 20 11 "Cut latency by 40%"], by decide⟩

def orphanedSession : SessionLineage asciiTables :=
  .revised sampleBase orphaningPatches sampleShortened [11, 12, 13]

theorem orphanedSession_accepted : orphanedSession.Accepted sampleUuid5 7 sampleFacts :=
  have applied : applyScopedPatches sampleGenerated orphaningPatches
      [sampleUuid5 7 (uuidText 12), 30] samplePreferences [11, 12, 13]
      (fun id => if id ∈ [11, 12, 13] then sampleFacts id else none) =
      .ok (sampleShortened, _) := rfl
  .revised sampleBase_accepted applied

def sampleFirstVersion : ResumeVersion :=
  ⟨101, 3, 7, 1, 201, none, none, sampleGenerated, []⟩

def sampleSecondVersion (content : ResumeContentV1) : ResumeVersion :=
  ⟨102, 3, 7, 2, 202, some 101, some 301, content, []⟩

def sampleVersionFacts (version : UUID) (facts : List UUID) : List ResumeVersionFact :=
  facts.map fun fact => ⟨3, version, fact, false⟩

def orphanedDb : FactDb asciiTables where
  materialFactVersions := []
  userFacts := []
  userFactVersions := []
  sessionFacts := []
  sessionUserFacts := []
  sessionProjects := []
  versions := [sampleFirstVersion, sampleSecondVersion sampleShortened]
  versionFacts := sampleVersionFacts 101 [11, 12, 13] ++ sampleVersionFacts 102 [11, 12, 13]
  feedback := [⟨301, 3, 7, some orphaningPatches⟩]

theorem sampleBase_recorded :
    sampleBase.Recorded orphanedDb sampleTenant 7 sampleFirstVersion := .generated rfl rfl

theorem orphanedSession_recorded : orphanedSession.Recorded orphanedDb sampleTenant 7
    (sampleSecondVersion sampleShortened) :=
  .revised sampleBase_recorded rfl rfl rfl rfl

theorem orphanedSession_uses : actualFactUses sampleUuid5 orphanedDb sampleTenant
    (sampleSecondVersion sampleShortened) = .ok [11, 11, 13] := rfl

/-- The generated version has no orphan, so its report is exact. -/
theorem sampleBase_reported_exact :
    actualFactUses sampleUuid5 orphanedDb sampleTenant sampleFirstVersion =
      .ok [11, 11, 12, 12] ∧ ∀ fact, fact ∈ [11, 11, 12, 12] ↔ sampleBase.Cites fact := by
  have ran : actualFactUses sampleUuid5 orphanedDb sampleTenant sampleFirstVersion =
    .ok [11, 11, 12, 12] := rfl
  refine ⟨ran, (reported_exact_iff sampleBase_recorded sampleBase_accepted ran).mpr ?_⟩
  rintro key cited ⟨-, before, patch, later, split, -⟩
  simp [sampleBase, SessionLineage.lastPatches] at split

/-- The reported fact 13 is cited nowhere in the current content. -/
theorem reported_not_exact : ¬ ∀ (uuid5 : UUID → Text → UUID) (db : FactDb asciiTables)
    (tenant : TenantContext) (facts : UUID → Option FactClaim) (row : ResumeVersion)
    (lineage : SessionLineage asciiTables), lineage.Recorded db tenant row.sessionId row →
    lineage.Accepted uuid5 row.sessionId facts →
    ∀ uses, actualFactUses uuid5 db tenant row = .ok uses →
      ∀ fact, fact ∈ uses ↔ lineage.Cites fact := by
  intro exact
  have cites := (exact sampleUuid5 orphanedDb sampleTenant sampleFacts
    (sampleSecondVersion sampleShortened) orphanedSession orphanedSession_recorded
    orphanedSession_accepted _ orphanedSession_uses 13).mp (by decide)
  obtain ⟨item, present, field, value, cited, stored, written, member⟩ := cites
  have ids : item.id = 20 ∨ item.id = sampleUuid5 7 (uuidText 11) := by
    have listed : item.id ∈ sampleShortened.data.items.map Item.id := List.mem_map_of_mem present
    have all : sampleShortened.data.items.map Item.id = [20, sampleUuid5 7 (uuidText 11)] := rfl
    simpa [all] using listed
  have only : orphanedSession.lastCitation (item.id, field) = none ∨
      orphanedSession.lastCitation (item.id, field) = some [11] := by
    rcases ids with id | id <;> rw [id] <;> cases field <;> decide
  rcases only with unwritten | written'
  · simp [unwritten] at written
  · cases written'.symm.trans written
    simp at member

end Pathfinder
