import Pathfinder.Db.ProjectFacts

/-!
# What is written of project facts

The effects of the writers of `db/project_facts.py` and the invariant of a fact's versions
they keep.
-/
namespace Pathfinder
open KeyedTable

variable {chars : CharacterTables} {allowedFiles wider : UUID → Option ByteArray}

/-! ## Evidence -/

/-- Every file stays what it was. -/
def FilesKept (before after : UUID → Option ByteArray) : Prop :=
  ∀ fileId content, before fileId = some content → after fileId = some content

theorem checkEvidence_kept (kept : FilesKept allowedFiles wider) {evidence : FactEvidenceV1}
    (passed : checkEvidence allowedFiles evidence = .ok ()) :
    checkEvidence wider evidence = .ok () := by
  cases found : allowedFiles evidence.snapshotFileId with
  | none => simp [checkEvidence, found] at passed
  | some content =>
    rw [← passed]
    simp only [checkEvidence, found, kept _ content found]

theorem checkCandidates_ok {evidence : List FactEvidenceV1}
    (passed : checkCandidates allowedFiles evidence = .ok ()) :
    ∀ item ∈ evidence, checkEvidence allowedFiles item = .ok () := by
  induction evidence with
  | nil => simp
  | cons first rest ih =>
    unfold checkCandidates at passed
    split at passed
    · cases passed
    next accepted =>
      rintro item (_ | ⟨_, later⟩)
      · exact accepted
      · exact ih passed item later

theorem checkCandidate_ok {candidate : CandidateFactV1}
    (passed : checkCandidate candidate allowedFiles = .ok ()) :
    ∀ item ∈ candidate.evidence, checkEvidence allowedFiles item = .ok () := by
  unfold checkCandidate at passed
  split at passed
  · cases passed
  next accepted => exact checkCandidates_ok accepted

/-- Storing evidence changes at most its order. -/
theorem stored_same (candidate : CandidateFactV1) (ids : Nat → UUID) :
    SameFact (candidate.stored ids) candidate where
  claim := rfl
  kind := rfl
  conditions := rfl
  evidence := by
    have sorted := (List.mergeSort_perm
      (candidate.evidence.zipIdx.map fun entry => (ids entry.2, entry.1))
      fun first second => decide (first.1 ≤ second.1)).map Prod.snd
    have kept : (candidate.evidence.zipIdx.map fun entry => (ids entry.2, entry.1)).map Prod.snd =
        candidate.evidence := by
      rw [List.map_map]
      exact List.zipIdx_map_fst 0 candidate.evidence
    rw [kept] at sorted
    exact sorted

theorem stored_places (candidate : CandidateFactV1) (ids : Nat → UUID) :
    ((candidate.stored ids).evidence.map FactEvidenceV1.place).Nodup ↔
      (candidate.evidence.map FactEvidenceV1.place).Nodup :=
  ((stored_same candidate ids).evidence.map _).nodup_iff

/-! ## The versions of a fact -/

/-- What holds of a version: its evidence passes, at places of its own; it records the questions
about its claim, but for those that an attestation can waive; none is left when it is confirmed. -/
structure VersionSound (chars : CharacterTables) (allowedFiles : UUID → Option ByteArray)
    (row : FactVersionRow) : Prop where
  quoted : ∀ item ∈ row.candidate.evidence, checkEvidence allowedFiles item = .ok ()
  placed : (row.candidate.evidence.map FactEvidenceV1.place).Nodup
  recorded : ∀ issue ∈ candidateIssues chars row.candidate, issue ∈ row.issues ∨
    issue ∈ waivableIssues ∧ row.candidate.kind = .personalStatement
  settled : row.reviewStatus = .confirmed → row.issues = []

/-- What holds of a fact and its versions. -/
structure FactRows.Sound (chars : CharacterTables) (allowedFiles : UUID → Option ByteArray)
    (rows : FactRows) : Prop where
  numbered : rows.versions.map FactVersionRow.version = List.range' 1 rows.currentVersion
  positive : 1 ≤ rows.currentVersion
  versions : ∀ row ∈ rows.versions, VersionSound chars allowedFiles row

theorem VersionSound.mono {row : FactVersionRow} (kept : FilesKept allowedFiles wider)
    (sound : VersionSound chars allowedFiles row) : VersionSound chars wider row where
  quoted item member := checkEvidence_kept kept (sound.quoted item member)
  placed := sound.placed
  recorded := sound.recorded
  settled := sound.settled

namespace FactRows.Sound
variable {rows : FactRows} (sound : rows.Sound chars allowedFiles)
include sound

theorem mono (kept : FilesKept allowedFiles wider) : rows.Sound chars wider where
  numbered := sound.numbered
  positive := sound.positive
  versions row member := (sound.versions row member).mono kept

theorem version_le {row : FactVersionRow} (member : row ∈ rows.versions) :
    1 ≤ row.version ∧ row.version ≤ rows.currentVersion := by
  have numbered := List.mem_map_of_mem (f := FactVersionRow.version) member
  rw [sound.numbered, List.mem_range'_1] at numbered
  omega

end FactRows.Sound

/-! ## Adding a version -/

/-- The version that `_add_version` stores. -/
def storedVersion (ids : VersionIds) (version : Nat) (candidate : CandidateFactV1)
    (status : ReviewStatus) (issues : List String) (actor : Option UUID) : FactVersionRow :=
  { id := ids.version, version := version, candidate := candidate.stored ids.evidence
    reviewStatus := status, issues := issues, createdByUserId := actor }

/-- What `_add_version` needs, and what it leaves. -/
theorem addVersion_iff {rows after : FactRows} {ids : VersionIds} {version : Nat}
    {candidate : CandidateFactV1} {status : ReviewStatus} {issues : List String}
    {actor : Option UUID} :
    addVersion rows ids version candidate status issues actor = .ok after ↔
      (∀ row ∈ rows.versions, row.version ≠ version) ∧
      (candidate.evidence.map FactEvidenceV1.place).Nodup ∧
      after = { rows with
        versions := rows.versions ++
          [storedVersion ids version candidate status issues actor] } := by
  unfold addVersion
  split
  next used =>
    obtain ⟨row, member, same⟩ := List.any_eq_true.mp used
    refine ⟨fun added => (by cases added), fun made => ?_⟩
    exact absurd (by simpa using same) (made.1 row member)
  next unused =>
    have fresh : ∀ row ∈ rows.versions, row.version ≠ version := by simpa using unused
    split
    next repeated => exact ⟨fun added => (by cases added), fun made => absurd made.2.1 repeated⟩
    next placed =>
      refine ⟨fun added => ?_, fun made => ?_⟩
      · cases added
        exact ⟨fresh, not_not.mp placed, rfl⟩
      · rw [made.2.2]
        rfl

/-- The first version of a fact. -/
theorem firstVersion_sound (space : chars.isDecimal ' ' = false) {rows after : FactRows}
    {ids : VersionIds} {candidate : CandidateFactV1} {actor : Option UUID}
    (fresh : rows.versions = []) (one : rows.currentVersion = 1)
    (quoted : ∀ item ∈ candidate.evidence, checkEvidence allowedFiles item = .ok ())
    (added : addVersion rows ids 1 candidate .pending (candidateIssues chars candidate) actor =
      .ok after) : after.Sound chars allowedFiles := by
  obtain ⟨-, placed, rfl⟩ := addVersion_iff.mp added
  have same := stored_same candidate ids.evidence
  refine ⟨?_, ?_, ?_⟩
  · simp [storedVersion, fresh, one]
  · simp [one]
  · intro row member
    simp only [fresh, List.nil_append, List.mem_singleton] at member
    subst member
    refine ⟨fun item inside => quoted item (same.evidence.mem_iff.mp inside),
      (stored_places _ _).mpr placed, ?_, by simp [storedVersion]⟩
    intro issue asked
    rw [storedVersion, candidateIssues_same space same] at asked
    exact .inl asked

/-- What `nextVersion` has made of the version before it. -/
theorem nextVersion_ok {kind : String} {payload : FactCommand} {previous : FactVersionRow}
    {candidate : CandidateFactV1} {status : ReviewStatus} {issues : List String}
    (made : nextVersion chars kind payload allowedFiles previous = .ok (candidate, status, issues)) :
    (status = .pending ∧ issues = candidateIssues chars candidate ∧
      ∀ item ∈ candidate.evidence, checkEvidence allowedFiles item = .ok ()) ∨
    (kind ≠ "material_fact_revise" ∧ payload.decision = some "confirm" ∧
      candidate = previous.candidate ∧ status = .confirmed ∧ issues = [] ∧
      (previous.issues = [] ∨ payload.attested = true ∧
        previous.candidate.kind = .personalStatement ∧
          ∀ issue ∈ previous.issues, issue ∈ waivableIssues)) ∨
    (candidate = previous.candidate ∧ status = .rejected ∧ issues = previous.issues) := by
  unfold nextVersion at made
  split at made
  · split at made
    · cases made
    next offered =>
      obtain ⟨_, passed, same⟩ := map_ok made
      cases same
      exact .inl ⟨rfl, rfl, checkCandidate_ok passed⟩
  next other =>
    split at made
    next decided =>
      split at made
      · cases made
      next none_left =>
        cases made
        have empty : issuesUnderReview payload previous = [] := not_not.mp none_left
        refine .inr (.inl ⟨other, decided, rfl, rfl, empty, ?_⟩)
        unfold issuesUnderReview at empty
        split at empty
        next waived =>
          refine .inr ⟨waived.1, waived.2, fun issue member => ?_⟩
          simpa using List.filter_eq_nil_iff.mp empty issue member
        next => exact .inl empty
    · cases made
      exact .inr (.inr ⟨rfl, rfl, rfl⟩)

/-- A revision or review keeps what holds of the fact. -/
theorem nextVersion_sound (space : chars.isDecimal ' ' = false) {rows after : FactRows}
    (sound : rows.Sound chars allowedFiles) {kind : String} {payload : FactCommand}
    {previous : FactVersionRow} (listed : previous ∈ rows.versions)
    {candidate : CandidateFactV1} {status : ReviewStatus} {issues : List String}
    (made : nextVersion chars kind payload allowedFiles previous = .ok (candidate, status, issues))
    {ids : VersionIds} {actor : Option UUID}
    (added : addVersion { rows with currentVersion := rows.currentVersion + 1 } ids
      (rows.currentVersion + 1) candidate status issues actor = .ok after) :
    after.Sound chars allowedFiles := by
  obtain ⟨-, placed, rfl⟩ := addVersion_iff.mp added
  have same := stored_same candidate ids.evidence
  refine ⟨?_, Nat.succ_pos _, ?_⟩
  · simp [storedVersion, sound.numbered, List.range'_concat, Nat.add_comm]
  · intro row member
    rcases List.mem_append.mp member with old | new
    · exact sound.versions row old
    · obtain rfl := List.mem_singleton.mp new
      have before := sound.versions previous listed
      have placed := (stored_places candidate ids.evidence).mpr placed
      rcases nextVersion_ok made with ⟨rfl, rfl, quoted⟩ | ⟨-, -, rfl, rfl, rfl, cleared⟩ |
        ⟨rfl, rfl, rfl⟩
      · refine ⟨fun item inside => quoted item (same.evidence.mem_iff.mp inside), placed, ?_,
          by simp [storedVersion]⟩
        intro issue asked
        rw [storedVersion, candidateIssues_same space same] at asked
        exact .inl asked
      · refine ⟨fun item inside => before.quoted item (same.evidence.mem_iff.mp inside), placed, ?_,
          fun _ => rfl⟩
        intro issue asked
        rw [storedVersion, candidateIssues_same space same] at asked
        rcases before.recorded issue asked with open_ | waived
        · rcases cleared with none_left | ⟨-, personal, waivable⟩
          · rw [none_left] at open_
            cases open_
          · exact .inr ⟨waivable issue open_, personal⟩
        · exact .inr waived
      · refine ⟨fun item inside => before.quoted item (same.evidence.mem_iff.mp inside), placed, ?_,
          by simp [storedVersion]⟩
        intro issue asked
        rw [storedVersion, candidateIssues_same space same] at asked
        exact before.recorded issue asked

end Pathfinder
