import Pathfinder.Guarantees.FactLineage
import Pathfinder.Material.NumberTokens

/-!
# Numbers of confirmed facts

A confirmed fact is checked for numbers its quotes do not contain as texts, so a part of a longer
number counts. Its numbers are numbers of its quotes exactly where none passes the check by longer
numbers only.
-/
namespace Pathfinder
open KeyedTable Machines

variable {chars : CharacterTables}

/-- The quote stands in the lines of the snapshot file that the evidence names. -/
def QuotedIn (allowedFiles : UUID → Option ByteArray) (item : FactEvidenceV1) : Prop :=
  ∃ content text, allowedFiles item.snapshotFileId = some content ∧
    decodeUtf8 content = some text ∧ item.startLine ≤ item.endLine ∧
    item.endLine ≤ (splitlines text).length ∧
    item.quote <:+: joinedLines (splitlines text) item.startLine item.endLine

theorem checkEvidence_ok {allowedFiles : UUID → Option ByteArray} {item : FactEvidenceV1}
    (passed : checkEvidence allowedFiles item = .ok ()) : QuotedIn allowedFiles item := by
  unfold checkEvidence at passed
  split at passed
  · cases passed
  next content allowed =>
  split at passed
  · cases passed
  next ordered =>
  split at passed
  · cases passed
  next text decoded =>
  split at passed
  · cases passed
  next inside =>
  split at passed
  · cases passed
  next quoted =>
    exact ⟨content, text, allowed, decoded, by omega, by omega, not_not.mp quoted⟩

/-- Every quote is verbatim, and every number of the claim is a number of some quote. -/
structure NumbersGrounded (chars : CharacterTables) (allowedFiles : UUID → Option ByteArray)
    (candidate : CandidateFactV1) : Prop where
  quoted : ∀ item ∈ candidate.evidence, QuotedIn allowedFiles item
  numbers : ∀ number ∈ digitTokens chars candidate.claim,
    ∃ item ∈ candidate.evidence, number ∈ digitTokens chars item.quote

/-- A longer number of the quotes contains the number, which is no number of a quote itself. -/
def WithinLonger (chars : CharacterTables) (candidate : CandidateFactV1) (number : Text) : Prop :=
  (∃ item ∈ candidate.evidence, ∃ longer ∈ digitTokens chars item.quote,
    number <:+: longer ∧ number ≠ longer) ∧
  ∀ item ∈ candidate.evidence, number ∉ digitTokens chars item.quote

/-- Where `candidate_issues` does not miss a number, a longer one at most contains it. -/
theorem number_found (space : chars.isDecimal ' ' = false) {candidate : CandidateFactV1}
    (passed : "metric_not_in_evidence" ∉ candidateIssues chars candidate) {number : Text}
    (member : number ∈ digitTokens chars candidate.claim) :
    ∃ item ∈ candidate.evidence, ∃ longer ∈ digitTokens chars item.quote, number <:+: longer := by
  obtain ⟨shown, free⟩ := digitTokens_unspaced space member
  have contained : number <:+: [' '].intercalate (candidate.evidence.map FactEvidenceV1.quote) := by
    by_contra missing
    refine passed ?_
    have some_ : ∃ number ∈ digitTokens chars candidate.claim, ¬number <:+:
        [' '].intercalate (candidate.evidence.map FactEvidenceV1.quote) := ⟨number, member, missing⟩
    simpa [candidateIssues] using some_
  obtain ⟨quote, listed, stands⟩ := (Lines.infix_join_iff free shown).mp contained
  obtain ⟨item, inside, rfl⟩ := List.mem_map.mp listed
  exact ⟨item, inside, digitTokens_within member stands⟩

/-- A confirmed version misses no number of its claim: no attestation waives that. -/
theorem FactRows.Sound.numbers_passed {allowedFiles : UUID → Option ByteArray} {rows : FactRows}
    (sound : rows.Sound chars allowedFiles) {row : FactVersionRow} (member : row ∈ rows.versions)
    (confirmed : row.reviewStatus = .confirmed) :
    "metric_not_in_evidence" ∉ candidateIssues chars row.candidate := by
  intro missing
  have version := sound.versions row member
  rcases version.recorded _ missing with open_ | ⟨waivable, -⟩
  · rw [version.settled confirmed] at open_
    cases open_
  · exact absurd waivable (by decide)

/-- After any interleaving of extractions and commands, a confirmed version is grounded exactly
where no number of its claim has passed by longer numbers only. -/
theorem confirmed_numbers_iff (space : chars.isDecimal ' ' = false) (ops : List ProjectFactOp) :
    let world := (projectFacts chars).reached ops
    ∀ factId rows, world.tables.facts.get factId = some rows →
      ∃ set_, world.tables.factSets.get rows.factSetId = some set_ ∧
        set_.workspaceId = rows.workspaceId ∧
        ∀ row ∈ rows.versions, row.reviewStatus = .confirmed →
          (NumbersGrounded chars (filesForImport world.tables set_.workspaceId set_.importId)
            row.candidate ↔
            ∀ number ∈ digitTokens chars row.candidate.claim,
              ¬ WithinLonger chars row.candidate number) := by
  intro world factId rows stored
  have sound : world.Sound chars := projectFacts_sound space ops
  obtain ⟨set_, found, same, holds⟩ := sound.facts factId rows stored
  refine ⟨set_, found, same, fun row member confirmed => ⟨fun grounded number claimed within => ?_,
    fun alone => ⟨fun item listed => ?_, fun number claimed => ?_⟩⟩⟩
  · obtain ⟨item, listed, here⟩ := grounded.numbers number claimed
    exact within.2 item listed here
  · exact checkEvidence_ok ((holds.versions row member).quoted item listed)
  · obtain ⟨item, listed, longer, found, inside⟩ :=
      number_found space (holds.numbers_passed member confirmed) claimed
    by_contra nowhere
    have elsewhere : ∀ other ∈ row.candidate.evidence, number ∉ digitTokens chars other.quote :=
      fun other inside here => nowhere ⟨other, inside, here⟩
    refine alone number claimed ⟨⟨item, listed, longer, found, inside, ?_⟩, elsewhere⟩
    rintro rfl
    exact elsewhere item listed found

namespace Sample

/-- A claim with this number, which cites the first line of a file. -/
def servesClaim (claim quote : Text) (claim_bounds : 1 ≤ claim.length ∧ claim.length ≤ 2000)
    (bounded : 1 ≤ quote.length ∧ quote.length ≤ 4000) : CandidateFactV1 where
  claim := claim
  kind := .implementation
  conditions := ⟨none, none, some "load test".toList⟩
  evidence := [⟨90, 1, 1, quote, by decide, bounded⟩]
  claim_bounds := claim_bounds
  conditions_bounds := by simp [FactConditions.short]
  evidence_bound := Nat.succ_le_succ (Nat.zero_le 7)

def fifteenUsers : Text := "Serves 15 users".toList

def fifteenFile : ByteArray := "Serves 15 users".toByteArray

theorem unasked : ([] : List Text).length ≤ 32 := by decide

/-- A fact about a file of one line is extracted as fact 65 and confirmed. -/
def confirmedRun (candidate : CandidateFactV1) : List ProjectFactOp :=
  [.others memberships [⟨61, 1, 10⟩] [⟨80, 1, 61, 70, some "digest", 0⟩]
      (Table.empty.put 70 importRun),
    .persistSnapshot ⟨81, 1, 80, 82, [(90, fifteenFile)]⟩,
    .publish member 61 80 "extractor" ⟨[candidate], [], unasked⟩ true 63 0
      fun _ => (65, ⟨67, fun _ => 0⟩),
    .begin_ (factReview 1 "confirm" false), .finish 301]

def fiveUsers : CandidateFactV1 :=
  servesClaim "Serves 5 users".toList fifteenUsers (by decide) (by decide)

def fifteenClaim : CandidateFactV1 :=
  servesClaim fifteenUsers fifteenUsers (by decide) (by decide)

end Sample

/-- The fifteen of the sample's claim is a number of its quote. -/
theorem fifteenClaim_grounded :
    ∃ (rows : FactRows) (set_ : FactSetRow), ((projectFacts asciiTables).reached
        (Sample.confirmedRun Sample.fifteenClaim)).tables.facts.get 65 = some rows ∧
      rows.currentVersion = 2 ∧
      ∃ row ∈ rows.versions, row.reviewStatus = .confirmed ∧
        digitTokens asciiTables row.candidate.claim = ["15".toList] ∧
        NumbersGrounded asciiTables (filesForImport ((projectFacts asciiTables).reached
          (Sample.confirmedRun Sample.fifteenClaim)).tables set_.workspaceId set_.importId)
            row.candidate := by
  have present : (((projectFacts asciiTables).reached
      (Sample.confirmedRun Sample.fifteenClaim)).tables.facts.get 65).any (fun rows =>
        rows.currentVersion == 2 && rows.versions.any fun row =>
          row.reviewStatus == .confirmed &&
          digitTokens asciiTables row.candidate.claim == ["15".toList] &&
          row.candidate.evidence.any fun item =>
            (digitTokens asciiTables item.quote).contains "15".toList) = true := by
    decide +kernel
  obtain ⟨rows, stored, shown⟩ := (Option.any_eq_true _ _).mp present
  obtain ⟨two, some_⟩ := Bool.and_eq_true_iff.mp shown
  obtain ⟨row, member, shows⟩ := List.any_eq_true.mp some_
  simp only [Bool.and_eq_true, beq_iff_eq, List.any_eq_true, List.contains_iff_mem] at shows
  obtain ⟨⟨confirmed, claimed⟩, item, listed, found⟩ := shows
  obtain ⟨set_, -, -, versions⟩ := confirmed_numbers_iff (by decide)
    (Sample.confirmedRun Sample.fifteenClaim) 65 rows stored
  refine ⟨rows, set_, stored, by simpa using two, row, member, confirmed, claimed,
    (versions row member confirmed).mpr ?_⟩
  rw [claimed]
  rintro number (_ | ⟨_, ⟨⟩⟩) ⟨-, elsewhere⟩
  exact elsewhere item listed found

/-- The five of a claim is confirmed by the fifteen of its quote. -/
theorem fiveUsers_confirmed :
    ¬ ∀ (chars : CharacterTables) (_ : chars.isDecimal ' ' = false) (ops : List ProjectFactOp)
      (factId : UUID) (rows : FactRows) (set_ : FactSetRow),
      ((projectFacts chars).reached ops).tables.facts.get factId = some rows →
      ((projectFacts chars).reached ops).tables.factSets.get rows.factSetId = some set_ →
      ∀ row ∈ rows.versions, row.reviewStatus = .confirmed →
        candidateIssues chars row.candidate = [] →
        ¬ AttestedAt ((projectFacts chars).reached ops).accepted factId row.version →
        NumbersGrounded chars (filesForImport ((projectFacts chars).reached ops).tables
          set_.workspaceId set_.importId) row.candidate := by
  intro all
  have present : (((projectFacts asciiTables).reached
      (Sample.confirmedRun Sample.fiveUsers)).tables.facts.get 65).any (fun rows =>
        rows.versions.any fun row => row.reviewStatus = .confirmed &&
          candidateIssues asciiTables row.candidate = [] &&
          (digitTokens asciiTables row.candidate.claim).any fun number =>
            row.candidate.evidence.all fun item =>
              !(digitTokens asciiTables item.quote).contains number) = true := by
    decide +kernel
  have unattested : ∀ command ∈ ((projectFacts asciiTables).reached
      (Sample.confirmedRun Sample.fiveUsers)).accepted,
        command.request.payload.attested = false := by
    decide +kernel
  obtain ⟨rows, stored, shown⟩ := (Option.any_eq_true _ _).mp present
  obtain ⟨row, member, lacks⟩ := List.any_eq_true.mp shown
  simp only [Bool.and_eq_true, decide_eq_true_eq, List.any_eq_true, List.all_eq_true,
    Bool.not_eq_true', Bool.eq_false_iff, ne_eq, List.contains_iff_mem] at lacks
  obtain ⟨⟨confirmed, unasked⟩, number, claimed, absent⟩ := lacks
  obtain ⟨set_, found, -⟩ := (projectFacts_sound (by decide)
    (Sample.confirmedRun Sample.fiveUsers)).facts 65 rows stored
  have unsworn : ¬ AttestedAt ((projectFacts asciiTables).reached
      (Sample.confirmedRun Sample.fiveUsers)).accepted 65 row.version := by
    rintro ⟨command, accepted, -, -, attested, -⟩
    exact Bool.false_ne_true ((unattested command accepted).symm.trans attested)
  have grounded := all asciiTables (by decide) (Sample.confirmedRun Sample.fiveUsers) 65
    rows set_ stored found row member confirmed unasked unsworn
  obtain ⟨item, listed, number_of⟩ := grounded.numbers number claimed
  exact absent item listed number_of

end Pathfinder
