import Mathlib.Data.List.Infix
import Pathfinder.Domain.PythonText
import Pathfinder.Domain.ResumeRevision
import Pathfinder.Library.Lines

/-!
# Evidence of project facts

`check_evidence` of `domain/project_facts.py`.
-/
namespace Pathfinder

structure FactEvidenceV1 where
  snapshotFileId : UUID
  startLine : Nat
  endLine : Nat
  quote : Text
  placed : 1 ≤ startLine ∧ 1 ≤ endLine
  bounded : 1 ≤ quote.length ∧ quote.length ≤ 4000
  deriving DecidableEq

/-- `FactEvidenceError`. -/
structure FactEvidenceError where
  message : String
  deriving DecidableEq, Repr

/-- `"\n".join(lines[start_line - 1 : end_line])`. -/
def joinedLines (lines : List Text) (startLine endLine : Nat) : Text :=
  ['\n'].intercalate ((lines.take endLine).drop (startLine - 1))

/-- `check_evidence`. -/
def checkEvidence (allowedFiles : UUID → Option ByteArray) (evidence : FactEvidenceV1) :
    Except FactEvidenceError Unit :=
  match allowedFiles evidence.snapshotFileId with
  | none => .error ⟨"fact evidence is outside the authorized snapshot"⟩
  | some content =>
    if evidence.endLine < evidence.startLine ∨ 80 ≤ evidence.endLine - evidence.startLine then
      .error ⟨"fact evidence is outside the authorized snapshot"⟩
    else match decodeUtf8 content with
    | none => .error ⟨"fact evidence is invalid"⟩
    | some text =>
      if (splitlines text).length < evidence.endLine then
        .error ⟨"fact evidence line range is invalid"⟩
      else if ¬evidence.quote <:+: joinedLines (splitlines text) evidence.startLine
          evidence.endLine then
        .error ⟨"fact evidence quote is not present"⟩
      else .ok ()

theorem joinedLines_single {lines : List Text} {number : Nat} {line : Text}
    (positive : 1 ≤ number) (here : lines[number - 1]? = some line) :
    joinedLines lines number number = line := by
  obtain ⟨inside, rfl⟩ := List.getElem?_eq_some_iff.mp here
  have taken : (lines.take number).drop (number - 1) = [lines[number - 1]] := by
    rw [List.drop_take, List.drop_eq_getElem_cons inside,
      show number - (number - 1) = 1 by omega]
    rfl
  rw [joinedLines, taken]
  simp

/-- Quoting one line is accepted exactly when the quote stands in it. -/
theorem checkEvidence_line {allowedFiles : UUID → Option ByteArray} {evidence : FactEvidenceV1}
    {content : ByteArray} {text line : Text}
    (allowed : allowedFiles evidence.snapshotFileId = some content)
    (decoded : decodeUtf8 content = some text) (single : evidence.endLine = evidence.startLine)
    (here : (splitlines text)[evidence.startLine - 1]? = some line) :
    checkEvidence allowedFiles evidence = .ok () ↔ evidence.quote <:+: line := by
  have positive := evidence.placed.1
  obtain ⟨inside, -⟩ := List.getElem?_eq_some_iff.mp here
  have shown : ¬(splitlines text).length < evidence.startLine := by omega
  simp only [checkEvidence, allowed, decoded, single, Nat.lt_irrefl, Nat.sub_self, false_or,
    show ¬80 ≤ 0 by decide, if_false, if_neg shown, joinedLines_single positive here]
  by_cases quoted : evidence.quote <:+: line
  · simp [quoted]
  · simp [quoted]

/-!
## Candidate facts and their open questions

`CandidateFactV1`, `FactExtractionV1` and `candidate_issues` of
`domain/project_facts.py`.
-/

/-- The bounds of `FactConditionsV1`. -/
def FactConditions.short (conditions : FactConditions) : Prop :=
  ∀ value ∈ [conditions.environment, conditions.scope, conditions.metricBasis],
    (value.getD []).length ≤ 500

structure CandidateFactV1 where
  claim : Text
  kind : FactKind
  conditions : FactConditions
  evidence : List FactEvidenceV1
  claim_bounds : 1 ≤ claim.length ∧ claim.length ≤ 2000
  conditions_bounds : conditions.short
  evidence_bound : evidence.length ≤ 8

structure FactExtractionV1 where
  facts : List CandidateFactV1
  questions : List Text
  questions_bound : questions.length ≤ 32

variable (chars : CharacterTables)

/-- Where a scan for `\d+(?:[.,%]\d+)*` stands: outside a match, in its digits, or behind a
mark that belongs to it only if a digit follows. -/
inductive DigitScan where
  | outside
  | digits (read : Text)
  | mark (read : Text) (c : Char)

/-- The matches that remain from a position. -/
def digitTokensFrom : DigitScan → Text → List Text
  | .outside, [] => []
  | .digits read, [] => [read]
  | .mark read _, [] => [read]
  | .outside, c :: rest =>
    if chars.isDecimal c then digitTokensFrom (.digits [c]) rest
    else digitTokensFrom .outside rest
  | .digits read, c :: rest =>
    if chars.isDecimal c then digitTokensFrom (.digits (read ++ [c])) rest
    else if c = '.' ∨ c = ',' ∨ c = '%' then digitTokensFrom (.mark read c) rest
    else read :: digitTokensFrom .outside rest
  | .mark read mark, c :: rest =>
    if chars.isDecimal c then digitTokensFrom (.digits (read ++ [mark, c])) rest
    else read :: digitTokensFrom .outside rest

/-- `_DIGIT.findall(text)`. -/
def digitTokens (text : Text) : List Text := digitTokensFrom chars .outside text

example : digitTokens asciiTables "1,200 rows, 3.5%4 of v2.".toList =
    ["1,200".toList, "3.5%4".toList, "2".toList] := by decide

/-- `_PERSONAL_ROLE` at the head of `text`. -/
def personalRoleHere (before : Option Char) (text : Text) : Bool :=
  (wordBoundary chars before text.head? &&
    ["led".toList, "owned".toList, "managed".toList, "designed by me".toList].any fun word =>
      match matchWord chars word none text with
      | some (last, rest) => wordBoundary chars last rest.head?
      | none => false) ||
  ["主导".toList, "负责".toList, "本人".toList].any fun word => word.isPrefixOf text

/-- `_PERSONAL_ROLE.search(text)`. -/
def personalRoleFrom : Option Char → Text → Bool
  | before, [] => personalRoleHere chars before []
  | before, c :: rest => personalRoleHere chars before (c :: rest) || personalRoleFrom (some c) rest

def personalRole (text : Text) : Bool := personalRoleFrom chars none text

example : personalRole asciiTables "Index, Designed by me".toList = true ∧
    personalRole asciiTables "Unowned, compiled".toList = false := by decide

/-- The issues that an attested confirmation waives. -/
def waivableIssues : List String := ["evidence_missing", "personal_role_requires_attestation"]

/-- `candidate_issues`; an empty condition counts as missing. -/
def candidateIssues (candidate : CandidateFactV1) : List String :=
  let numbers := digitTokens chars candidate.claim
  let quotes := [' '].intercalate (candidate.evidence.map FactEvidenceV1.quote)
  (if candidate.evidence = [] then ["evidence_missing"] else []) ++
  (if candidate.kind = .personalStatement then ["personal_role_requires_attestation"] else []) ++
  (if numbers ≠ [] ∧ candidate.conditions.metricBasis.getD [] = [] then ["metric_basis_missing"]
    else []) ++
  (if numbers.any fun number => decide (¬number <:+: quotes) then ["metric_not_in_evidence"]
    else []) ++
  (if candidate.kind ≠ .personalStatement ∧ personalRole chars candidate.claim then
    ["personal_role_unverified"] else []) ++
  if candidate.kind = .experiment ∧ candidate.conditions.environment.getD [] = [] then
    ["experiment_environment_missing"] else []

/-! ## Numbers hold no blank -/

/-- A text of digits and the marks between them. -/
def IsNumber (text : Text) : Prop :=
  text ≠ [] ∧ ∀ c ∈ text, chars.isDecimal c = true ∨ c ∈ ['.', ',', '%']

variable {chars}

theorem isNumber_snoc {read : Text} {c : Char} (number : ∀ d ∈ read,
    chars.isDecimal d = true ∨ d ∈ ['.', ',', '%'])
    (more : chars.isDecimal c = true ∨ c ∈ ['.', ',', '%']) : IsNumber chars (read ++ [c]) := by
  refine ⟨by simp, fun d member => ?_⟩
  rcases List.mem_append.mp member with old | new
  · exact number d old
  · rwa [List.mem_singleton.mp new]

/-- What a scan has read is the beginning of a number. -/
def DigitScan.Sound (chars : CharacterTables) : DigitScan → Prop
  | .outside => True
  | .digits read => IsNumber chars read
  | .mark read c => IsNumber chars read ∧ c ∈ ['.', ',', '%']

theorem digitTokensFrom_number {scan : DigitScan} {text : Text} (sound : scan.Sound chars) :
    ∀ number ∈ digitTokensFrom chars scan text, IsNumber chars number := by
  fun_induction digitTokensFrom chars scan text with
  | case1 => simp
  | case2 read =>
    rintro number (_ | ⟨_, none⟩)
    · exact sound
    · cases none
  | case3 read mark =>
    rintro number (_ | ⟨_, none⟩)
    · exact sound.1
    · cases none
  | case4 c rest decimal ih =>
    exact ih (@isNumber_snoc _ [] _ (by simp) (.inl decimal))
  | case5 c rest other ih => exact ih trivial
  | case6 read c rest decimal ih => exact ih (isNumber_snoc sound.2 (.inl decimal))
  | case7 read c rest other separator ih => exact ih ⟨sound, by simpa using separator⟩
  | case8 read c rest other plain ih =>
    rintro number (_ | ⟨_, later⟩)
    · exact sound
    · exact ih trivial number later
  | case9 read mark c rest decimal ih =>
    refine ih ?_
    rw [List.append_cons]
    exact isNumber_snoc (isNumber_snoc sound.1.2 (.inr sound.2)).2 (.inl decimal)
  | case10 read mark c rest other ih =>
    rintro number (_ | ⟨_, later⟩)
    · exact sound.1
    · exact ih trivial number later

/-- A number of a claim holds no blank, as the space is no digit. -/
theorem digitTokens_unspaced (space : chars.isDecimal ' ' = false) {text number : Text}
    (member : number ∈ digitTokens chars text) : number ≠ [] ∧ ' ' ∉ number := by
  have shape : IsNumber chars number := @digitTokensFrom_number _ .outside text trivial _ member
  refine ⟨shape.1, fun inside => ?_⟩
  rcases shape.2 ' ' inside with decimal | mark
  · rw [space] at decimal
    cases decimal
  · exact absurd mark (by decide)

/-! ## The order of evidence -/

/-- Two candidates that differ at most in the order of their evidence. -/
structure SameFact (first second : CandidateFactV1) : Prop where
  claim : first.claim = second.claim
  kind : first.kind = second.kind
  conditions : first.conditions = second.conditions
  evidence : first.evidence.Perm second.evidence

/-- The questions about a fact do not depend on the order of its evidence. -/
theorem candidateIssues_same (space : chars.isDecimal ' ' = false)
    {first second : CandidateFactV1} (same : SameFact first second) :
    candidateIssues chars first = candidateIssues chars second := by
  have missing : (first.evidence = []) = (second.evidence = []) := by
    rw [← List.length_eq_zero_iff, ← List.length_eq_zero_iff, same.evidence.length_eq]
  have quoted : ∀ number ∈ digitTokens chars second.claim,
      (number <:+: [' '].intercalate (first.evidence.map FactEvidenceV1.quote)) =
        (number <:+: [' '].intercalate (second.evidence.map FactEvidenceV1.quote)) := by
    intro number member
    obtain ⟨shown, free⟩ := digitTokens_unspaced space member
    have quotes := same.evidence.map FactEvidenceV1.quote
    rw [Lines.infix_join_iff free shown, Lines.infix_join_iff free shown]
    exact propext (exists_congr fun quote => and_congr_left fun _ => quotes.mem_iff)
  have numbers : ((digitTokens chars second.claim).any fun number => decide (¬number <:+:
      [' '].intercalate (first.evidence.map FactEvidenceV1.quote))) =
      (digitTokens chars second.claim).any fun number => decide (¬number <:+:
        [' '].intercalate (second.evidence.map FactEvidenceV1.quote)) := by
    rw [Bool.eq_iff_iff, List.any_eq_true, List.any_eq_true]
    refine exists_congr fun number => and_congr_right fun member => ?_
    simp only [decide_eq_true_eq, quoted number member]
  unfold candidateIssues
  simp only [same.claim, same.kind, same.conditions, missing, numbers]

end Pathfinder
