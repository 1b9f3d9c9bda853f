import Pathfinder.Agents.ResumeGeneration

/-!
# From a draft to the first version

`ResumeGenerationPublisher.publish`, behind the locks and the authorization of the session.
What it reads there is an argument, and so are the ids that `uuid4` draws. Which texts the
database takes is a parameter; digests and timestamps of the rows are left out.
-/
namespace Pathfinder
variable {chars : CharacterTables}

/-- What `publish` reads of the session. `material` and `user` are the bound facts that
`_bound_facts` still finds. -/
structure GenerationSession (chars : CharacterTables) where
  jobText : Text
  material : List UUID
  user : List UUID
  currentVersionId : Option UUID
  profileContent : ResumeContent
  preferences : ResumePreferencesV1 chars

/-- `permitted_facts`. -/
def GenerationSession.permittedFacts (session : GenerationSession chars) : List UUID :=
  session.material ++ session.user

/-- What version 1 consists of. -/
structure FirstVersion where
  tex : Text
  content : ResumeContentV1
  coverage : List RequirementCoverage
  materialFacts : List UUID
  userFacts : List UUID

/-- The outcomes of `ResumeGenerationResultV1`; `current` is a version that was there. -/
inductive GenerationOutcome where
  | current (versionId : UUID)
  | needsInput
  | draft (version : FirstVersion)

structure GenerationResultV1 where
  outcome : GenerationOutcome
  questions : List Text

/-- The texts of a row of `job_requirements`. -/
def JobRequirementV1.texts (requirement : JobRequirementV1) : List Text :=
  requirement.quote :: requirement.inferenceBasis.toList

/-- The texts of `validation_json` that a candidate brings. -/
def GenerationCandidateV1.validationTexts (candidate : GenerationCandidateV1) : List Text :=
  candidate.questions ++
    [candidate.promptVersion, candidate.modelId, candidate.retrievalConfigVersion] ++
    candidate.omissionReasons.map Prod.snd

/-- `set(first) == set(second)`. -/
def sameSet {α : Type} [DecidableEq α] (first second : List α) : Bool :=
  decide (first ⊆ second) && decide (second ⊆ first)

/-- The checks in front of the first write. -/
def checkGeneration (session : GenerationSession chars) (candidate : GenerationCandidateV1) :
    Except StoreError Unit :=
  if !candidate.requirements.all (requirementPlaced session.jobText) then
    .error (.validation "job requirement reference is invalid")
  else if candidate.coverage.length ≠ candidate.requirements.length then
    .error (.validation "generation coverage is incomplete")
  else if !sameSet (candidate.coverage.map CoverageV1.requirementOrdinal)
      (List.range candidate.requirements.length) then
    .error (.validation "generation coverage has invalid references")
  else if candidate.coverage.any fun item => !decide (item.factVersionIds ⊆ session.permittedFacts)
      then
    .error (.validation "generation coverage uses unbound facts")
  else if !decide (candidate.omittedFactVersionIds ⊆ session.permittedFacts) then
    .error (.validation "generation omission uses unbound facts")
  else if !sameSet (candidate.omissionReasons.map Prod.fst) candidate.omittedFactVersionIds then
    .error (.validation "generation omission reasons are incomplete")
  else .ok ()

/-- The checks of a content under the preferences in force. -/
def checkDraft (session : GenerationSession chars) (coverage : List CoverageV1)
    (content : ResumeContent) : Except StoreError Unit := do
  requireLockedItemsUnchanged session.profileContent content session.preferences
  if hardConstraintIssues content session.preferences ≠ [] then
    .error (.validation "generation violates hard constraints")
  else if coverage.any fun item => !decide (item.itemIds ⊆ content.itemIds) then
    .error (.validation "generation coverage uses unknown items")
  else .ok ()

/-- The row of `requirement_coverage` for an item, with its references to facts. -/
def firstCoverage (session : GenerationSession chars) (requirementIds : Nat → UUID)
    (item : CoverageV1) : RequirementCoverage where
  requirementId := requirementIds item.requirementOrdinal
  support := item.support
  verification := item.verification
  reason := String.ofList item.reason
  itemIds := item.itemIds
  materialFacts := item.factVersionIds.filter (· ∈ session.material)
  userFacts := item.factVersionIds.filter (· ∈ session.user)

/-- Writing the rows, under `uq_requirement_coverage_user_facts` and its like. -/
def storeCoverage (storable : Text → Bool) (session : GenerationSession chars)
    (requirementIds : Nat → UUID) (coverage : List CoverageV1) :
    Except StoreError (List RequirementCoverage) := do
  storeJson storable (coverage.map CoverageV1.reason)
  let rows := coverage.map (firstCoverage session requirementIds)
  if rows.any fun row => !decide row.materialFacts.Nodup || !decide row.userFacts.Nodup then
    .error (.value "DBAPIError")
  else pure rows

section
variable (storable : Text → Bool) (template : Template) (requirementIds : Nat → UUID)
  (session : GenerationSession chars)

/-- Version 1, `stage` of its artifact included; without a `lock_base_content` the locks
belong to the profile. -/
def publishFirst (candidate : GenerationCandidateV1) (content : ResumeContentV1) :
    Except StoreError FirstVersion := do
  checkDraft session candidate.coverage content.data
  let tex ← renderResumeTex template session.profileContent content.data session.preferences
  storeJson storable (content.data.texts ++ candidate.validationTexts)
  let coverage ← storeCoverage storable session requirementIds candidate.coverage
  pure { tex := tex, content := content, coverage := coverage,
         materialFacts := session.material, userFacts := session.user }

/-- `publish`. -/
def publishGeneration (candidate : GenerationCandidateV1) :
    Except StoreError GenerationResultV1 := do
  checkGeneration session candidate
  match session.currentVersionId with
  | some versionId => pure ⟨.current versionId, candidate.questions⟩
  | none =>
    -- `job_requirements`
    storeJson storable (candidate.requirements.flatMap JobRequirementV1.texts)
    match candidate.content with
    | none => pure ⟨.needsInput, candidate.questions⟩
    | some content =>
      let version ← publishFirst storable template requirementIds session candidate content
      pure ⟨.draft version, candidate.questions⟩

end
end Pathfinder
