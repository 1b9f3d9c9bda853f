import Pathfinder.Agents.ResumeGraphs
import Pathfinder.Db.ResumePublication
import Pathfinder.Db.SessionPreferences
import Pathfinder.Domain.PythonText

/-!
# The first draft of a session

`agents/resume_generation.py` with its contracts in `domain/resume_generation.py`. The model,
its tools and the repair budget stand behind `GenerationPorts`; the models that read JSON
answers are parameters, and what they accept carries the declared bounds.
-/
namespace Pathfinder

/-! ## Contracts -/

structure FixedFact where
  versionId : UUID
  projectId : UUID
  claim : Text
  kind : FactKind
  conditions : FactConditions
  deriving DecidableEq, Repr

/-- The rest of `GenerationInputs`: the budget and the files to search enter only the calls
of the model. -/
structure DraftInputs (chars : CharacterTables) extends GenerationInputs chars where
  sessionId : UUID
  jobText : Text
  facts : List FixedFact

inductive RequirementKind where
  | explicit | preferred | inferred
  deriving DecidableEq, Repr

/-- `stop` is the field `end`. -/
structure JobRequirementV1 where
  kind : RequirementKind
  start : Nat
  stop : Nat
  quote : Text
  inferenceBasis : Option Text
  deriving DecidableEq, Repr

/-- The field bounds. -/
def JobRequirementV1.valid (requirement : JobRequirementV1) : Bool :=
  0 < requirement.stop && (1 ≤ requirement.quote.length && requirement.quote.length ≤ 2000) &&
    requirement.inferenceBasis.all (·.length ≤ 2000)

structure RequirementExtractionV1 where
  requirements : List JobRequirementV1
  questions : List Text
  deriving DecidableEq, Repr

def RequirementExtractionV1.valid (analysis : RequirementExtractionV1) : Bool :=
  analysis.requirements.length ≤ 40 && analysis.questions.length ≤ 20 &&
    analysis.requirements.all JobRequirementV1.valid

structure DraftBulletV1 where
  projectItemId : UUID
  factVersionId : UUID
  requirementOrdinals : List Int
  deriving DecidableEq, Repr

/-- `omitted_fact_version_ids` is read by nobody. -/
structure DraftSelectionV1 where
  bullets : List DraftBulletV1
  omissionReasons : List (UUID × Text)
  questions : List Text
  deriving DecidableEq, Repr

def DraftSelectionV1.valid (selection : DraftSelectionV1) : Bool :=
  selection.bullets.length ≤ 40 && selection.questions.length ≤ 20

structure CoverageV1 where
  requirementOrdinal : Nat
  support : CoverageSupport
  verification : CoverageVerification
  factVersionIds : List UUID
  itemIds : List UUID
  reason : Text
  deriving DecidableEq, Repr

/-- `omissionReasons` is the dictionary in insertion order. -/
structure GenerationCandidateV1 where
  content : Option ResumeContentV1
  requirements : List JobRequirementV1
  coverage : List CoverageV1
  questions : List Text
  omittedFactVersionIds : List UUID
  omissionReasons : List (UUID × Text)
  correctionCount : Nat
  promptVersion : Text
  modelId : Text
  retrievalConfigVersion : Text
  deriving DecidableEq

/-- What ends a run without a candidate: `GenerationError`, or another exception. -/
inductive GenerationFailure where
  | generationError (code : String)
  | raised (reason : StoreError)
  deriving DecidableEq, Repr

/-! ## Reading answers -/

/-- `_json_payload`. -/
def jsonPayload (content : Option Text) : Text :=
  let text := stripText (content.getD [])
  let lines := splitlines text
  if 3 ≤ lines.length ∧ (lines.head? = some "```json".toList ∨ lines.head? = some "```".toList) ∧
      lines.getLast? = some "```".toList then
    ['\n'].intercalate (lines.tail.dropLast)
  else text

/-- `text[start:stop]`. -/
def textSlice (text : Text) (start stop : Nat) : Text := (text.take stop).drop start

/-- The first position of `part` in a text whose head stands at `offset`. -/
def findFrom (part : Text) (offset : Nat) : Text → Option Nat
  | [] => if part = [] then some offset else none
  | c :: rest =>
    if part.isPrefixOf (c :: rest) then some offset else findFrom part (offset + 1) rest

/-- The loop body of `_ground_requirements`; `none` where it raises. -/
def groundRequirement (jd : Text) (item : JobRequirementV1) : Option JobRequirementV1 :=
  let item :=
    if item.kind ≠ .inferred ∧ item.inferenceBasis.any fun basis => stripText basis = [] then
      { item with inferenceBasis := none }
    else item
  if textSlice jd item.start item.stop = item.quote then some item
  else match findFrom item.quote 0 jd with
    | none => none
    | some start =>
      if (findFrom item.quote (start + 1) (jd.drop (start + 1))).isSome then none
      else some { item with start := start, stop := start + item.quote.length }

/-- `validate_requirement_positions`, for one requirement. -/
def requirementPlaced (jd : Text) (requirement : JobRequirementV1) : Bool :=
  requirement.start < requirement.stop && requirement.stop ≤ jd.length &&
    textSlice jd requirement.start requirement.stop == requirement.quote &&
    ((requirement.kind == .inferred) == requirement.inferenceBasis.isSome) &&
    (requirement.kind != .inferred || stripText (requirement.inferenceBasis.getD []) != [])

/-- `_ground_requirements`. -/
def groundRequirements (jd : Text) (analysis : RequirementExtractionV1) :
    Option RequirementExtractionV1 :=
  match analysis.requirements.mapM (groundRequirement jd) with
  | none => none
  | some requirements =>
    if requirements.all (requirementPlaced jd) then
      some { analysis with requirements := requirements }
    else none

/-! ## The content of a draft -/

variable {chars : CharacterTables}

/-- An experiment names its environment and its metric, and the claim keeps the environment. -/
def experimentStated (chars : CharacterTables) (fact : FixedFact) : Bool :=
  match fact.conditions.environment, fact.conditions.metricBasis with
  | some environment, some metricBasis =>
    environment != [] && metricBasis != [] && containsFolded chars environment fact.claim
  | _, _ => false

/-- `_valid_bullet`. -/
def validBullet (inputs : DraftInputs chars) (requirementCount : Nat) (bullet : DraftBulletV1) :
    Bool :=
  match inputs.facts.find? fun fact => fact.versionId = bullet.factVersionId,
      inputs.content.data.projects.find? fun project => project.id = bullet.projectItemId with
  | some fact, some project =>
    project.reviewStatus == .reviewed && inputs.projectMap project.id == some fact.projectId &&
      fact.kind != .plan && (fact.kind != .experiment || experimentStated chars fact) &&
      bullet.requirementOrdinals != [] &&
      bullet.requirementOrdinals.all fun value => 0 ≤ value && value < requirementCount
  | _, _ => false

/-- `by_fact.get(version_id)`: of two facts under one id the later counts. -/
def byFact (inputs : DraftInputs chars) (versionId : UUID) : Option FixedFact :=
  inputs.facts.reverse.find? fun fact => fact.versionId = versionId

/-- `by_fact[version_id].claim`. -/
def factText (inputs : DraftInputs chars) (bullet : DraftBulletV1) :
    Except GenerationFailure Text :=
  match byFact inputs bullet.factVersionId with
  | none => .error (.raised (.value "unknown fact version"))
  | some fact => .ok fact.claim

/-- `StyledTextV1(text=text)`. -/
def styledText (text : Text) : Except GenerationFailure StyledText :=
  if (⟨text, []⟩ : StyledText).valid then .ok ⟨text, []⟩
  else .error (.raised (.value "styled text is invalid"))

/-- `chosen` of a project. -/
def chosenFor (bullets : List DraftBulletV1) (project : ProjectEntry) : List DraftBulletV1 :=
  bullets.filter fun item => item.projectItemId = project.id

/-- The technologies that one of the claims mentions. -/
def mentioned (chars : CharacterTables) (technologies factTexts : List Text) : List Text :=
  technologies.filter fun value => factTexts.any fun text => containsFolded chars value text

section Content
variable (uuid5 : UUID → Text → UUID) (inputs : DraftInputs chars)

/-- The id of the bullet that shows a fact. -/
def bulletId (versionId : UUID) : UUID := uuid5 inputs.sessionId (uuidText versionId)

/-- The project a profile project becomes, with the facts chosen for it. -/
def draftProject (original : ProjectEntry) (chosen : List DraftBulletV1) :
    Except GenerationFailure ProjectEntry := do
  let factTexts ← chosen.mapM (factText inputs)
  let summary ← styledText (factTexts.headD [])
  let styled ← factTexts.mapM styledText
  return { original with
    summary := summary
    technologies := mentioned chars original.technologies factTexts
    bullets := List.zipWith (fun item text => ⟨bulletId uuid5 inputs item.factVersionId, text⟩)
      chosen styled }

/-- The loop over the profile's projects; `none` where `_content` returns `None` in it. -/
def draftProjects (bullets : List DraftBulletV1) :
    List ProjectEntry → Except GenerationFailure (Option (List ProjectEntry))
  | [] => .ok (some [])
  | original :: rest =>
    match chosenFor bullets original with
    | [] =>
      if original.id ∈ inputs.preferences.values.lockedItemIds then .ok none
      else draftProjects bullets rest
    | chosen => do
      let project ← draftProject uuid5 inputs original chosen
      let others ← draftProjects bullets rest
      return others.map (project :: ·)

/-- The profile with the projects of the draft, and the education and skills it may show. -/
def draftContent (projects : List ProjectEntry) : ResumeContent :=
  let shown := fun (mark : ReviewMark) (id : UUID) =>
    decide (mark = .reviewed ∨ id ∈ inputs.preferences.values.lockedItemIds)
  { inputs.content.data with
    education := inputs.content.data.education.filter fun item => shown item.reviewStatus item.id
    projects := projects
    skills := inputs.content.data.skills.filter fun item => shown item.reviewStatus item.id }

/-- `_content`. -/
def content (bullets : List DraftBulletV1) : Except GenerationFailure (Option ResumeContentV1) :=
  match draftProjects uuid5 inputs bullets inputs.content.data.projects with
  | .error failure => .error failure
  | .ok none | .ok (some []) => .ok none
  | .ok (some (first :: rest)) =>
    match ResumeContentV1.modelValidate (draftContent inputs (first :: rest)) with
    | .error reason => .error (.raised reason)
    | .ok drafted =>
      match requireLockedItemsUnchanged inputs.content.data drafted.data inputs.preferences with
      | .error _ => .ok none
      | .ok () =>
        if hardConstraintIssues drafted.data inputs.preferences = [] then .ok (some drafted)
        else .ok none

/-! ## Coverage and the candidate -/

/-- `_coverage`, for one requirement. -/
def coverageRow (selection : List DraftBulletV1) (ordinal : Nat) : CoverageV1 :=
  let selected := selection.filter fun item => (ordinal : Int) ∈ item.requirementOrdinals
  { requirementOrdinal := ordinal
    support := if selected = [] then .noSupportFound else .supported
    verification :=
      if selected ≠ [] then .needsHumanReview
      else if inputs.facts = [] then .materialInsufficient
      else .unchecked
    factVersionIds := selected.map DraftBulletV1.factVersionId
    itemIds := selected.map fun item => bulletId uuid5 inputs item.factVersionId
    reason :=
      if selected ≠ [] then
        "Selected confirmed fact; wording still needs human review.".toList
      else "No supporting fact was selected for this draft.".toList }

/-- `_coverage`. -/
def coverage (selection : List DraftBulletV1) (requirementCount : Nat) : List CoverageV1 :=
  (List.range requirementCount).map (coverageRow uuid5 inputs selection)

/-- The bullets of a selection that `_valid_bullet` accepts. -/
def validBullets (analysis : RequirementExtractionV1) (selection : DraftSelectionV1) :
    List DraftBulletV1 :=
  selection.bullets.filter (validBullet inputs analysis.requirements.length)

/-- `selected`: the first valid bullet of every fact. -/
def selectedBullets (analysis : RequirementExtractionV1) (selection : DraftSelectionV1) :
    List DraftBulletV1 :=
  KeyedList.firsts DraftBulletV1.factVersionId [] (validBullets inputs analysis selection)

/-- `dictionary.get(key)`, of the entries in insertion order. -/
def entryOf (entries : List (UUID × Text)) (key : UUID) : Option Text :=
  (entries.reverse.find? fun entry => entry.1 = key).map Prod.snd

/-- The dictionary of entries in insertion order: of two under one key the later value counts. -/
def dictionary (entries : List (UUID × Text)) : List (UUID × Text) :=
  (fromKeys (entries.map Prod.fst)).filterMap fun key => (entryOf entries key).map (key, ·)

/-- The entries of `omission_reasons`. -/
def omissions (selection : DraftSelectionV1) (selectedIds : List UUID) : List (UUID × Text) :=
  (inputs.facts.filter fun fact => fact.versionId ∉ selectedIds).map fun fact =>
    (fact.versionId, (entryOf selection.omissionReasons fact.versionId).getD
      (if fact.kind = .plan then "plan_not_published".toList
        else "not_selected_for_this_job".toList))

end Content

/-- The constants of a graph: `PROMPT_VERSION`, the model and the digest of its tools. -/
structure GenerationGraph where
  promptVersion : Text
  modelId : Text
  retrievalConfigVersion : Text

/-- The end of `_write`: the candidate of the selection it goes on with. -/
def draftCandidate (uuid5 : UUID → Text → UUID) (graph : GenerationGraph)
    (inputs : DraftInputs chars) (analysis : RequirementExtractionV1)
    (selection : DraftSelectionV1) (corrected : Bool) :
    Except GenerationFailure GenerationCandidateV1 :=
  let valid := validBullets inputs analysis selection
  let selected := selectedBullets inputs analysis selection
  match content uuid5 inputs selected with
  | .error failure => .error failure
  | .ok drafted =>
    let issues := analysis.questions ++ selection.questions ++
      (if valid.length ≠ selection.bullets.length then
        ["unsupported_draft_items_removed".toList] else []) ++
      (if drafted = none then ["no_supported_draft_content".toList] else [])
    let omitted := dictionary
      (omissions inputs selection (selected.map DraftBulletV1.factVersionId))
    .ok
      { content := drafted
        requirements := analysis.requirements
        coverage := coverage uuid5 inputs (if drafted = none then [] else selected)
          analysis.requirements.length
        questions := fromKeys issues
        omittedFactVersionIds := omitted.map Prod.fst
        omissionReasons := omitted
        correctionCount := if corrected then 1 else 0
        promptVersion := graph.promptVersion
        modelId := graph.modelId
        retrievalConfigVersion := graph.retrievalConfigVersion }

/-! ## The graph -/

/-- What a run of the graph does outside: `_invoke` with the messages of a stage, which gives
the content of the first answer without tool calls, and `reserve_repair`. `σ` is the state of
the world they act on. -/
structure GenerationPorts (σ : Type) where
  invoke : GraphStage RequirementExtractionV1 → StateT σ (Except GenerationFailure) (Option Text)
  reserveRepair : StateT σ (Except GenerationFailure) Bool

/-- `model_validate_json(..., strict=True)` of the two answers, with the declared bounds. -/
structure AnswerModels where
  extraction : Text → Option { analysis : RequirementExtractionV1 // analysis.valid = true }
  selection : Text → Option { selection : DraftSelectionV1 // selection.valid = true }

section Graph
variable {σ : Type} (ports : GenerationPorts σ) (models : AnswerModels)
  (inputs : DraftInputs chars)

/-- The `try` of `_analyze`. -/
def groundedAnalysis (answer : Option Text) : Option RequirementExtractionV1 :=
  match models.extraction (jsonPayload answer) with
  | none => none
  | some analysis => groundRequirements inputs.jobText analysis.1

/-- `_analyze`: the analysis, and whether it was corrected. -/
def analyze : StateT σ (Except GenerationFailure) (RequirementExtractionV1 × Bool) := do
  match groundedAnalysis models inputs (← ports.invoke (.analyze false)) with
  | some analysis => return (analysis, false)
  | none =>
    if ← ports.reserveRepair then
      match groundedAnalysis models inputs (← ports.invoke (.analyze true)) with
      | some analysis => return (analysis, true)
      | none => throw (.generationError "invalid_job_reference")
    else throw (.generationError "invalid_job_reference")

/-- `_selection`. -/
def readSelection (stage : GraphStage RequirementExtractionV1) :
    StateT σ (Except GenerationFailure) DraftSelectionV1 := do
  match models.selection (jsonPayload (← ports.invoke stage)) with
  | some selection => return selection.1
  | none => throw (.generationError "invalid_draft_schema")

/-- The selection `_write` goes on with, and whether the run was corrected. -/
def finalSelection (analysis : RequirementExtractionV1) (corrected : Bool) :
    StateT σ (Except GenerationFailure) (DraftSelectionV1 × Bool) := do
  let selection ← readSelection ports models (.write analysis corrected)
  if !corrected && (validBullets inputs analysis selection).length ≠ selection.bullets.length then
    if ← ports.reserveRepair then
      let again ← readSelection ports models (.rewrite analysis)
      return (again, true)
    else return (selection, corrected)
  else return (selection, corrected)

/-- The answers a candidate is made from. -/
def draftAnswers : StateT σ (Except GenerationFailure)
    (RequirementExtractionV1 × DraftSelectionV1 × Bool) := do
  let (analysis, corrected) ← analyze ports models inputs
  let (selection, corrected) ← finalSelection ports models inputs analysis corrected
  return (analysis, selection, corrected)

/-- `generate`. -/
def generate (uuid5 : UUID → Text → UUID) (graph : GenerationGraph) :
    StateT σ (Except GenerationFailure) GenerationCandidateV1 := do
  let (analysis, selection, corrected) ← draftAnswers ports models inputs
  StateT.lift (draftCandidate uuid5 graph inputs analysis selection corrected)

end Graph
end Pathfinder
