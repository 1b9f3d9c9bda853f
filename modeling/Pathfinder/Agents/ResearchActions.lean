import Pathfinder.Agents.ResearchContracts
import Pathfinder.Domain.CanonicalJson

/-!
# From the written report to the action's arguments

`agents/research_graph.py` around `write_report` and `prepare_action`, and
`canonicalize_action_args` of `domain/actions.py`. What the model answers at each
generation of the writer is arbitrary.
-/
namespace Pathfinder

/-- `ResearchGraphProtocolError`. -/
structure ResearchGraphProtocolError where
  category : String
  nodeName : String
  causeCategory : Option String
  schemaErrorType : Option String
  schemaErrorPath : Option String
  deriving DecidableEq, Repr

def protocolError (category nodeName : String) : ResearchGraphProtocolError :=
  ⟨category, nodeName, none, none, none⟩

/-- `_validated_graph_state`. -/
def validatedGraphState (urls : SearchUrls) (state : ResearchGraphState) (nodeName : String) :
    Except ResearchGraphProtocolError ResearchGraphState :=
  if state.valid urls then .ok state else .error (protocolError "invalid_node_output" nodeName)

/-- `_required_state_value`. -/
def requiredStateValue {Value : Type} (value : Option Value) (nodeName : String) :
    Except ResearchGraphProtocolError Value :=
  match value with
  | some value => .ok value
  | none => .error (protocolError "missing_state_value" nodeName)

/-- What one generation of the writer comes to before its grounding is checked. -/
inductive WriterAnswer where
  /-- The invocation itself failed. -/
  | raised (category : String)
  | incomplete
  | toolCalls
  | noContent
  | notJson
  | offSchema (schemaErrorType schemaErrorPath : Option String)
  | parsed (output : WriteReportNodeOutputV1)

/-- `_validated_writer_result`. -/
def validatedWriterResult (answer : WriterAnswer) (nodeInput : WriteReportNodeInputV1) :
    Except ResearchWriterNodeError WriteReportNodeOutputV1 :=
  match answer with
  | .raised category => .error ⟨category, none, none⟩
  | .incomplete => .error ⟨"model_output_incomplete", none, none⟩
  | .toolCalls => .error ⟨"invalid_model_output", none, none⟩
  | .noContent => .error ⟨"empty_model_output", none, none⟩
  | .notJson => .error ⟨"invalid_model_json", none, none⟩
  | .offSchema errorType path => .error ⟨"invalid_model_schema", errorType, path⟩
  | .parsed output => do
    validateWriterGrounding output nodeInput
    return output

/-- The categories after which a first generation is tried again. -/
def writerRetries (answer : WriterAnswer) (category : String) : Bool :=
  match answer with
  | .raised _ => false
  | _ => ["model_output_incomplete", "invalid_model_json", "invalid_model_schema",
      "invalid_model_grounding", "empty_model_output"].contains category

/-- `StructuredResearchWriterNode.__call__`: at most two generations. -/
def structuredResearchWriterNode (answers : Nat → WriterAnswer)
    (nodeInput : WriteReportNodeInputV1) :
    Except ResearchWriterNodeError WriteReportNodeOutputV1 :=
  match validatedWriterResult (answers 0) nodeInput with
  | .ok output => .ok output
  | .error error =>
    if writerRetries (answers 0) error.category then validatedWriterResult (answers 1) nodeInput
    else .error error

/-- `_has_valid_application_draft`. -/
def hasValidApplicationDraft (state : ResearchGraphState)
    (writerOutput : WriteReportNodeOutputV1) : Bool :=
  match writerOutput.applicationDraft with
  | none => false
  | some draft =>
    state.mode == .application && state.request.includeApplicationDraft &&
    state.resumeDocumentId.isSome && state.evidenceSufficient == some true &&
    draft.paragraphs.all fun paragraph => paragraph.citations.all fun citation =>
      citedSource (evidenceSources state.evidence state.documentEvidence) citation.evidenceId ==
        some citation.sourceId

/-- What a node of the graph takes from its runtime context. -/
structure ResearchGraphRuntimeContext where
  tenant : Option TenantContext
  /-- `uuid4()`. -/
  proposalId : UUID
  clock : Timestamp
  /-- `APPROVAL_TTL`. -/
  approvalTtl : Timedelta

/-- `WriteReportNodeInputV1` of a state. -/
def ResearchGraphState.writerInput (state : ResearchGraphState) (evidenceSufficient : Bool) :
    WriteReportNodeInputV1 :=
  { request := state.request, evidence := state.evidence,
    documentEvidence := state.documentEvidence, evidenceSufficient := evidenceSufficient,
    validationLimitations := state.validationLimitations }

/-- The proposal identity that `write_report` leaves: an earlier one is kept. -/
def ResearchGraphState.withProposal (state : ResearchGraphState)
    (context : ResearchGraphRuntimeContext) (writerOutput : WriteReportNodeOutputV1) :
    ResearchGraphState :=
  if hasValidApplicationDraft state writerOutput && context.tenant.isSome then
    match state.actionProposalId with
    | some _ => state
    | none =>
      { state with
        actionProposalId := some context.proposalId
        actionKey := some Pathfinder.actionKey
        actionRevision := some initialActionRevision
        approvalExpiresAt := some (context.clock + context.approvalTtl) }
  else
    { state with
      actionProposalId := none
      actionKey := none
      actionRevision := none
      approvalExpiresAt := none }

/-- `write_report`. -/
def writeReport (urls : SearchUrls) (context : ResearchGraphRuntimeContext)
    (answers : Nat → WriterAnswer) (state : ResearchGraphState) :
    Except ResearchGraphProtocolError ResearchGraphState := do
  let state ← validatedGraphState urls state "write_report"
  let evidenceSufficient ← requiredStateValue state.evidenceSufficient "write_report"
  match structuredResearchWriterNode answers (state.writerInput evidenceSufficient) with
  | .error error =>
    .error ⟨"node_execution_failed", "write_report", some error.category, error.schemaErrorType,
      error.schemaErrorPath⟩
  | .ok writerOutput =>
    return { state.withProposal context writerOutput with
      writerOutput := some writerOutput
      approvalRequestId := none }

inductive ActionRoute where
  | prepareAction | finalize
  deriving DecidableEq, Repr

/-- `route_after_write`. -/
def routeAfterWrite (urls : SearchUrls) (state : ResearchGraphState) :
    Except ResearchGraphProtocolError ActionRoute := do
  let state ← validatedGraphState urls state "write_report"
  return if state.actionProposalId.isSome then .prepareAction else .finalize

/-- `"\n\n".join(paragraph.text for paragraph in draft.paragraphs)`. -/
def coverLetter (draft : ApplicationDraftV1) : String :=
  "\n\n".intercalate (draft.paragraphs.map fun paragraph => paragraph.text.val)

/-- `assemble_submit_application_args`. -/
def assembleSubmitApplicationArgs (runId resumeDocumentId : UUID)
    (writerOutput : WriteReportNodeOutputV1) :
    Except ResearchGraphProtocolError SubmitApplicationArgs :=
  match writerOutput.applicationDraft with
  | none => .error (protocolError "invalid_action_payload" "prepare_action")
  | some draft =>
    match SubmitApplicationArgs.validate
        { jobRef := "pathfinder-mock-job-v1:" ++ String.ofList (uuidText runId)
          resumeDocumentId := resumeDocumentId
          answers := []
          coverLetter := coverLetter draft } with
    | some args => .ok args
    | none => .error (protocolError "invalid_action_payload" "prepare_action")

/-- The arguments of the command `prepare_action` sends to the store. -/
def prepareArguments (urls : SearchUrls) (state : ResearchGraphState) :
    Except ResearchGraphProtocolError SubmitApplicationArgs := do
  let state ← validatedGraphState urls state "prepare_action"
  let _ ← requiredStateValue state.actionProposalId "prepare_action"
  let _ ← requiredStateValue state.actionKey "prepare_action"
  let _ ← requiredStateValue state.actionRevision "prepare_action"
  let _ ← requiredStateValue state.approvalExpiresAt "prepare_action"
  let resumeDocumentId ← requiredStateValue state.resumeDocumentId "prepare_action"
  let writerOutput ← requiredStateValue state.writerOutput "prepare_action"
  assembleSubmitApplicationArgs state.runId resumeDocumentId writerOutput

/-- `canonicalize_action_args`: the snapshot and the digest of its canonical bytes. -/
def canonicalizeActionArgs (digests : Digests) (value : ArgsSnapshot) :
    Except StoreError (ArgsSnapshot × String) :=
  match SubmitApplicationArgs.validate value with
  | none => .error (.validation "submit application args are invalid")
  | some validated => do
    validateCanonicalJson validated.snapshot.dump
    return (validated.snapshot, digests.args validated.snapshot)

end Pathfinder
