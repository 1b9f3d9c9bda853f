import Pathfinder.Agents.CreateAgentLoop
import Pathfinder.Agents.ResearchActions
import Pathfinder.Library.KeyedList
import Pathfinder.Tools.Search

/-!
# The research graph

`agents/research_graph.py` with the nodes of `agents/research_nodes.py`. What a model, a tool
or a store answers is arbitrary, and so is the plan. Traces and the hook behind a pass are
left out.
-/
namespace Pathfinder
open JsonTexts

/-! ## The texts of the tools -/

/-- A hit of `retrieve_documents`; nothing reads its distance. -/
structure RetrievedDocumentEvidenceV1 where
  documentId : UUID
  chunkId : UUID
  sourceName : Text
  chunkSection : Option Text
  ordinal : Nat
  untrustedText : Text

def RetrievedDocumentEvidenceV1.valid (hit : RetrievedDocumentEvidenceV1) : Bool :=
  hit.documentId < 2 ^ 128 && hit.chunkId < 2 ^ 128 &&
    1 ≤ hit.sourceName.length && hit.sourceName.length ≤ 255 &&
    (hit.chunkSection.all fun title => title.length ≤ 800) &&
    1 ≤ hit.untrustedText.length && hit.untrustedText.length ≤ 800

structure RetrieveDocumentsOutputV1 where
  resultCount : Nat
  results : List RetrievedDocumentEvidenceV1

def RetrieveDocumentsOutputV1.valid (output : RetrieveDocumentsOutputV1) : Bool :=
  output.resultCount ≤ 5 && output.results.length ≤ 5 &&
    output.results.all RetrievedDocumentEvidenceV1.valid

/-- The URL parser, SHA-256 in hexadecimal, NFKC, and the JSON of a tool's text read into the
fields of the tool's contract. -/
structure ResearchLibraries where
  canonicalizeSearchUrl : Text → Option Text
  sha256 : ByteArray → Text
  nfkc : Text → Text
  readSearch : String → Option SearchWebOutputV1
  readDocuments : String → Option RetrieveDocumentsOutputV1

namespace ResearchLibraries
variable (libraries : ResearchLibraries)

def sha256Text (text : Text) : Text := libraries.sha256 (encodeUtf8 text)

/-- The same parser and digest, as the contracts of the graph see them. -/
def urls : SearchUrls where
  canonicalizeSearchUrl url := (libraries.canonicalizeSearchUrl url.toList).map String.ofList
  sha256Hex text := String.ofList (libraries.sha256Text text.toList)

/-- The bounds of `SearchWebOutputV1`, `SearchWebResultV1` and their validators. -/
def searchOutputValid (output : SearchWebOutputV1) : Bool :=
  1 ≤ output.query.length && output.query.length ≤ 2000 &&
    output.query = normalizeWebSearchQuery libraries.nfkc output.query &&
    output.results.length ≤ 8 &&
    output.results.all (searchContract libraries.canonicalizeSearchUrl libraries.sha256Text) &&
    decide (output.results.map SearchResult.sourceId).Nodup

/-- `_validated_search_output`. -/
def validatedSearchOutput (content : String) : Option SearchWebOutputV1 :=
  (libraries.readSearch content).filter libraries.searchOutputValid

/-- `_validated_document_output`. -/
def validatedDocumentOutput (content : String) : Option RetrieveDocumentsOutputV1 :=
  (libraries.readDocuments content).filter RetrieveDocumentsOutputV1.valid

/-- `len(encoded).to_bytes(8, byteorder="big")` and the encoded text. -/
def framed (value : Text) : ByteArray :=
  let encoded := encodeUtf8 value
  ⟨((List.range 8).map fun i => UInt8.ofNat (encoded.size / 256 ^ (7 - i))).toArray⟩ ++ encoded

/-- `web_evidence_id`. -/
def webEvidenceId (sourceId snippet : Text) : Text :=
  "web-evidence-v1:".toList ++ libraries.sha256
    (encodeUtf8 "pathfinder-web-evidence-v1".toList ++ framed sourceId ++ framed snippet)

end ResearchLibraries

/-! ## A pass of the research agent -/

/-- `ChatMessage`, as far as the transcript is read. -/
inductive ChatMessage where
  | instruction
  | assistant (toolCalls : List (ProposedCall Json))
  | tool (toolCallId content : Option String)

/-- `ResearchAgentNodeError`, or the `ValidationError` of a contract that the node builds. -/
inductive ResearchNodeError where
  | node (category : String)
  | validation
  deriving DecidableEq, Repr

/-- Building a contract. -/
def validated {Value : Type} (value : Option Value) : Except ResearchNodeError Value :=
  value.elim (.error .validation) .ok

def traced {Value : Type} (value : Option Value) : Except ResearchNodeError Value :=
  value.elim (.error (.node "invalid_tool_trace")) .ok

/-- pydantic's check of a constrained text. -/
def constrained {holds : String → Prop} [DecidablePred holds] (value : Text) :
    Option { text : String // holds text } :=
  if fits : holds (String.ofList value) then some ⟨String.ofList value, fits⟩ else none

def constrainedOrNone {holds : String → Prop} [DecidablePred holds] :
    Option Text → Option (Option { text : String // holds text })
  | none => some none
  | some value => (constrained value).map some

/-- The tool calls that the messages propose, and the tool results, each with its call id. -/
def proposedCalls (transcript : List ChatMessage) : List (ProposedCall Json) :=
  transcript.flatMap fun
    | .assistant toolCalls => toolCalls
    | _ => []

def toolResults : List ChatMessage → Except ResearchNodeError (List (String × String))
  | [] => .ok []
  | .tool toolCallId content :: rest => do
    let callId ← traced toolCallId
    let text ← traced content
    let later ← toolResults rest
    return (callId, text) :: later
  | _ :: rest => toolResults rest

/-- `_ordered_tool_exchanges`. -/
def orderedToolExchanges (transcript : List ChatMessage) :
    Except ResearchNodeError (List (ModelToolCall Json × String)) := do
  let calls := proposedCalls transcript
  let results ← toolResults transcript
  if ¬(calls.map ProposedCall.callId).Nodup then .error (.node "invalid_tool_trace")
  else if calls.map ProposedCall.callId ≠ results.map Prod.fst then
    .error (.node "invalid_tool_trace")
  else .ok ((calls.map ProposedCall.call).zip (results.map Prod.snd))

/-- What the node reads of `ResearchNodeInputV1`. -/
structure ResearchNodeInputV1 where
  existingSources : List ResearchSourceV1
  existingEvidence : List ResearchEvidenceV1
  existingSearchCalls : List SearchCallTraceV1
  existingDocumentRetrievalCalls : List DocumentRetrievalCallTraceV1
  researchPassNumber : Nat

structure ResearchNodeOutputV1 where
  sources : List ResearchSourceV1
  evidence : List ResearchEvidenceV1
  searchCalls : List SearchCallTraceV1
  documentSources : List ResearchSourceV2
  documentEvidence : List ResearchEvidenceV2
  documentRetrievalCalls : List DocumentRetrievalCallTraceV1

namespace ResearchNodeOutputV1

def empty : ResearchNodeOutputV1 := ⟨[], [], [], [], [], []⟩

def bounded (output : ResearchNodeOutputV1) : Bool :=
  output.sources.length ≤ 64 && output.evidence.length ≤ 128 && output.searchCalls.length ≤ 8 &&
    output.documentSources.length ≤ 8 && output.documentEvidence.length ≤ 128 &&
    output.documentRetrievalCalls.length ≤ 8

end ResearchNodeOutputV1

section Pass
variable (libraries : ResearchLibraries)

/-- `ResearchSourceV1(…)` of a result. -/
def webSource (result : SearchResult) : Option ResearchSourceV1 := do
  let sourceId : Identifier ← constrained result.sourceId
  let title : TitleText ← constrained result.title
  let snippet : SnippetText ← constrained result.snippet
  let publishedAt : Option PublishedAtText ← constrainedOrNone result.publishedAt
  some { sourceId := sourceId, title := title, url := String.ofList result.url,
         snippet := snippet, publishedAt := publishedAt }

/-- `ResearchEvidenceV1(…)` of a result. -/
def webEvidence (result : SearchResult) : Option ResearchEvidenceV1 := do
  let evidenceId : Identifier ← constrained (libraries.webEvidenceId result.sourceId result.snippet)
  let sourceId : Identifier ← constrained result.sourceId
  let text : BodyText ← constrained result.snippet
  some { evidenceId := evidenceId, sourceId := sourceId, text := text }

/-- `SearchTraceResultV1(…)` of a result. -/
def traceResult (result : SearchResult) (rank : Nat) : Option SearchTraceResultV1 := do
  let sourceId : Identifier ← constrained result.sourceId
  some { rank := rank, canonicalUrl := String.ofList result.url, sourceId := sourceId,
         truncated := result.truncated }

theorem noSnippet_short : "".length ≤ 4000 := by decide

/-- `ResearchSourceV2(…)` of a hit. -/
def documentSource (hit : RetrievedDocumentEvidenceV1) : Option ResearchSourceV2 := do
  let sourceId : Identifier ← constrained (documentSourceId hit.documentId).toList
  let title : TitleText ← constrained hit.sourceName
  let source : SourceFieldsV2 :=
    { sourceType := .workspaceDocument, sourceId := sourceId, title := title, url := none,
      snippet := ⟨"", noSnippet_short⟩, publishedAt := none, documentId := some hit.documentId,
      sourceName := some title }
  if matching : source.identityMatchesType = true then some ⟨source, matching⟩ else none

/-- `ResearchEvidenceV2(…)` of a hit. -/
def documentEvidence (hit : RetrievedDocumentEvidenceV1) : Option ResearchEvidenceV2 := do
  let evidenceId : Identifier ← constrained (chunkEvidenceId hit.chunkId).toList
  let sourceId : Identifier ← constrained (documentSourceId hit.documentId).toList
  let text : BodyText ← constrained hit.untrustedText
  let chunkSection ← constrainedOrNone hit.chunkSection
  let evidence : EvidenceFieldsV2 :=
    { sourceType := .workspaceDocument, evidenceId := evidenceId, sourceId := sourceId,
      text := text, documentId := some hit.documentId, chunkId := some hit.chunkId,
      chunkSection := chunkSection, ordinal := some hit.ordinal }
  if matching : evidence.identityMatchesType = true then some ⟨evidence, matching⟩ else none

/-- An item behind others, unless one of them has its key. -/
def addNew {Key Item : Type} [DecidableEq Key] (key : Item → Key) (items : List Item)
    (item : Item) : List Item :=
  if key item ∈ items.map key then items else items ++ [item]

/-- One hit of a document call. -/
def collectHit (collected : ResearchNodeOutputV1) (hit : RetrievedDocumentEvidenceV1) :
    Except ResearchNodeError ResearchNodeOutputV1 := do
  let source ← validated (documentSource hit)
  let evidence ← validated (documentEvidence hit)
  return { collected with
    documentSources := addNew (fun item => item.val.sourceId) collected.documentSources source
    documentEvidence :=
      addNew (fun item => item.val.evidenceId) collected.documentEvidence evidence }

/-- `RetrieveDocumentsInputV1` accepts the arguments. -/
def retrieveDocumentsInput (arguments : List (String × Json)) : Bool :=
  retrieveMaterialInput arguments

/-- A document call and its result. -/
def collectDocuments (nodeInput : ResearchNodeInputV1) (collected : ResearchNodeOutputV1)
    (call : ModelToolCall Json) (content : String) :
    Except ResearchNodeError ResearchNodeOutputV1 := do
  let _ ← traced (if retrieveDocumentsInput call.arguments then some () else none)
  let toolOutput ← traced (libraries.validatedDocumentOutput content)
  let collected ← toolOutput.results.foldlM collectHit collected
  let trace : DocumentRetrievalCallTraceV1 :=
    { researchPassNumber := nodeInput.researchPassNumber
      callOrdinal := nodeInput.existingDocumentRetrievalCalls.length +
        collected.documentRetrievalCalls.length + 1
      resultCount := toolOutput.resultCount
      documentIds :=
        (toolOutput.results.map RetrievedDocumentEvidenceV1.documentId).eraseDups
      chunkIds := toolOutput.results.map RetrievedDocumentEvidenceV1.chunkId }
  let trace ← validated (if trace.valid then some trace else none)
  return { collected with
    documentRetrievalCalls := collected.documentRetrievalCalls ++ [trace] }

/-- A source counts once; another one of its identity must have its URL. -/
def collectSource (nodeInput : ResearchNodeInputV1) (collected : ResearchNodeOutputV1)
    (source : ResearchSourceV1) : Except ResearchNodeError ResearchNodeOutputV1 :=
  match (nodeInput.existingSources ++ collected.sources).find? fun known =>
    known.sourceId = source.sourceId with
  | none => .ok { collected with sources := collected.sources ++ [source] }
  | some known =>
    if known.url ≠ source.url then .error (.node "source_identity_conflict") else .ok collected

def collectEvidence (nodeInput : ResearchNodeInputV1) (collected : ResearchNodeOutputV1)
    (evidence : ResearchEvidenceV1) : Except ResearchNodeError ResearchNodeOutputV1 :=
  match (nodeInput.existingEvidence ++ collected.evidence).find? fun known =>
    known.evidenceId = evidence.evidenceId with
  | none => .ok { collected with evidence := collected.evidence ++ [evidence] }
  | some known =>
    if known ≠ evidence then .error (.node "evidence_identity_conflict") else .ok collected

/-- One result of a search; its snippet is evidence, unless it is empty. -/
def collectResult (nodeInput : ResearchNodeInputV1) (collected : ResearchNodeOutputV1)
    (result : SearchResult) : Except ResearchNodeError ResearchNodeOutputV1 := do
  let source ← validated (webSource result)
  let collected ← collectSource nodeInput collected source
  if result.snippet = [] then .ok collected
  else
    let evidence ← validated (webEvidence libraries result)
    collectEvidence nodeInput collected evidence

/-- A search and its result. -/
def collectSearch (nodeInput : ResearchNodeInputV1) (collected : ResearchNodeOutputV1)
    (call : ModelToolCall Json) (content : String) :
    Except ResearchNodeError ResearchNodeOutputV1 := do
  let toolInput ← traced
    (if call.name = "search_web" then searchWebInput libraries.nfkc call.arguments else none)
  let toolOutput ← traced (libraries.validatedSearchOutput content)
  if toolOutput.query ≠ toolInput.query ∨ toolInput.maxResults < toolOutput.results.length then
    .error (.node "invalid_tool_trace")
  else
    let collected ← toolOutput.results.foldlM (collectResult libraries nodeInput) collected
    let query : QueryText ← validated (constrained toolOutput.query)
    let results ← (toolOutput.results.zipIdx 1).mapM fun (result, rank) =>
      validated (traceResult result rank)
    let trace : SearchCallTraceV1 :=
      { researchPassNumber := nodeInput.researchPassNumber
        callOrdinal := nodeInput.existingSearchCalls.length + collected.searchCalls.length + 1
        query := query
        maxResults := toolInput.maxResults
        resultCount := toolOutput.results.length
        results := results }
    let trace ← validated (if trace.valid libraries.urls then some trace else none)
    return { collected with searchCalls := collected.searchCalls ++ [trace] }

/-- A call and its result. -/
def collectExchange (nodeInput : ResearchNodeInputV1) (collected : ResearchNodeOutputV1)
    (exchange : ModelToolCall Json × String) : Except ResearchNodeError ResearchNodeOutputV1 :=
  if exchange.1.name = "retrieve_documents" then
    collectDocuments libraries nodeInput collected exchange.1 exchange.2
  else collectSearch libraries nodeInput collected exchange.1 exchange.2

/-- `SEARCH_WEB_PER_RUN_CALL_LIMIT`. -/
def searchWebPerRunCallLimit : Nat := 8

/-- `_research_outputs_from_transcript`. -/
def researchOutputsFromTranscript (nodeInput : ResearchNodeInputV1) (transcript : List ChatMessage)
    (reportedToolCallCount : Nat) : Except ResearchNodeError ResearchNodeOutputV1 := do
  let exchanges ← orderedToolExchanges transcript
  if exchanges.length ≠ reportedToolCallCount then .error (.node "invalid_tool_trace")
  else if searchWebPerRunCallLimit < nodeInput.existingSearchCalls.length +
      nodeInput.existingDocumentRetrievalCalls.length + exchanges.length then
    .error (.node "invalid_tool_trace")
  else if ¬(nodeInput.existingSources.map ResearchSourceV1.sourceId).Nodup ∨
      ¬(nodeInput.existingEvidence.map ResearchEvidenceV1.evidenceId).Nodup then
    .error (.node "invalid_tool_trace")
  else
    let output ← exchanges.foldlM (collectExchange libraries nodeInput) .empty
    validated (if output.bounded then some output else none)

/-- What `run_create_agent_tool_loop` comes to, and the category of the node's error where it
raises. -/
inductive LoopAnswer where
  | raised (category : String)
  | returned (transcript : List ChatMessage) (toolCallCount : Nat)

/-- The messages of a loop that returned. -/
def LoopAnswer.transcript : LoopAnswer → List ChatMessage
  | raised _ => []
  | returned transcript _ => transcript

/-- `_research_pass_control`: the limits of the run, less the calls it has made. -/
def researchPassControl (nodeInput : ResearchNodeInputV1) (trusted : AgentLoopLimits) :
    Except ResearchNodeError AgentLoopLimits :=
  let usedToolCalls := nodeInput.existingSearchCalls.length +
    nodeInput.existingDocumentRetrievalCalls.length
  if nodeInput.existingSearchCalls.map SearchCallTraceV1.callOrdinal ≠
      List.range' 1 nodeInput.existingSearchCalls.length then
    .error (.node "invalid_tool_trace")
  else
    let maxToolCalls := min trusted.maxToolCalls (trusted.maxToolCalls - usedToolCalls)
    .ok { trusted with
      maxToolCalls := maxToolCalls
      maxToolResults := min trusted.maxToolResults maxToolCalls
      resultsFit := Nat.min_le_right _ _ }

/-- `CreateAgentResearchNode.__call__`. The pass control is read where its own error is caught
and renamed. -/
def createAgentResearchNode (trusted : AgentLoopLimits) (loop : AgentLoopLimits → LoopAnswer)
    (nodeInput : ResearchNodeInputV1) : Except ResearchNodeError ResearchNodeOutputV1 :=
  match researchPassControl nodeInput trusted with
  | .error _ => .error (.node "agent_loop_failed")
  | .ok limits =>
    match loop limits with
    | .raised category => .error (.node category)
    | .returned transcript toolCallCount =>
      researchOutputsFromTranscript libraries nodeInput transcript toolCallCount

end Pass

/-! ## Joining the passes -/

/-- What ends an execution of the graph: a protocol error, or a `ValidationError` that no node
catches. -/
inductive ResearchGraphFailure where
  | protocol (error : ResearchGraphProtocolError)
  | validation
  deriving DecidableEq, Repr

section Merge
variable {Source Evidence : Type} [DecidableEq Source] [DecidableEq Evidence]

/-- `_merge_sources`. -/
def mergeSources (sourceId : Source → Identifier) (existing additions : List Source) :
    Except ResearchGraphProtocolError (List Source) :=
  match KeyedList.merge sourceId existing additions with
  | none => .error (protocolError "source_identity_conflict" "research_agent")
  | some merged =>
    if 64 < merged.length then .error (protocolError "invalid_node_output" "research_agent")
    else .ok merged

/-- `_merge_evidence`. -/
def mergeEvidence (evidenceId : Evidence → Identifier) (existing additions : List Evidence) :
    Except ResearchGraphProtocolError (List Evidence) :=
  match KeyedList.merge evidenceId existing additions with
  | none => .error (protocolError "evidence_identity_conflict" "research_agent")
  | some merged =>
    if 128 < merged.length then .error (protocolError "invalid_node_output" "research_agent")
    else .ok merged

end Merge

def searchTraceConflict : ResearchGraphProtocolError :=
  protocolError "search_trace_conflict" "research_agent"

/-- `_merge_search_calls`. -/
def mergeSearchCalls (existing additions : List SearchCallTraceV1) (researchPassNumber : Nat) :
    Except ResearchGraphProtocolError (List SearchCallTraceV1) :=
  if existing.map SearchCallTraceV1.callOrdinal ≠ List.range' 1 existing.length then
    .error searchTraceConflict
  else if additions.map SearchCallTraceV1.callOrdinal ≠
      List.range' (existing.length + 1) additions.length ∨
      ¬∀ call ∈ additions, call.researchPassNumber = researchPassNumber then
    .error searchTraceConflict
  else if 8 < (existing ++ additions).length then .error searchTraceConflict
  else .ok (existing ++ additions)

/-- `_merge_document_calls`. -/
def mergeDocumentCalls (existing additions : List DocumentRetrievalCallTraceV1) :
    Except ResearchGraphProtocolError (List DocumentRetrievalCallTraceV1) :=
  let merged := existing ++ additions
  if 8 < merged.length ∨ merged.map DocumentRetrievalCallTraceV1.callOrdinal ≠
      List.range' 1 merged.length then .error searchTraceConflict
  else .ok merged

/-- `_require_evidence_sources`. -/
def requireEvidenceSources (sources : List ResearchSourceV1) (evidence : List ResearchEvidenceV1) :
    Except ResearchGraphProtocolError Unit :=
  if evidence.any fun item =>
      !(sources.map ResearchSourceV1.sourceId).contains item.sourceId then
    .error (protocolError "evidence_source_missing" "research_agent")
  else .ok ()

/-! ## The nodes -/

/-- `ResearchGraphInputV1`. -/
structure ResearchGraphInput where
  schemaVersion : Nat
  runId : UUID
  workspaceId : UUID
  actorUserId : UUID
  conversationId : UUID
  mode : ResearchMode
  resumeDocumentId : Option UUID
  request : ResearchRequest

/-- The state in front of the first node. -/
def ResearchGraphInput.state (input : ResearchGraphInput) : ResearchGraphState where
  schemaVersion := input.schemaVersion
  runId := input.runId
  workspaceId := input.workspaceId
  actorUserId := input.actorUserId
  conversationId := input.conversationId
  mode := input.mode
  resumeDocumentId := input.resumeDocumentId
  request := input.request
  normalizedQuery := none
  plan := none
  sources := []
  evidence := []
  searchCalls := []
  documentSources := []
  documentEvidence := []
  documentRetrievalCalls := []
  researchPassCount := 0
  evidenceSufficient := none
  validationLimitations := []
  writerOutput := none
  actionProposalId := none
  actionKey := none
  actionRevision := none
  approvalExpiresAt := none
  approvalRequestId := none

section Nodes
variable (libraries : ResearchLibraries)

/-- `_normalize_request`; `normalize_research_query` is that of the search tool. -/
def normalizeRequest (state : ResearchGraphState) :
    Except ResearchGraphProtocolError ResearchGraphState :=
  let invalid := protocolError "invalid_node_output" "normalize_request"
  if !([1, 2, 3].contains state.schemaVersion && isText 2000 state.request.query) then
    .error invalid
  else
    let normalized : Option QueryText :=
      constrained (normalizeWebSearchQuery libraries.nfkc state.request.query.toList)
    match normalized with
    | none => .error invalid
    | some query =>
      .ok { state with
        request := { state.request with query := query.val }
        normalizedQuery := some query }

/-- `_run_node` around a node that raises. -/
def nodeFailed (nodeName : String) (causeCategory : Option String) : ResearchGraphProtocolError :=
  ⟨"node_execution_failed", nodeName, causeCategory, none, none⟩

/-- `plan`. -/
def planNode (answer : Except String ResearchPlanV1) (state : ResearchGraphState) :
    Except ResearchGraphProtocolError ResearchGraphState := do
  let state ← validatedGraphState libraries.urls state "plan"
  let _ ← requiredStateValue state.normalizedQuery "plan"
  match answer with
  | .error category => .error (nodeFailed "plan" (some category))
  | .ok plan => return { state with plan := some plan }

def ResearchGraphState.researchInput (state : ResearchGraphState) (nextPass : Nat) :
    ResearchNodeInputV1 where
  existingSources := state.sources
  existingEvidence := state.evidence
  existingSearchCalls := state.searchCalls
  existingDocumentRetrievalCalls := state.documentRetrievalCalls
  researchPassNumber := nextPass

def ResearchNodeError.cause : ResearchNodeError → Option String
  | node category => some category
  | validation => none

/-- The merges of `research_agent`. -/
def mergePass (state : ResearchGraphState) (nextPass : Nat) (output : ResearchNodeOutputV1) :
    Except ResearchGraphProtocolError ResearchGraphState := do
  let sources ← mergeSources ResearchSourceV1.sourceId state.sources output.sources
  let evidence ← mergeEvidence ResearchEvidenceV1.evidenceId state.evidence output.evidence
  let searchCalls ← mergeSearchCalls state.searchCalls output.searchCalls nextPass
  requireEvidenceSources sources evidence
  let documentSources ← mergeSources (fun source : ResearchSourceV2 => source.val.sourceId)
    state.documentSources output.documentSources
  let documentEvidence ← mergeEvidence (fun item : ResearchEvidenceV2 => item.val.evidenceId)
    state.documentEvidence output.documentEvidence
  let documentCalls ← mergeDocumentCalls state.documentRetrievalCalls output.documentRetrievalCalls
  return { state with
    sources := sources
    evidence := evidence
    searchCalls := searchCalls
    documentSources := documentSources
    documentEvidence := documentEvidence
    documentRetrievalCalls := documentCalls
    researchPassCount := nextPass
    evidenceSufficient := none
    validationLimitations := []
    writerOutput := none
    actionProposalId := none
    actionKey := none
    actionRevision := none
    approvalExpiresAt := none
    approvalRequestId := none }

/-- `research_agent`. -/
def researchAgent (limits : AgentLoopLimits) (loop : AgentLoopLimits → LoopAnswer)
    (state : ResearchGraphState) : Except ResearchGraphProtocolError ResearchGraphState := do
  let state ← validatedGraphState libraries.urls state "research_agent"
  let _ ← requiredStateValue state.normalizedQuery "research_agent"
  let _ ← requiredStateValue state.plan "research_agent"
  let nextPass := state.researchPassCount + 1
  if 2 < nextPass then .error (protocolError "invalid_research_pass_count" "research_agent")
  else
    match createAgentResearchNode libraries limits loop (state.researchInput nextPass) with
    | .error error => .error (nodeFailed "research_agent" error.cause)
    | .ok output => mergePass state nextPass output

/-- The transcript of the next pass. -/
def passTranscript (limits : AgentLoopLimits) (loop : AgentLoopLimits → LoopAnswer)
    (state : ResearchGraphState) : List ChatMessage :=
  match researchPassControl (state.researchInput (state.researchPassCount + 1)) limits with
  | .ok passLimits => (loop passLimits).transcript
  | .error _ => []

/-- `INSUFFICIENT_EVIDENCE_DETAIL`. -/
def insufficientEvidenceDetail : String :=
  "The current bounded research pass has insufficient usable evidence."

theorem insufficientEvidenceDetail_text : isText 2000 insufficientEvidenceDetail = true := by
  decide

def insufficientEvidenceLimitation : ResearchLimitationV1 :=
  ⟨.insufficientEvidence, ⟨insufficientEvidenceDetail, insufficientEvidenceDetail_text⟩⟩

/-- `DeterministicEvidenceValidationNode.__call__`. -/
def deterministicEvidenceValidation (evidence : List ResearchEvidenceV1)
    (documentEvidence : List ResearchEvidenceV2) : Bool × List ResearchLimitationV1 :=
  if !evidence.isEmpty || !documentEvidence.isEmpty then (true, [])
  else (false, [insufficientEvidenceLimitation])

/-- `validate_evidence`; its input checks that every evidence item has its source. -/
def validateEvidence (state : ResearchGraphState) :
    Except ResearchGraphFailure ResearchGraphState := do
  let state ← (validatedGraphState libraries.urls state "validate_evidence").mapError .protocol
  let _ ← (requiredStateValue state.plan "validate_evidence").mapError .protocol
  if state.researchPassCount = 0 then
    .error (.protocol (protocolError "invalid_research_pass_count" "validate_evidence"))
  else if !validateEvidenceSources state.sources state.evidence then .error .validation
  else
    let (sufficient, limitations) :=
      deterministicEvidenceValidation state.evidence state.documentEvidence
    return { state with
      evidenceSufficient := some sufficient
      validationLimitations := limitations }

inductive ResearchRoute where
  | researchAgain | writeReport
  deriving DecidableEq, Repr

/-- `route_after_validation`. -/
def routeAfterValidation (state : ResearchGraphState) :
    Except ResearchGraphProtocolError ResearchRoute := do
  let state ← validatedGraphState libraries.urls state "validate_evidence"
  match state.evidenceSufficient, state.researchPassCount with
  | some true, _ => return .writeReport
  | some false, 1 => return .researchAgain
  | some false, 2 => return .writeReport
  | _, _ => .error (protocolError "invalid_research_pass_count" "validate_evidence")

/-- `prepare_action` behind its arguments: the store answers with the approval request, or fails
its node. -/
def prepareActionNode (request : Except ResearchGraphProtocolError UUID)
    (state : ResearchGraphState) :
    Except ResearchGraphProtocolError ResearchGraphState := do
  let _ ← prepareArguments libraries.urls state
  let requestId ← request
  return { state with approvalRequestId := some requestId }

/-- The values that the nodes behind the approval need. -/
def requireAction (nodeName : String) (state : ResearchGraphState) :
    Except ResearchGraphProtocolError Unit := do
  let state ← validatedGraphState libraries.urls state nodeName
  let _ ← requiredStateValue state.actionProposalId nodeName
  let _ ← requiredStateValue state.approvalRequestId nodeName

end Nodes

/-! ## The report -/

section Report
variable (evidence : List ResearchEvidenceV2)

/-- `evidence_by_id.get(evidence_id)`. -/
def evidenceById (evidenceId : Identifier) : Option ResearchEvidenceV2 :=
  dictGet (fun item : ResearchEvidenceV2 => item.val.evidenceId) evidence evidenceId

/-- A citation with the type of its evidence; none is a `KeyError`. -/
def convertCitation (citation : ResearchCitationV1) : Option ResearchCitationV2 := do
  let item ← evidenceById evidence citation.evidenceId
  some { sourceType := item.val.sourceType, sourceId := citation.sourceId,
         evidenceId := citation.evidenceId }

/-- `convert_claim`; none is a `KeyError` or a `ValidationError`. -/
def convertClaim (claim : ResearchClaimV1) : Option ResearchClaimV2 := do
  let citations ← claim.citations.mapM (convertCitation evidence)
  if fits : (1 ≤ citations.length ∧ citations.length ≤ 16) ∧ citations.Nodup then
    some { claimId := claim.claimId, text := claim.text, citations := citations,
           bounded := fits.1, unique := fits.2 }
  else none

def convertDraft : Option ApplicationDraftV1 → Option (Option ApplicationDraftV2)
  | none => some none
  | some draft => do
    let paragraphs ← draft.paragraphs.mapM (convertClaim evidence)
    if fits : 1 ≤ paragraphs.length ∧ paragraphs.length ≤ 32 then some (some ⟨paragraphs, fits⟩)
    else none

end Report

/-- `ResearchSourceV2(source_type="web", …)` of a source. -/
def ResearchSourceV1.web (source : ResearchSourceV1) : ResearchSourceV2 :=
  ⟨{ sourceType := .web, sourceId := source.sourceId, title := source.title,
     url := some source.url, snippet := source.snippet, publishedAt := source.publishedAt,
     documentId := none, sourceName := none }, rfl⟩

/-- `ResearchEvidenceV2(source_type="web", …)` of an evidence item. -/
def ResearchEvidenceV1.web (item : ResearchEvidenceV1) : ResearchEvidenceV2 :=
  ⟨{ sourceType := .web, evidenceId := item.evidenceId, sourceId := item.sourceId,
     text := item.text, documentId := none, chunkId := none, chunkSection := none,
     ordinal := none }, rfl⟩

section Finalize
variable (state : ResearchGraphState) (evidenceSufficient : Bool)
  (writerOutput : WriteReportNodeOutputV1)

/-- The report of a version 1 state. -/
def legacyReport : ResearchOutputV1 where
  evidenceSufficient := evidenceSufficient
  summary := writerOutput.summary
  findings := writerOutput.findings
  evidence := state.evidence
  limitations := mergeLimitations state.validationLimitations writerOutput.limitations
  sources := state.sources
  applicationDraft := writerOutput.applicationDraft

/-- The report of the later versions, its claims converted. -/
def report : Option ResearchOutputV2 := do
  let evidence := state.evidence.map ResearchEvidenceV1.web ++ state.documentEvidence
  let applicationDraft ← convertDraft evidence writerOutput.applicationDraft
  let summary ← writerOutput.summary.mapM (convertClaim evidence)
  let findings ← writerOutput.findings.mapM (convertClaim evidence)
  some { evidenceSufficient := evidenceSufficient, summary := summary, findings := findings,
         evidence := evidence,
         limitations := mergeLimitations state.validationLimitations writerOutput.limitations,
         sources := state.sources.map ResearchSourceV1.web ++ state.documentSources,
         applicationDraft := applicationDraft }

/-- The report, as its contract accepts it. -/
def finalReport : Option ResearchOutput :=
  if state.schemaVersion = 1 then
    let legacy := legacyReport state evidenceSufficient writerOutput
    if legacy.valid then some (.v1 legacy) else none
  else
    match report state evidenceSufficient writerOutput with
    | none => none
    | some output => if output.valid then some (.v2 output) else none

end Finalize

/-- `finalize`. -/
def finalize (urls : SearchUrls) (state : ResearchGraphState) :
    Except ResearchGraphProtocolError ResearchOutput := do
  let state ← validatedGraphState urls state "finalize"
  let evidenceSufficient ← requiredStateValue state.evidenceSufficient "finalize"
  let writerOutput ← requiredStateValue state.writerOutput "finalize"
  if !state.request.includeApplicationDraft && writerOutput.applicationDraft.isSome then
    .error (protocolError "unexpected_application_draft" "finalize")
  else
    match finalReport state evidenceSufficient writerOutput with
    | none => .error (protocolError "invalid_final_output" "finalize")
    | some output => .ok output

/-! ## Runs -/

/-- The nodes, and the end behind them. -/
inductive GraphNode where
  | normalizeRequest | plan | researchAgent | validateEvidence | writeReport | prepareAction
  | approvalInterrupt | executeMockAction | cancelAction | finalize | ended
  deriving DecidableEq, Repr

/-- What surrounds one execution of a node: the answers of models, tools and stores. -/
structure NodeEnvironment where
  plan : Except String ResearchPlanV1
  limits : AgentLoopLimits
  loop : AgentLoopLimits → LoopAnswer
  context : ResearchGraphRuntimeContext
  writer : Nat → WriterAnswer
  approvalRequest : Except ResearchGraphProtocolError UUID
  approval : Except ResearchGraphProtocolError ApprovalStatus
  /-- What the execution of the action, or its cancellation, comes to. -/
  action : Except ResearchGraphProtocolError Unit

/-- A run at its last checkpoint. `transcripts` are those of its passes. -/
structure ResearchRun where
  next : GraphNode
  state : ResearchGraphState
  output : Option ResearchOutput
  transcripts : List (List ChatMessage)

def ResearchGraphInput.run (input : ResearchGraphInput) : ResearchRun :=
  ⟨.normalizeRequest, input.state, none, []⟩

/-- `approval_interrupt`, with the request resolved: it waits on while the request is pending. -/
def approvalRoute : ApprovalStatus → Except ResearchGraphProtocolError GraphNode
  | .pending => .ok .approvalInterrupt
  | .approved => .ok .executeMockAction
  | .rejected | .expired => .ok .cancelAction
  | .consumed => .error (protocolError "invalid_approval_resume" "approval_interrupt")

/-- The next node of a run, up to the checkpoint behind it. -/
def ResearchRun.advance (libraries : ResearchLibraries) (environment : NodeEnvironment)
    (run : ResearchRun) : Except ResearchGraphFailure ResearchRun :=
  match run.next with
  | .normalizeRequest => do
    let state ← (normalizeRequest libraries run.state).mapError .protocol
    return { run with next := .plan, state := state }
  | .plan => do
    let state ← (planNode libraries environment.plan run.state).mapError .protocol
    return { run with next := .researchAgent, state := state }
  | .researchAgent => do
    let state ← (researchAgent libraries environment.limits environment.loop
      run.state).mapError .protocol
    return { run with
      next := .validateEvidence, state := state
      transcripts := run.transcripts ++
        [passTranscript environment.limits environment.loop run.state] }
  | .validateEvidence => do
    let state ← validateEvidence libraries run.state
    let route ← (routeAfterValidation libraries state).mapError .protocol
    return { run with
      next := if route = .researchAgain then .researchAgent else .writeReport, state := state }
  | .writeReport => do
    let state ← (writeReport libraries.urls environment.context environment.writer
      run.state).mapError .protocol
    let route ← (routeAfterWrite libraries.urls state).mapError .protocol
    return { run with
      next := if route = .prepareAction then .prepareAction else .finalize, state := state }
  | .prepareAction => do
    let state ← (prepareActionNode libraries environment.approvalRequest
      run.state).mapError .protocol
    return { run with next := .approvalInterrupt, state := state }
  | .approvalInterrupt => do
    (requireAction libraries "approval_interrupt" run.state).mapError .protocol
    let status ← environment.approval.mapError .protocol
    let next ← (approvalRoute status).mapError .protocol
    return { run with next := next }
  | .executeMockAction => do
    (requireAction libraries "execute_mock_action" run.state).mapError .protocol
    environment.action.mapError .protocol
    return { run with next := .finalize }
  | .cancelAction => do
    (requireAction libraries "cancel_action" run.state).mapError .protocol
    environment.action.mapError .protocol
    return { run with next := .finalize }
  | .finalize => do
    let output ← (finalize libraries.urls run.state).mapError .protocol
    return { run with next := .ended, output := some output }
  | .ended => .ok run

/-- A run of the graph, over any failures and restarts: a node that fails leaves the run at its
last checkpoint. -/
def researchGraph (libraries : ResearchLibraries) (input : ResearchGraphInput) :
    Machines.Machine ResearchRun NodeEnvironment (Option ResearchGraphFailure) where
  start := input.run
  step run environment :=
    match run.advance libraries environment with
    | .ok after => (after, none)
    | .error failure => (run, some failure)

end Pathfinder
