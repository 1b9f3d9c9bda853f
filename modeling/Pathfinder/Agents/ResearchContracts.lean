import Pathfinder.Domain.Research

/-!
# Contracts of the research graph

`agents/research_contracts.py`. How a search URL is put in canonical form and
digested enters as functions; the contracts only compare what they return.
-/
namespace Pathfinder

/-- `canonicalize_search_url` and SHA-256 in hexadecimal. -/
structure SearchUrls where
  canonicalizeSearchUrl : String → Option HttpUrl
  sha256Hex : String → String

/-- `search_source_id`. -/
def SearchUrls.searchSourceId (urls : SearchUrls) (url : String) : Option String :=
  (urls.canonicalizeSearchUrl url).map fun canonical => "web-v1:" ++ urls.sha256Hex canonical

structure ResearchPlanV1 where
  queries : List QueryText
  bounded : 1 ≤ queries.length ∧ queries.length ≤ 8
  unique : queries.Nodup
  deriving DecidableEq

structure SearchTraceResultV1 where
  rank : Nat
  canonicalUrl : HttpUrl
  sourceId : Identifier
  truncated : Bool
  deriving DecidableEq

/-- The bounds of a result and `source_identity_must_match_url`. -/
def SearchTraceResultV1.valid (urls : SearchUrls) (result : SearchTraceResultV1) : Bool :=
  1 ≤ result.rank && result.rank ≤ 8 &&
  urls.canonicalizeSearchUrl result.canonicalUrl == some result.canonicalUrl &&
  urls.searchSourceId result.canonicalUrl == some result.sourceId.val

structure SearchCallTraceV1 where
  researchPassNumber : Nat
  callOrdinal : Nat
  query : QueryText
  maxResults : Nat
  resultCount : Nat
  results : List SearchTraceResultV1
  deriving DecidableEq

/-- The bounds of a call and `result_summary_must_be_consistent`. -/
def SearchCallTraceV1.valid (urls : SearchUrls) (call : SearchCallTraceV1) : Bool :=
  1 ≤ call.researchPassNumber && call.researchPassNumber ≤ 2 &&
  1 ≤ call.callOrdinal && call.callOrdinal ≤ 8 &&
  1 ≤ call.maxResults && call.maxResults ≤ 8 && call.resultCount ≤ 8 &&
  call.results.length ≤ 8 && call.results.all (SearchTraceResultV1.valid urls) &&
  call.resultCount == call.results.length && call.resultCount ≤ call.maxResults &&
  call.results.map SearchTraceResultV1.rank == List.range' 1 call.resultCount &&
  decide (call.results.map SearchTraceResultV1.sourceId).Nodup

structure DocumentRetrievalCallTraceV1 where
  researchPassNumber : Nat
  callOrdinal : Nat
  resultCount : Nat
  documentIds : List UUID
  chunkIds : List UUID
  deriving DecidableEq

/-- The bounds of a call and `results_are_consistent`. -/
def DocumentRetrievalCallTraceV1.valid (call : DocumentRetrievalCallTraceV1) : Bool :=
  1 ≤ call.researchPassNumber && call.researchPassNumber ≤ 2 &&
  1 ≤ call.callOrdinal && call.callOrdinal ≤ 8 && call.resultCount ≤ 5 &&
  call.documentIds.length ≤ 5 && call.chunkIds.length ≤ 5 &&
  call.resultCount == call.chunkIds.length && decide call.chunkIds.Nodup

structure WriteReportNodeInputV1 where
  request : ResearchRequest
  evidence : List ResearchEvidenceV1
  documentEvidence : List ResearchEvidenceV2
  evidenceSufficient : Bool
  validationLimitations : List ResearchLimitationV1

structure WriteReportNodeOutputV1 where
  summary : List ResearchClaimV1
  findings : List ResearchClaimV1
  limitations : List ResearchLimitationV1
  applicationDraft : Option ApplicationDraftV1
  bounded : summary.length ≤ 8 ∧ findings.length ≤ 32 ∧ limitations.length ≤ 8
  deriving DecidableEq

inductive ResearchMode where
  | research | application
  deriving DecidableEq, Repr

/-- `ResearchGraphStateV1`, less its final output, which no node reads. -/
structure ResearchGraphState where
  schemaVersion : Nat
  runId : UUID
  workspaceId : UUID
  actorUserId : UUID
  conversationId : UUID
  mode : ResearchMode
  resumeDocumentId : Option UUID
  request : ResearchRequest
  normalizedQuery : Option QueryText
  plan : Option ResearchPlanV1
  sources : List ResearchSourceV1
  evidence : List ResearchEvidenceV1
  searchCalls : List SearchCallTraceV1
  documentSources : List ResearchSourceV2
  documentEvidence : List ResearchEvidenceV2
  documentRetrievalCalls : List DocumentRetrievalCallTraceV1
  researchPassCount : Nat
  evidenceSufficient : Option Bool
  validationLimitations : List ResearchLimitationV1
  writerOutput : Option WriteReportNodeOutputV1
  actionProposalId : Option UUID
  actionKey : Option String
  actionRevision : Option Int
  approvalExpiresAt : Option Timestamp
  approvalRequestId : Option UUID

/-- `action_proposal_identity_is_all_or_none`. -/
def ResearchGraphState.identityAllOrNone (state : ResearchGraphState) : Bool :=
  ((state.actionProposalId.isSome && state.actionKey.isSome && state.actionRevision.isSome &&
      state.approvalExpiresAt.isSome) ||
    (state.actionProposalId.isNone && state.actionKey.isNone && state.actionRevision.isNone &&
      state.approvalExpiresAt.isNone)) &&
  (state.approvalRequestId.isNone || state.actionProposalId.isSome)

/-- What `ResearchGraphStateV1` checks of a state. -/
def ResearchGraphState.valid (urls : SearchUrls) (state : ResearchGraphState) : Bool :=
  [1, 2, 3].contains state.schemaVersion && isText 2000 state.request.query &&
  state.sources.length ≤ 64 && state.evidence.length ≤ 128 && state.searchCalls.length ≤ 8 &&
  state.searchCalls.all (SearchCallTraceV1.valid urls) &&
  state.documentSources.length ≤ 8 && state.documentEvidence.length ≤ 128 &&
  state.documentRetrievalCalls.length ≤ 8 &&
  state.documentRetrievalCalls.all DocumentRetrievalCallTraceV1.valid &&
  state.researchPassCount ≤ 2 && state.validationLimitations.length ≤ 8 &&
  (state.actionKey.all fun key => key == Pathfinder.actionKey) &&
  (state.actionRevision.all fun revision => 1 ≤ revision) &&
  state.identityAllOrNone

/-!
## The grounding check of the report writer

`agents/research_nodes.py`. Claim identifiers are unique over the three groups
of claims, and each citation names an evidence item together with its source.
-/

/-- `ResearchWriterNodeError`. -/
structure ResearchWriterNodeError where
  category : String
  schemaErrorType : Option String
  schemaErrorPath : Option String
  deriving DecidableEq, Repr

/-- `_writer_grounding_error`. -/
def writerGroundingError (code path : String) : ResearchWriterNodeError :=
  ⟨"invalid_model_grounding", some code, some path⟩

/-- `dict.get` on `{item.evidence_id: item for item in …}`: a later item replaces an earlier
one. Of an item the checks read its source. -/
def citedSource (evidence : List (Identifier × Identifier)) (evidenceId : Identifier) :
    Option Identifier :=
  (evidence.reverse.find? fun item => item.1 = evidenceId).map Prod.snd

/-- The evidence of a state or a node input, web items first. -/
def evidenceSources (evidence : List ResearchEvidenceV1)
    (documentEvidence : List ResearchEvidenceV2) : List (Identifier × Identifier) :=
  evidence.map (fun item => (item.evidenceId, item.sourceId)) ++
    documentEvidence.map fun item => (item.val.evidenceId, item.val.sourceId)

/-- The loop over the citations of a claim, from `index` on. -/
def groundCitations (evidence : List (Identifier × Identifier)) (claimPath : String) :
    Nat → List ResearchCitationV1 → Except ResearchWriterNodeError Unit
  | _, [] => .ok ()
  | index, citation :: rest =>
    let citationPath := claimPath ++ ".citations." ++ toString index
    match citedSource evidence citation.evidenceId with
    | none =>
      .error (writerGroundingError "citation_evidence_unknown" (citationPath ++ ".evidence_id"))
    | some sourceId =>
      if sourceId ≠ citation.sourceId then
        .error (writerGroundingError "citation_source_mismatch" (citationPath ++ ".source_id"))
      else groundCitations evidence claimPath (index + 1) rest

/-- The loop over the claims of a group, from `index` on; it returns the identifiers seen. -/
def groundClaims (evidence : List (Identifier × Identifier)) (groupPath : String) :
    Nat → List Identifier → List ResearchClaimV1 →
      Except ResearchWriterNodeError (List Identifier)
  | _, seenClaimIds, [] => .ok seenClaimIds
  | index, seenClaimIds, claim :: rest => do
    let claimPath := groupPath ++ "." ++ toString index
    if claim.claimId ∈ seenClaimIds then
      .error (writerGroundingError "duplicate_claim_id" (claimPath ++ ".claim_id"))
    groundCitations evidence claimPath 0 claim.citations
    groundClaims evidence groupPath (index + 1) (claim.claimId :: seenClaimIds) rest

/-- `_merge_limitations`, which the grounding check repeats. -/
def mergeLimitations (first second : List ResearchLimitationV1) : List ResearchLimitationV1 :=
  second.foldl (fun merged limitation =>
    if limitation ∈ merged then merged else merged ++ [limitation]) first

/-- The paragraphs of a draft, none without one. -/
def draftClaims (draft : Option ApplicationDraftV1) : List ResearchClaimV1 :=
  draft.elim [] ApplicationDraftV1.paragraphs

/-- The first part of `_validate_writer_grounding`: what the trusted input decides. -/
def checkWriterDecision (output : WriteReportNodeOutputV1) (nodeInput : WriteReportNodeInputV1) :
    Except ResearchWriterNodeError Unit := do
  if !nodeInput.request.includeApplicationDraft && output.applicationDraft.isSome then
    .error (writerGroundingError "application_draft_unexpected" "application_draft")
  if nodeInput.evidenceSufficient then
    match output.limitations.findIdx? fun item => item.code = .insufficientEvidence with
    | some index =>
      .error (writerGroundingError "insufficient_limitation_conflict"
        ("limitations." ++ toString index ++ ".code"))
    | none => .ok ()
    if output.summary.isEmpty && output.findings.isEmpty then
      .error (writerGroundingError "empty_report" "summary")
    if nodeInput.request.includeApplicationDraft &&
        (draftClaims output.applicationDraft).isEmpty then
      .error (writerGroundingError "application_draft_missing" "application_draft")
  else
    if !output.limitations.isEmpty then
      .error (writerGroundingError "unexpected_writer_limitation" "limitations.0")
    if !output.summary.isEmpty then
      .error (writerGroundingError "unsupported_claim" "summary.0")
    if !output.findings.isEmpty then
      .error (writerGroundingError "unsupported_claim" "findings.0")
    if output.applicationDraft.isSome then
      .error (writerGroundingError "unsupported_claim" "application_draft")

/-- `_validate_writer_grounding`. -/
def validateWriterGrounding (output : WriteReportNodeOutputV1)
    (nodeInput : WriteReportNodeInputV1) : Except ResearchWriterNodeError Unit := do
  checkWriterDecision output nodeInput
  let evidence := evidenceSources nodeInput.evidence nodeInput.documentEvidence
  let seen ← groundClaims evidence "summary" 0 [] output.summary
  let seen ← groundClaims evidence "findings" 0 seen output.findings
  let _ ← groundClaims evidence "application_draft.paragraphs" 0 seen
    (draftClaims output.applicationDraft)
  if (mergeLimitations nodeInput.validationLimitations output.limitations).length > 8 then
    .error (writerGroundingError "limitation_overflow" "limitations")

end Pathfinder
