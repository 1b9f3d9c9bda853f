import Pathfinder.Domain.Actions
import Pathfinder.Domain.ResumeText

/-!
# The research contracts

`domain/research.py`. A parsed URL is its normal text; strings that pydantic has
constrained have no lone surrogates, so they are Lean's.
-/
namespace Pathfinder

/-- `StringConstraints(min_length=1, max_length=bound)` followed by `_non_blank`. -/
def isText (bound : Nat) (value : String) : Bool :=
  1 ≤ value.length && value.length ≤ bound && !isBlank value

abbrev QueryText := { value : String // isText 2000 value = true }
abbrev TitleText := { value : String // isText 500 value = true }
abbrev BodyText := { value : String // isText 4000 value = true }
abbrev PublishedAtText := { value : String // isText 64 value = true }
abbrev LimitationDetailText := { value : String // isText 2000 value = true }
abbrev SnippetText := { value : String // value.length ≤ 4000 }

/-- `^[A-Za-z0-9][A-Za-z0-9._:-]*$`, of at most 128 characters. -/
def isIdentifier (value : String) : Bool :=
  match value.toList with
  | [] => false
  | first :: rest =>
    first.isAlphanum && (rest.all fun c => c.isAlphanum || "._:-".toList.contains c) &&
      rest.length + 1 ≤ 128

abbrev Identifier := { value : String // isIdentifier value = true }

/-- `str(AnyHttpUrl(...))`. -/
abbrev HttpUrl := String

/-- `f"workspace-document-v1:{document_id}"`. -/
def documentSourceId (documentId : UUID) : String :=
  "workspace-document-v1:" ++ String.ofList (uuidText documentId)

/-- `f"workspace-chunk-v1:{chunk_id}"`. -/
def chunkEvidenceId (chunkId : UUID) : String :=
  "workspace-chunk-v1:" ++ String.ofList (uuidText chunkId)

structure ResearchSourceV1 where
  sourceId : Identifier
  title : TitleText
  url : HttpUrl
  snippet : SnippetText
  publishedAt : Option PublishedAtText
  deriving DecidableEq

structure ResearchEvidenceV1 where
  evidenceId : Identifier
  sourceId : Identifier
  text : BodyText
  deriving DecidableEq

structure ResearchCitationV1 where
  sourceId : Identifier
  evidenceId : Identifier
  deriving DecidableEq

/-- A citation is its pair of identifiers, so unique pairs are unique citations. -/
structure ResearchClaimV1 where
  claimId : Identifier
  text : BodyText
  citations : List ResearchCitationV1
  bounded : 1 ≤ citations.length ∧ citations.length ≤ 16
  unique : citations.Nodup
  deriving DecidableEq

structure ApplicationDraftV1 where
  paragraphs : List ResearchClaimV1
  bounded : 1 ≤ paragraphs.length ∧ paragraphs.length ≤ 32
  deriving DecidableEq

inductive ResearchLimitationCode where
  | insufficientEvidence | conflictingEvidence
  deriving DecidableEq, Repr

structure ResearchLimitationV1 where
  code : ResearchLimitationCode
  detail : LimitationDetailText
  deriving DecidableEq

inductive ResearchSourceTypeV2 where
  | web | workspaceDocument
  deriving DecidableEq, Repr

structure SourceFieldsV2 where
  sourceType : ResearchSourceTypeV2
  sourceId : Identifier
  title : TitleText
  url : Option HttpUrl
  snippet : SnippetText
  publishedAt : Option PublishedAtText
  documentId : Option UUID
  sourceName : Option TitleText
  deriving DecidableEq

/-- `identity_matches_type`. -/
def SourceFieldsV2.identityMatchesType (source : SourceFieldsV2) : Bool :=
  match source.sourceType with
  | .web => source.url.isSome && source.documentId.isNone && source.sourceName.isNone
  | .workspaceDocument =>
    source.url.isNone && source.documentId.isSome && source.sourceName.isSome &&
      some source.sourceId.val == source.documentId.map documentSourceId

/-- `ResearchSourceV2`. -/
abbrev ResearchSourceV2 := { source : SourceFieldsV2 // source.identityMatchesType = true }

structure EvidenceFieldsV2 where
  sourceType : ResearchSourceTypeV2
  evidenceId : Identifier
  sourceId : Identifier
  text : BodyText
  documentId : Option UUID
  chunkId : Option UUID
  chunkSection : Option { value : String // value.length ≤ 800 }
  ordinal : Option Nat
  deriving DecidableEq

/-- `identity_matches_type`. -/
def EvidenceFieldsV2.identityMatchesType (evidence : EvidenceFieldsV2) : Bool :=
  match evidence.sourceType with
  | .web =>
    evidence.documentId.isNone && evidence.chunkId.isNone && evidence.chunkSection.isNone &&
      evidence.ordinal.isNone
  | .workspaceDocument =>
    evidence.documentId.isSome && evidence.chunkId.isSome && evidence.ordinal.isSome &&
      some evidence.sourceId.val == evidence.documentId.map documentSourceId &&
      some evidence.evidenceId.val == evidence.chunkId.map chunkEvidenceId

/-- `ResearchEvidenceV2`. -/
abbrev ResearchEvidenceV2 := { evidence : EvidenceFieldsV2 // evidence.identityMatchesType = true }

structure ResearchCitationV2 where
  sourceType : ResearchSourceTypeV2
  sourceId : Identifier
  evidenceId : Identifier
  deriving DecidableEq

/-- A citation is its three identities, so unique identities are unique citations. -/
structure ResearchClaimV2 where
  claimId : Identifier
  text : BodyText
  citations : List ResearchCitationV2
  bounded : 1 ≤ citations.length ∧ citations.length ≤ 16
  unique : citations.Nodup
  deriving DecidableEq

structure ApplicationDraftV2 where
  paragraphs : List ResearchClaimV2
  bounded : 1 ≤ paragraphs.length ∧ paragraphs.length ≤ 32
  deriving DecidableEq

structure ResearchOutputV1 where
  evidenceSufficient : Bool
  summary : List ResearchClaimV1
  findings : List ResearchClaimV1
  evidence : List ResearchEvidenceV1
  limitations : List ResearchLimitationV1
  sources : List ResearchSourceV1
  applicationDraft : Option ApplicationDraftV1
  deriving DecidableEq

/-- `_all_claims`. -/
def ResearchOutputV1.claims (output : ResearchOutputV1) : List ResearchClaimV1 :=
  output.summary ++ output.findings ++ output.applicationDraft.elim [] ApplicationDraftV1.paragraphs

/-- `dict.get` on `{key: item for item in …}`: a later item replaces an earlier one. -/
def dictGet {Key Item : Type} [DecidableEq Key] (key : Item → Key) (items : List Item)
    (wanted : Key) : Option Item :=
  items.reverse.find? fun item => key item = wanted

/-- `_validate_evidence_sources`. -/
def validateEvidenceSources (sources : List ResearchSourceV1) (evidence : List ResearchEvidenceV1) :
    Bool :=
  decide (sources.map ResearchSourceV1.sourceId).Nodup &&
    decide (evidence.map ResearchEvidenceV1.evidenceId).Nodup &&
    evidence.all fun item => decide (item.sourceId ∈ sources.map ResearchSourceV1.sourceId)

/-- What a report's decision asks of it; `grounded` says that it has sources and evidence. -/
def decisionHolds (evidenceSufficient grounded claimed drafted : Bool)
    (limitations : List ResearchLimitationV1) : Bool :=
  let insufficient := limitations.any fun item => item.code = .insufficientEvidence
  if evidenceSufficient then grounded && claimed && !insufficient
  else !claimed && !drafted && insufficient

/-- The bounds of a report and `output_must_be_internally_consistent`. -/
def ResearchOutputV1.valid (output : ResearchOutputV1) : Bool :=
  output.summary.length ≤ 8 && output.findings.length ≤ 32 && output.evidence.length ≤ 128 &&
    output.limitations.length ≤ 8 && output.sources.length ≤ 64 &&
    validateEvidenceSources output.sources output.evidence &&
    decide (output.claims.map ResearchClaimV1.claimId).Nodup &&
    (output.claims.all fun claim => claim.citations.all fun citation =>
      (dictGet ResearchEvidenceV1.evidenceId output.evidence citation.evidenceId).any fun item =>
        item.sourceId = citation.sourceId) &&
    decisionHolds output.evidenceSufficient (!output.sources.isEmpty && !output.evidence.isEmpty)
      (!output.summary.isEmpty || !output.findings.isEmpty) output.applicationDraft.isSome
      output.limitations

structure ResearchOutputV2 where
  evidenceSufficient : Bool
  summary : List ResearchClaimV2
  findings : List ResearchClaimV2
  evidence : List ResearchEvidenceV2
  limitations : List ResearchLimitationV1
  sources : List ResearchSourceV2
  applicationDraft : Option ApplicationDraftV2
  deriving DecidableEq

def ResearchOutputV2.claims (output : ResearchOutputV2) : List ResearchClaimV2 :=
  output.summary ++ output.findings ++ output.applicationDraft.elim [] ApplicationDraftV2.paragraphs

/-- The source that an evidence item names has its type, and its document if it is one's. -/
def ResearchOutputV2.evidencePlaced (output : ResearchOutputV2) (item : ResearchEvidenceV2) :
    Bool :=
  (dictGet (fun source : ResearchSourceV2 => source.val.sourceId) output.sources
    item.val.sourceId).any fun source =>
      source.val.sourceType = item.val.sourceType &&
        (item.val.sourceType ≠ .workspaceDocument || source.val.documentId = item.val.documentId)

/-- A citation names a source and an evidence item of its type, and the item that source. -/
def ResearchOutputV2.citationResolves (output : ResearchOutputV2) (citation : ResearchCitationV2) :
    Bool :=
  (dictGet (fun source : ResearchSourceV2 => source.val.sourceId) output.sources
    citation.sourceId).any fun source =>
  (dictGet (fun item : ResearchEvidenceV2 => item.val.evidenceId) output.evidence
    citation.evidenceId).any fun item =>
      source.val.sourceType = citation.sourceType && item.val.sourceType = citation.sourceType &&
        item.val.sourceId = citation.sourceId

/-- The bounds of a report and `output_must_be_internally_consistent`. -/
def ResearchOutputV2.valid (output : ResearchOutputV2) : Bool :=
  output.summary.length ≤ 8 && output.findings.length ≤ 32 && output.evidence.length ≤ 128 &&
    output.limitations.length ≤ 8 && output.sources.length ≤ 64 &&
    decide (output.sources.map fun source => source.val.sourceId).Nodup &&
    decide (output.evidence.map fun item => item.val.evidenceId).Nodup &&
    output.evidence.all output.evidencePlaced &&
    decide (output.claims.map ResearchClaimV2.claimId).Nodup &&
    (output.claims.all fun claim => claim.citations.all output.citationResolves) &&
    decisionHolds output.evidenceSufficient (!output.sources.isEmpty && !output.evidence.isEmpty)
      (!output.summary.isEmpty || !output.findings.isEmpty) output.applicationDraft.isSome
      output.limitations

/-- `ResearchOutput`. -/
inductive ResearchOutput where
  | v1 (output : ResearchOutputV1)
  | v2 (output : ResearchOutputV2)
  deriving DecidableEq

end Pathfinder
