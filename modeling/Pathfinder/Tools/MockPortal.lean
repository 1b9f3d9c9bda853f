import Pathfinder.Domain.Actions
import Pathfinder.Domain.ResumeText
import Pathfinder.Library.Table

/-!
# The mock portal

`mock_portal/service.py` over `db/mock_submissions.py`, and the adapter of
`tools/adapters/mock_portal.py` that reads its responses. An idempotency key is
the UUID it is the text of: an executor never sends another text. A request whose
foreign keys fail is answered by no response the adapter reads.
-/
namespace Pathfinder
open KeyedTable

/-! ## Storing -/

/-- `MockSubmissionRecord`; `request` is what its payload is the dump of. -/
structure MockSubmissionRecord where
  id : UUID
  idempotencyKey : UUID
  request : MockSubmissionRequest
  payloadDigest : String
  externalRef : String
  createdAt : Timestamp
  deriving DecidableEq, Repr

/-- The table `mock_submissions` by its unique idempotency key. -/
abbrev MockSubmissions := Table UUID MockSubmissionRecord

/-- What the database and `uuid4()` give to a new row. -/
structure InsertedFacts where
  id : UUID
  reference : UUID
  createdAt : Timestamp

/-- `StoredMockSubmission`. -/
structure StoredMockSubmission where
  record : MockSubmissionRecord
  created : Bool

/-- `put_if_absent`. A row that is there is returned as it is, whether or not its
facts are those of the request. -/
def putIfAbsent (submissions : MockSubmissions) (request : MockSubmissionRequest)
    (idempotencyKey : UUID) (payloadDigest externalRef : String) (facts : InsertedFacts) :
    MockSubmissions × StoredMockSubmission :=
  match submissions.get idempotencyKey with
  | some record => (submissions, ⟨record, false⟩)
  | none =>
    let record : MockSubmissionRecord :=
      { id := facts.id, idempotencyKey := idempotencyKey, request := request,
        payloadDigest := payloadDigest, externalRef := externalRef,
        createdAt := facts.createdAt }
    (submissions.put idempotencyKey record, ⟨record, true⟩)

/-! ## Serving -/

/-- `f"mock-submission:{uuid4()}"`. -/
def mockExternalRef (reference : UUID) : String :=
  "mock-submission:" ++ String.ofList (uuidText reference)

/-- What comes back from the portal: a row with 200 or 201, 409, 422 or 404. -/
inductive PortalResponse where
  | submission (record : MockSubmissionRecord) (created : Bool)
  | conflict
  | invalid
  | notFound
  deriving DecidableEq, Repr

/-- `MockPortalService.submit` behind its route. -/
def submitMockApplication (digests : Digests) (submissions : MockSubmissions)
    (request : MockSubmissionRequest) (idempotencyKey : UUID) (facts : InsertedFacts) :
    MockSubmissions × PortalResponse :=
  if idempotencyKey ≠ request.actionIntentId then (submissions, .invalid)
  else
    let digest := digests.submission request
    let (after, stored) := putIfAbsent submissions request idempotencyKey digest
      (mockExternalRef facts.reference) facts
    if stored.record.payloadDigest ≠ digest then (after, .conflict)
    else (after, .submission stored.record stored.created)

/-- `MockPortalService.get` behind its route. -/
def getMockApplication (submissions : MockSubmissions) (idempotencyKey : UUID) :
    PortalResponse :=
  match submissions.get idempotencyKey with
  | some record => .submission record false
  | none => .notFound

/-! ## Reading the responses -/

/-- The three exceptions of the adapter. -/
inductive MockPortalError where
  | transport
  | conflict
  | rejected
  deriving DecidableEq, Repr

/-- `MockPortalEvidence`. -/
structure MockPortalEvidence where
  externalRef : String
  payloadDigest : String
  deriving DecidableEq, Repr

/-- The comparison of a response with the request it answers. -/
def answersRequest (digests : Digests) (request : MockSubmissionRequest) (idempotencyKey : UUID)
    (record : MockSubmissionRecord) : Bool :=
  record.request.workspaceId == request.workspaceId &&
  record.request.originatingActorUserId == request.originatingActorUserId &&
  record.request.runId == request.runId &&
  record.request.actionIntentId == request.actionIntentId &&
  record.idempotencyKey == idempotencyKey &&
  record.payloadDigest == digests.submission request

/-- `MockPortalHTTPAdapter.submit`; no response where the HTTP client raises. -/
def readSubmitted (digests : Digests) (request : MockSubmissionRequest) (idempotencyKey : UUID) :
    Option PortalResponse → Except MockPortalError String
  | some .conflict => .error .conflict
  | some .invalid => .error .rejected
  | some (.submission record _) =>
    if answersRequest digests request idempotencyKey record then .ok record.externalRef
    else .error .transport
  | some .notFound | none => .error .transport

/-- `MockPortalHTTPAdapter.get_by_idempotency_key`. -/
def readFound (digests : Digests) (request : MockSubmissionRequest) (idempotencyKey : UUID) :
    Option PortalResponse → Except MockPortalError (Option MockPortalEvidence)
  | some .notFound => .ok none
  | some (.submission record _) =>
    if answersRequest digests request idempotencyKey record then
      .ok (some ⟨record.externalRef, record.payloadDigest⟩)
    else .error .transport
  | some .conflict | some .invalid | none => .error .transport

/-- Only a 404 is read as absence. -/
theorem readFound_none {digests : Digests} {request : MockSubmissionRequest} {key : UUID}
    {response : Option PortalResponse} (absent : readFound digests request key response = .ok none) :
    response = some .notFound := by
  unfold readFound at absent
  split at absent
  · rfl
  · split at absent <;> cases absent
  all_goals cases absent

/-! ## What the portal keeps -/

/-- A stored row is under its key, which is its intent, and carries the digest of
its request. -/
structure StoredUnder (digests : Digests) (key : UUID) (record : MockSubmissionRecord) : Prop where
  keyed : record.idempotencyKey = key
  intent : record.request.actionIntentId = key
  digest : record.payloadDigest = digests.submission record.request

/-- Every stored row is. -/
def PortalSound (digests : Digests) (submissions : MockSubmissions) : Prop :=
  ∀ key record, submissions.get key = some record → StoredUnder digests key record

section Serving
variable {digests : Digests} {submissions : MockSubmissions} {request : MockSubmissionRequest}
  {idempotencyKey : UUID} {facts : InsertedFacts}

variable (digests submissions request idempotencyKey facts) in
/-- A POST leaves the table as it was, or stores its request under a new key. -/
theorem submitMockApplication_cases :
    (submitMockApplication digests submissions request idempotencyKey facts).1 = submissions ∨
      ∃ record, submissions.get idempotencyKey = none ∧
        StoredUnder digests idempotencyKey record ∧
        record.request = request ∧
        (submitMockApplication digests submissions request idempotencyKey facts).1 =
          submissions.put idempotencyKey record := by
  unfold submitMockApplication putIfAbsent
  split
  · exact .inl rfl
  next agrees =>
    have agrees : idempotencyKey = request.actionIntentId := not_not.mp agrees
    cases stored : submissions.get idempotencyKey with
    | some record =>
      left
      dsimp only
      split <;> rfl
    | none =>
      right
      refine ⟨⟨facts.id, idempotencyKey, request, digests.submission request,
        mockExternalRef facts.reference, facts.createdAt⟩, rfl, ⟨rfl, agrees.symm, rfl⟩, rfl, ?_⟩
      dsimp only
      split <;> rfl

theorem submitMockApplication_sound (sound : PortalSound digests submissions) :
    PortalSound digests
      (submitMockApplication digests submissions request idempotencyKey facts).1 := by
  rcases submitMockApplication_cases digests submissions request idempotencyKey facts with
    same | ⟨record, absent, under, -, written⟩
  · rwa [same]
  · rw [written]
    exact Table.forall_put sound under

/-- A stored row is never replaced. -/
theorem submitMockApplication_keeps {key : UUID} {record : MockSubmissionRecord}
    (stored : submissions.get key = some record) :
    (submitMockApplication digests submissions request idempotencyKey facts).1.get key =
      some record := by
  rcases submitMockApplication_cases digests submissions request idempotencyKey facts with
    same | ⟨written, absent, -, -, put⟩
  · rwa [same]
  · rw [put, Table.put_get_of_ne _ _ ?_]
    · exact stored
    · rintro rfl
      rw [absent] at stored
      cases stored

/-- A row in a response is stored. -/
theorem submitMockApplication_stored {record : MockSubmissionRecord} {created : Bool}
    (answered : (submitMockApplication digests submissions request idempotencyKey facts).2 =
      .submission record created) :
    (submitMockApplication digests submissions request idempotencyKey facts).1.get
      idempotencyKey = some record := by
  unfold submitMockApplication putIfAbsent at answered ⊢
  split
  next differs =>
    rw [if_pos differs] at answered
    cases answered
  next agrees =>
    rw [if_neg agrees] at answered
    cases stored : submissions.get idempotencyKey with
    | some there =>
      rw [stored] at answered
      dsimp only at answered ⊢
      split at answered
      · cases answered
      next same =>
        cases answered
        rw [if_neg same]
        exact stored
    | none =>
      rw [stored] at answered
      dsimp only at answered ⊢
      split at answered
      · cases answered
      next same =>
        cases answered
        rw [if_neg same]
        exact Table.put_get_self _ _ _

/-- A POST is never answered with absence. -/
theorem submitMockApplication_found :
    (submitMockApplication digests submissions request idempotencyKey facts).2 ≠ .notFound := by
  unfold submitMockApplication
  split
  · exact nofun
  · dsimp only
    split <;> exact nofun

end Serving
end Pathfinder
