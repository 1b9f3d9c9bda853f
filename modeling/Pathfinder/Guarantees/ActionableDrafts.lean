import Pathfinder.Agents.ResearchActions

/-!
# Which routed drafts become an action

A draft may hold 32 paragraphs of 4,000 characters, the arguments of an action a
cover letter of 20,000. Of the drafts that pass the writer's checks and route a run to
`prepare_action`, those become an action whose joined paragraphs fit that bound, and
nothing else can stop one.
-/
namespace Pathfinder

/-- The characters of the joined paragraphs: two line breaks stand between consecutive ones. -/
def ApplicationDraftV1.joinedLength (draft : ApplicationDraftV1) : Nat :=
  (draft.paragraphs.map fun paragraph => paragraph.text.val.length).sum +
    2 * (draft.paragraphs.length - 1)

theorem intercalate_length (separator : String) (parts : List String) :
    (separator.intercalate parts).length =
      (parts.map String.length).sum + separator.length * (parts.length - 1) := by
  induction parts with
  | nil => simp
  | cons part rest ih =>
    cases rest with
    | nil => simp
    | cons next rest =>
      rw [String.intercalate_cons_cons, String.length_append, String.length_append, ih]
      simp only [List.map_cons, List.sum_cons, List.length_cons, Nat.add_sub_cancel,
        Nat.mul_succ]
      omega

theorem coverLetter_length (draft : ApplicationDraftV1) :
    (coverLetter draft).length = draft.joinedLength := by
  rw [coverLetter, intercalate_length, List.map_map, List.length_map]
  rfl

theorem isBlank_append (first second : String) :
    isBlank (first ++ second) = (isBlank first && isBlank second) := by
  simp [isBlank, String.toList_append]

/-- The first paragraph already shows a character. -/
theorem coverLetter_not_blank (draft : ApplicationDraftV1) :
    isBlank (coverLetter draft) = false := by
  obtain ⟨paragraphs, bounded⟩ := draft
  cases paragraphs with
  | nil => exact absurd bounded.1 (by simp)
  | cons paragraph rest =>
    have shown : isBlank paragraph.text.val = false := by
      have valid := paragraph.text.property
      simp only [isText, Bool.and_eq_true, Bool.not_eq_true'] at valid
      exact valid.2
    cases rest with
    | nil => simpa [coverLetter] using shown
    | cons next rest => simp [coverLetter, isBlank_append, shown]

theorem length_pos_of_not_blank {text : String} (shown : isBlank text = false) :
    1 ≤ text.length := by
  rcases Nat.eq_zero_or_pos text.length with empty | positive
  · rw [String.length_eq_zero_iff.mp empty] at shown
    exact absurd shown (by decide)
  · exact positive

theorem uuidText_length (value : UUID) : (uuidText value).length = 36 := by
  simp [uuidText]

/-- The job reference of a run is in bounds whatever the run's identifier. -/
theorem jobRef_fits (runId : UUID) :
    let jobRef := "pathfinder-mock-job-v1:" ++ String.ofList (uuidText runId)
    1 ≤ jobRef.length ∧ jobRef.length ≤ 500 ∧ isBlank jobRef = false := by
  have identifier : (String.ofList (uuidText runId)).length = 36 := by
    rw [String.length_ofList, uuidText_length]
  have size : ("pathfinder-mock-job-v1:" ++ String.ofList (uuidText runId)).length = 59 := by
    rw [String.length_append, identifier]
    rfl
  refine ⟨by omega, by omega, ?_⟩
  rw [isBlank_append]
  rfl

/-- The length of the cover letter is all that decides whether a draft can be assembled. -/
theorem assembled_iff {writerOutput : WriteReportNodeOutputV1} {draft : ApplicationDraftV1}
    (drafted : writerOutput.applicationDraft = some draft) (runId resumeDocumentId : UUID) :
    (∃ args, assembleSubmitApplicationArgs runId resumeDocumentId writerOutput = .ok args) ↔
      draft.joinedLength ≤ 20000 := by
  obtain ⟨nonempty, short, shown⟩ := jobRef_fits runId
  have written := coverLetter_not_blank draft
  have positive := length_pos_of_not_blank written
  simp only [assembleSubmitApplicationArgs, drafted, SubmitApplicationArgs.validate]
  rw [← coverLetter_length]
  constructor
  · rintro ⟨args, assembled⟩
    split at assembled
    next _ accepted =>
      split at accepted
      next valid =>
        simp only [ArgsSnapshot.valid, Bool.and_eq_true, decide_eq_true_eq] at valid
        exact valid.1.2
      next => cases accepted
    next => cases assembled
  · intro fits
    have valid : ArgsSnapshot.valid
        { jobRef := "pathfinder-mock-job-v1:" ++ String.ofList (uuidText runId)
          resumeDocumentId := resumeDocumentId, answers := [],
          coverLetter := coverLetter draft } = true := by
      simp only [ArgsSnapshot.valid, Bool.and_eq_true, decide_eq_true_eq, Bool.not_eq_true']
      exact ⟨⟨⟨⟨⟨⟨⟨nonempty, short⟩, shown⟩, by simp⟩, rfl⟩, positive⟩, fits⟩, written⟩
    rw [dif_pos valid]
    exact ⟨_, rfl⟩

theorem assembled_or_refused (runId resumeDocumentId : UUID)
    (writerOutput : WriteReportNodeOutputV1) :
    (∃ args, assembleSubmitApplicationArgs runId resumeDocumentId writerOutput = .ok args) ∨
      assembleSubmitApplicationArgs runId resumeDocumentId writerOutput =
        .error (protocolError "invalid_action_payload" "prepare_action") := by
  unfold assembleSubmitApplicationArgs
  split
  · exact .inr rfl
  · split
    · exact .inl ⟨_, rfl⟩
    · exact .inr rfl

/-- Arguments dump to texts and one object of texts, which canonicalization never refuses. -/
theorem dump_canonical (snapshot : ArgsSnapshot) :
    validateCanonicalJson snapshot.dump = .ok () := by
  have texts : ∀ answers : List (String × String),
      validateFields (answers.map fun answer => (answer.1, .str answer.2)) = .ok () := by
    intro answers
    induction answers with
    | nil => rfl
    | cons answer rest ih => exact ih
  simp only [ArgsSnapshot.dump, validateCanonicalJson, validateFields, texts]
  rfl

/-- Validated arguments are canonicalized. -/
theorem canonicalized (digests : Digests) (args : SubmitApplicationArgs) :
    canonicalizeActionArgs digests args.snapshot =
      .ok (args.snapshot, digests.args args.snapshot) := by
  have valid : SubmitApplicationArgs.validate args.snapshot = some args := dif_pos args.validated
  unfold canonicalizeActionArgs
  generalize SubmitApplicationArgs.validate args.snapshot = checked at valid ⊢
  subst valid
  show (validateCanonicalJson args.snapshot.dump).bind _ = _
  rw [dump_canonical]
  rfl

section Routed
variable {urls : SearchUrls} {context : ResearchGraphRuntimeContext}
  {state after : ResearchGraphState}

theorem validatedGraphState_ok {nodeName : String}
    (validated : validatedGraphState urls state nodeName = .ok after) :
    state.valid urls = true ∧ state = after := by
  unfold validatedGraphState at validated
  split at validated
  next valid =>
    cases validated
    exact ⟨valid, rfl⟩
  next => cases validated

/-- What a grounded report leaves in the state. -/
theorem writeReport_effects {answers : Nat → WriterAnswer}
    (written : writeReport urls context answers state = .ok after) :
    ∃ writerOutput, after =
      { state.withProposal context writerOutput with
        writerOutput := some writerOutput, approvalRequestId := none } := by
  unfold writeReport at written
  cases validated : validatedGraphState urls state "write_report" with
  | error reason => simp [validated, bind, Except.bind] at written
  | ok checked =>
    obtain ⟨-, rfl⟩ := validatedGraphState_ok validated
    cases sufficient : state.evidenceSufficient with
    | none => simp [validated, sufficient, requiredStateValue, bind, Except.bind] at written
    | some evidenceSufficient =>
      simp only [validated, sufficient, requiredStateValue, bind, Except.bind] at written
      split at written
      next => cases written
      next writerOutput _ =>
        cases written
        exact ⟨writerOutput, rfl⟩

/-- A proposal is only left for a draft that the state supports. -/
theorem withProposal_supported {writerOutput : WriteReportNodeOutputV1}
    (proposed : (state.withProposal context writerOutput).actionProposalId.isSome = true) :
    hasValidApplicationDraft state writerOutput = true := by
  unfold ResearchGraphState.withProposal at proposed
  split at proposed
  next supported => exact (Bool.and_eq_true _ _ ▸ supported).1
  next => cases proposed

theorem withProposal_resumeDocumentId (writerOutput : WriteReportNodeOutputV1) :
    (state.withProposal context writerOutput).resumeDocumentId = state.resumeDocumentId := by
  unfold ResearchGraphState.withProposal
  split
  · split <;> rfl
  · rfl

theorem supported_draft {writerOutput : WriteReportNodeOutputV1}
    (supported : hasValidApplicationDraft state writerOutput = true) :
    ∃ draft resumeDocumentId, writerOutput.applicationDraft = some draft ∧
      state.resumeDocumentId = some resumeDocumentId := by
  unfold hasValidApplicationDraft at supported
  split at supported
  next => cases supported
  next draft drafted =>
    simp only [Bool.and_eq_true] at supported
    obtain ⟨resumeDocumentId, known⟩ := Option.isSome_iff_exists.mp supported.1.1.2
    exact ⟨draft, resumeDocumentId, drafted, known⟩

theorem routeAfterWrite_prepare (routed : routeAfterWrite urls after = .ok .prepareAction) :
    after.valid urls = true ∧ after.actionProposalId.isSome = true := by
  unfold routeAfterWrite at routed
  cases validated : validatedGraphState urls after "write_report" with
  | error reason => simp [validated, bind, Except.bind] at routed
  | ok checked =>
    obtain ⟨valid, rfl⟩ := validatedGraphState_ok validated
    simp only [validated, bind, Except.bind, pure, Except.pure] at routed
    split at routed
    next proposed => exact ⟨valid, proposed⟩
    next => cases routed

theorem routeAfterWrite_proposed (valid : after.valid urls = true)
    (proposed : after.actionProposalId.isSome = true) :
    routeAfterWrite urls after = .ok .prepareAction := by
  simp only [routeAfterWrite, validatedGraphState, if_pos valid, proposed, bind, Except.bind, pure,
    Except.pure, if_true]

/-- A valid state with a proposal has its whole identity. -/
theorem identity_present (valid : after.valid urls = true)
    (proposed : after.actionProposalId.isSome = true) :
    after.actionKey.isSome = true ∧ after.actionRevision.isSome = true ∧
      after.approvalExpiresAt.isSome = true := by
  simp only [ResearchGraphState.valid, Bool.and_eq_true] at valid
  have complete := valid.2
  simp only [ResearchGraphState.identityAllOrNone, Bool.and_eq_true, Bool.or_eq_true] at complete
  rcases complete.1 with present | absent
  · exact ⟨present.1.1.2, present.1.2, present.2⟩
  · rw [Option.isNone_iff_eq_none.mp absent.1.1.1] at proposed
    cases proposed

/-- In a routed state the arguments are those its report assembles to. -/
theorem prepareArguments_eq {writerOutput : WriteReportNodeOutputV1} {resumeDocumentId : UUID}
    (routed : routeAfterWrite urls after = .ok .prepareAction)
    (reported : after.writerOutput = some writerOutput)
    (known : after.resumeDocumentId = some resumeDocumentId) :
    prepareArguments urls after =
      assembleSubmitApplicationArgs after.runId resumeDocumentId writerOutput := by
  obtain ⟨valid, proposed⟩ := routeAfterWrite_prepare routed
  obtain ⟨key, revision, expiry⟩ := identity_present valid proposed
  obtain ⟨_, proposal⟩ := Option.isSome_iff_exists.mp proposed
  obtain ⟨_, key⟩ := Option.isSome_iff_exists.mp key
  obtain ⟨_, revision⟩ := Option.isSome_iff_exists.mp revision
  obtain ⟨_, expiry⟩ := Option.isSome_iff_exists.mp expiry
  simp only [prepareArguments, validatedGraphState, if_pos valid, requiredStateValue, proposal,
    key, revision, expiry, reported, known, bind, Except.bind]

/-- A report that passes the writer's checks and routes its run to `prepare_action` yields
arguments that canonicalize exactly when its joined paragraphs fit a cover letter. -/
theorem routed_draft_prepared_iff (digests : Digests) {answers : Nat → WriterAnswer}
    (written : writeReport urls context answers state = .ok after)
    (routed : routeAfterWrite urls after = .ok .prepareAction) :
    (∃ args canonical, prepareArguments urls after = .ok args ∧
        canonicalizeActionArgs digests args.snapshot = .ok canonical) ↔
      ∃ writerOutput draft, after.writerOutput = some writerOutput ∧
        writerOutput.applicationDraft = some draft ∧ draft.joinedLength ≤ 20000 := by
  obtain ⟨writerOutput, left⟩ := writeReport_effects written
  have reported : after.writerOutput = some writerOutput := by rw [left]
  have proposed := (routeAfterWrite_prepare routed).2
  rw [left] at proposed
  obtain ⟨draft, resumeDocumentId, drafted, known⟩ :=
    supported_draft (withProposal_supported proposed)
  have located : after.resumeDocumentId = some resumeDocumentId := by
    rw [left]
    exact (withProposal_resumeDocumentId writerOutput).trans known
  rw [prepareArguments_eq routed reported located]
  constructor
  · rintro ⟨args, canonical, assembled, -⟩
    exact ⟨writerOutput, draft, reported, drafted,
      (assembled_iff drafted after.runId resumeDocumentId).mp ⟨args, assembled⟩⟩
  · rintro ⟨found, other, same, shared, fits⟩
    obtain rfl : writerOutput = found := Option.some.inj (reported.symm.trans same)
    obtain rfl : draft = other := Option.some.inj (drafted.symm.trans shared)
    obtain ⟨args, assembled⟩ := (assembled_iff drafted after.runId resumeDocumentId).mpr fits
    exact ⟨args, _, assembled, canonicalized digests args⟩

end Routed

/-! A report whose draft is `paragraphs` paragraphs of `size` letters. -/
namespace LetterDraft

def urls : SearchUrls := { canonicalizeSearchUrl := some, sha256Hex := fun _ => "" }

def digests : Digests :=
  { args := fun _ => "args", target := fun _ => "target", binding := fun _ => "binding"
    submission := fun _ => "submission" }

theorem letters_text {size : Nat} (bounds : 1 ≤ size ∧ size ≤ 4000) :
    isText 4000 (String.ofList (List.replicate size 'a')) = true := by
  obtain ⟨positive, small⟩ := bounds
  have shown : isPythonSpace 'a' = false := by decide
  simp [isText, isBlank, shown, small]
  omega

/-- A claim with one citation of the only evidence. -/
def letterClaim (claimId : Identifier) (size : Nat) (bounds : 1 ≤ size ∧ size ≤ 4000) :
    ResearchClaimV1 :=
  { claimId := claimId
    text := ⟨String.ofList (List.replicate size 'a'), letters_text bounds⟩
    citations := [⟨⟨"web", by decide⟩, ⟨"item", by decide⟩⟩]
    bounded := by decide
    unique := by decide }

def state : ResearchGraphState :=
  { schemaVersion := 3, runId := 7, workspaceId := 1, actorUserId := 2, conversationId := 3
    mode := .application, resumeDocumentId := some 9
    request := { query := "role", includeApplicationDraft := true }
    normalizedQuery := none, plan := none, sources := []
    evidence := [⟨⟨"item", by decide⟩, ⟨"web", by decide⟩, ⟨"fact", by decide⟩⟩]
    searchCalls := [], documentSources := [], documentEvidence := [], documentRetrievalCalls := []
    researchPassCount := 1, evidenceSufficient := some true, validationLimitations := []
    writerOutput := none, actionProposalId := none, actionKey := none, actionRevision := none
    approvalExpiresAt := none, approvalRequestId := none }

def context : ResearchGraphRuntimeContext :=
  { tenant := some { workspaceId := 1, actorUserId := 2, role := .member }
    proposalId := 5, clock := 0, approvalTtl := 3600 }

/-- One finding of one letter, and a draft. -/
def report (draft : ApplicationDraftV1) : WriteReportNodeOutputV1 :=
  { summary := [], findings := [letterClaim ⟨"finding", by decide⟩ 1 (by decide)]
    limitations := [], applicationDraft := some draft, bounded := by decide }

def paragraphIds : List Identifier :=
  [⟨"p1", by decide⟩, ⟨"p2", by decide⟩, ⟨"p3", by decide⟩, ⟨"p4", by decide⟩, ⟨"p5", by decide⟩]

def fiveParagraphs (size : Nat) (bounds : 1 ≤ size ∧ size ≤ 4000) : ApplicationDraftV1 :=
  { paragraphs := paragraphIds.map fun claimId => letterClaim claimId size bounds
    bounded := by simp [paragraphIds] }

theorem fiveParagraphs_length {size : Nat} (bounds : 1 ≤ size ∧ size ≤ 4000) :
    (fiveParagraphs size bounds).joinedLength = 5 * size + 8 := by
  simp [fiveParagraphs, paragraphIds, letterClaim, ApplicationDraftV1.joinedLength]
  omega

/-- The state `write_report` leaves. -/
def written (draft : ApplicationDraftV1) : ResearchGraphState :=
  { state.withProposal context (report draft) with
    writerOutput := some (report draft)
    approvalRequestId := none }

theorem fiveParagraphs_written {size : Nat} (bounds : 1 ≤ size ∧ size ≤ 4000) :
    writeReport urls context (fun _ => .parsed (report (fiveParagraphs size bounds))) state =
      .ok (written (fiveParagraphs size bounds)) := by
  rfl

theorem fitting_routed :
    routeAfterWrite urls (written (fiveParagraphs 3998 (by decide))) = .ok .prepareAction :=
  routeAfterWrite_proposed (by decide +kernel) rfl

theorem overlong_routed :
    routeAfterWrite urls (written (fiveParagraphs 4000 (by decide))) = .ok .prepareAction :=
  routeAfterWrite_proposed (by decide +kernel) rfl

end LetterDraft

/-- Five paragraphs of 3,998 letters and the four gaps leave two characters of the bound. -/
theorem fitting_draft_prepared :
    ∃ args canonical,
      prepareArguments LetterDraft.urls
        (LetterDraft.written (LetterDraft.fiveParagraphs 3998 (by decide))) = .ok args ∧
      canonicalizeActionArgs LetterDraft.digests args.snapshot = .ok canonical :=
  (routed_draft_prepared_iff LetterDraft.digests (LetterDraft.fiveParagraphs_written (by decide))
    LetterDraft.fitting_routed).mpr
    ⟨_, _, rfl, rfl, by rw [LetterDraft.fiveParagraphs_length]; decide⟩

/-- Five full paragraphs pass every check of the writer, are routed to `prepare_action`
and fail there. -/
theorem overlong_draft_refused :
    ∃ after,
      writeReport LetterDraft.urls LetterDraft.context
        (fun _ => .parsed (LetterDraft.report (LetterDraft.fiveParagraphs 4000 (by decide))))
        LetterDraft.state = .ok after ∧
      routeAfterWrite LetterDraft.urls after = .ok .prepareAction ∧
      prepareArguments LetterDraft.urls after =
        .error (protocolError "invalid_action_payload" "prepare_action") := by
  refine ⟨_, LetterDraft.fiveParagraphs_written _, LetterDraft.overlong_routed, ?_⟩
  have long : (LetterDraft.fiveParagraphs 4000 (by decide)).joinedLength = 5 * 4000 + 8 :=
    LetterDraft.fiveParagraphs_length _
  rw [prepareArguments_eq LetterDraft.overlong_routed rfl rfl]
  rcases assembled_or_refused 7 9
    (LetterDraft.report (LetterDraft.fiveParagraphs 4000 (by decide))) with assembled | refused
  · have fits := (assembled_iff rfl 7 9).mp assembled
    omega
  · exact refused

end Pathfinder
