import Pathfinder.Db.Actions
import Pathfinder.Domain.JsonMeaning
import Pathfinder.Guarantees.ApprovalChain
import Pathfinder.Guarantees.SnapshotIdentity

/-!
# What an approval binds

Canonical bytes tell JSON values apart and nothing but them. So an intent that passes the check of
its binding is the one whose digests the request took when it was proposed.
-/
namespace Pathfinder

attribute [local instance (2000)] List.decidableBAll ByteArray.instDecidableEq

/-- A value that Python holds. -/
structure PythonValue where
  value : JsonValue
  held : Held value

/-- Arguments of an action are the same where their dictionaries are. -/
structure SameArguments (first second : ArgsSnapshot) : Prop where
  jobRef : first.jobRef = second.jobRef
  document : first.resumeDocumentId = second.resumeDocumentId
  answers : first.answers.Perm second.answers
  coverLetter : first.coverLetter = second.coverLetter

/-- The intent is what the command proposed, and the request was made under its policy. -/
structure AsProposed (command : PrepareActionCommand) (intent : ActionIntent)
    (request : ApprovalRequest) : Prop where
  arguments : SameArguments command.args.snapshot intent.argsSnapshot
  target : intent.targetSnapshot = trustedActionTarget
  tool : intent.toolName = submitApplicationToolName
  effect : intent.effect = .irreversible
  action : intent.id = command.actionProposalId
  key : intent.actionKey = command.actionKey
  revision : intent.actionRevision = command.actionRevision
  run : intent.runId = command.runId
  workspace : intent.workspaceId = command.tenant.workspaceId
  policy : request.policyVersion = policyVersion

/-- Identities have 128 bits, and the answers are a dictionary. -/
structure ArgsSnapshot.Held (snapshot : ArgsSnapshot) : Prop where
  document : snapshot.resumeDocumentId < 2 ^ 128
  answers : (snapshot.answers.map Prod.fst).Nodup

structure ApprovalBinding.Sized (binding : ApprovalBinding) : Prop where
  workspace : binding.workspaceId < 2 ^ 128
  run : binding.runId < 2 ^ 128
  action : binding.actionIntentId < 2 ^ 128

/-! ## Dumps -/

section Dumps
variable {snapshot other : ArgsSnapshot} {binding binding' : ApprovalBinding}

theorem ArgsSnapshot.plain (held : snapshot.Held) : Plain snapshot.dump := by
  have answers : Plain (.dict (snapshot.answers.map fun answer => (answer.1, .str answer.2))) := by
    refine .dict ?_ (List.forall_mem_map.mpr fun answer _ => .str _)
    rw [List.map_map]
    exact held.answers
  refine .dict (by simp only [List.map_cons, List.map_nil]; decide) ?_
  simp only [List.forall_mem_cons]
  exact ⟨.str _, .str _, answers, .str _, nofun⟩

theorem ApprovalBinding.plain (binding : ApprovalBinding) : Plain binding.dump := by
  refine .dict (by simp only [List.map_cons, List.map_nil]; decide) ?_
  simp only [List.forall_mem_cons]
  exact ⟨.int _, .str _, .str _, .str _, .str _, .int _, .str _, .str _, .str _, .str _, .int _,
    nofun⟩

theorem answer_iff {answers : List (String × String)} (distinct : (answers.map Prod.fst).Nodup)
    {key text : String} :
    meaningAt key (answers.map fun answer => (answer.1, .str answer.2)) = some (.str text) ↔
      (key, text) ∈ answers := by
  have keys : ((answers.map fun answer => (answer.1, JsonValue.str answer.2)).map
      Prod.fst).Nodup := by
    rw [List.map_map]
    exact distinct
  rw [meaningAt_eq_some keys]
  constructor
  · rintro ⟨item, member, meaning⟩
    obtain ⟨answer, here, same⟩ := List.mem_map.mp member
    cases same
    cases meaning
    exact here
  · exact fun member => ⟨.str text, List.mem_map_of_mem member, rfl⟩

/-- What the dumped arguments mean is the arguments. -/
theorem sameArguments (held : snapshot.Held) (held' : other.Held)
    (same : snapshot.dump.meaning = other.dump.meaning) : SameArguments snapshot other := by
  have at_ := congrFun (JsonMeaning.dict.inj same)
  have jobRef : snapshot.jobRef = other.jobRef :=
    JsonMeaning.str.inj (Option.some.inj (at_ "job_ref"))
  have document := String.ofList_inj.mp
    (JsonMeaning.str.inj (Option.some.inj (at_ "resume_document_id")))
  have letter : snapshot.coverLetter = other.coverLetter :=
    JsonMeaning.str.inj (Option.some.inj (at_ "cover_letter"))
  have answers := congrFun (JsonMeaning.dict.inj (Option.some.inj (at_ "answers")))
  refine ⟨jobRef, uuidText_injective held.document held'.document document, ?_, letter⟩
  refine (List.perm_ext_iff_of_nodup held.answers.of_map held'.answers.of_map).mpr fun answer => ?_
  rw [← answer_iff held.answers, ← answer_iff held'.answers, answers]

/-- What the dumped binding means is the binding. -/
theorem sameBinding (sized : binding.Sized) (sized' : binding'.Sized)
    (same : binding.dump.meaning = binding'.dump.meaning) : binding = binding' := by
  have at_ := congrFun (JsonMeaning.dict.inj same)
  have text {first second : String} (here : some (JsonMeaning.str first) = some (.str second)) :
      first = second := JsonMeaning.str.inj (Option.some.inj here)
  have number {first second : Int} (here : some (JsonMeaning.int first) = some (.int second)) :
      first = second := JsonMeaning.int.inj (Option.some.inj here)
  have identity {first second : UUID} (small : first < 2 ^ 128) (small' : second < 2 ^ 128)
      (here : some (JsonMeaning.str (String.ofList (uuidText first))) =
        some (.str (String.ofList (uuidText second)))) : first = second :=
    uuidText_injective small small' (String.ofList_inj.mp (text here))
  have effects : Function.Injective ToolEffect.value := by
    intro first second equal
    cases first <;> cases second <;> first | rfl | exact absurd equal (by decide)
  have workspace := identity sized.workspace sized'.workspace (at_ "workspace_id")
  have run := identity sized.run sized'.run (at_ "run_id")
  have action := identity sized.action sized'.action (at_ "action_intent_id")
  have key := text (at_ "action_key")
  have revision := number (at_ "action_revision")
  have tool := text (at_ "tool_name")
  have effect := effects (text (at_ "effect"))
  have args := text (at_ "args_digest")
  have target := text (at_ "target_digest")
  have policy := number (at_ "policy_version")
  cases binding
  cases binding'
  rw [ApprovalBinding.mk.injEq]
  exact ⟨workspace, run, action, key, revision, tool, effect, args, target, policy⟩

end Dumps

/-! ## The chain of digests -/

section Chain
variable {sha256 : ByteArray → Text} {submission : MockSubmissionRequest → String}
  {digests : Digests} {command : PrepareActionCommand} {intent : ActionIntent}
  {request : ApprovalRequest}

/-- The binding of a proposal. -/
def proposedBinding (digests : Digests) (command : PrepareActionCommand) : ApprovalBinding where
  workspaceId := command.tenant.workspaceId
  runId := command.runId
  actionIntentId := command.actionProposalId
  actionKey := command.actionKey
  actionRevision := command.actionRevision
  toolName := submitApplicationToolName
  effect := .irreversible
  argsDigest := digests.args command.args.snapshot
  targetDigest := digests.target trustedActionTarget
  policyVersion := policyVersion

/-- What is hashed for the arguments and the bindings of a proposal and of its check. -/
def hashedOfBoth (digests : Digests) (command : PrepareActionCommand) (intent : ActionIntent)
    (request : ApprovalRequest) : Set ByteArray :=
  {hashedBytes argsDigestPrefix command.args.snapshot.dump,
    hashedBytes argsDigestPrefix intent.argsSnapshot.dump,
    hashedBytes bindingDigestPrefix (proposedBinding digests command).dump,
    hashedBytes bindingDigestPrefix (approvalBindingOf intent request).dump}

/-- Values with one digest have one meaning where their bytes do not collide. -/
theorem meaning_of_digest {texts : Set ByteArray} (free : Set.InjOn sha256 texts) {domain : Text}
    {value other : JsonValue} (here : hashedBytes domain value ∈ texts)
    (there : hashedBytes domain other ∈ texts) (plain : Plain value) (plain' : Plain other)
    (same : digest sha256 domain value = digest sha256 domain other) :
    value.meaning = other.meaning := by
  have hex := congrArg String.toList same
  simp only [digest, String.toList_append, String.toList_ofList] at hex
  have bytes := free here there (List.append_cancel_left hex)
  exact dumps_injective plain plain' ((ByteArray.append_right_inj _).mp bytes)

/-- What the check compares. -/
theorem validateExactApprovalBinding_iff :
    validateExactApprovalBinding digests intent request = .ok () ↔
      bindingFactsAgree intent request = true ∧ intent.argsSnapshot.valid = true ∧
        digests.args intent.argsSnapshot = intent.argsDigest ∧
        trustedActionTarget = intent.targetSnapshot ∧
        digests.target trustedActionTarget = intent.targetDigest ∧
        digests.binding (approvalBindingOf intent request) = intent.approvalBindingDigest := by
  rw [validateExactApprovalBinding]
  cases bindingFactsAgree intent request with
  | false =>
    refine iff_of_false (fun accepted => ?_) fun parts => ?_
    · cases accepted
    · cases parts.1
  | true =>
    rw [if_neg (by simp)]
    by_cases valid : intent.argsSnapshot.valid = true
    · simp only [SubmitApplicationArgs.validate, dif_pos valid]
      split
      next differs =>
        refine iff_of_false (fun accepted => ?_) fun parts => ?_
        · cases accepted
        · rcases differs with same | same | same | same
          · exact same rfl
          · exact same parts.2.2.1
          · exact same parts.2.2.2.1
          · exact same parts.2.2.2.2.1
      next agree =>
        simp only [ne_eq, not_true_eq_false, false_or, not_or, not_not] at agree
        split
        next differs =>
          refine iff_of_false (fun accepted => ?_) fun parts => differs parts.2.2.2.2.2
          cases accepted
        next binding =>
          exact iff_of_true rfl ⟨trivial, valid, agree.1, agree.2.1, agree.2.2, not_not.mp binding⟩
    · simp only [SubmitApplicationArgs.validate, dif_neg valid]
      refine iff_of_false (fun accepted => ?_) fun parts => valid parts.2.1
      cases accepted

theorem approval_binds
    (free : Set.InjOn sha256
      (hashedOfBoth (canonicalDigests sha256 submission) command intent request))
    (held : command.args.snapshot.Held) (held' : intent.argsSnapshot.Held)
    (sized : (proposedBinding (canonicalDigests sha256 submission) command).Sized)
    (sized' : (approvalBindingOf intent request).Sized)
    (proposed : request.approvalBindingDigest =
      (deriveFacts (canonicalDigests sha256 submission) command).approvalBindingDigest)
    (accepted : validateExactApprovalBinding (canonicalDigests sha256 submission) intent request =
      .ok ()) : AsProposed command intent request := by
  obtain ⟨agree, -, args, target, -, binding⟩ := validateExactApprovalBinding_iff.mp accepted
  simp only [bindingFactsAgree, Bool.and_eq_true, beq_iff_eq] at agree
  have requested : request.approvalBindingDigest = intent.approvalBindingDigest := agree.1.2
  have chain : digest sha256 bindingDigestPrefix
      (proposedBinding (canonicalDigests sha256 submission) command).dump =
        digest sha256 bindingDigestPrefix (approvalBindingOf intent request).dump :=
    proposed.symm.trans (requested.trans binding.symm)
  have whole := sameBinding sized sized' (meaning_of_digest free (.inr (.inr (.inl rfl)))
    (.inr (.inr (.inr rfl))) (ApprovalBinding.plain _) (ApprovalBinding.plain _) chain)
  have digests : digest sha256 argsDigestPrefix command.args.snapshot.dump =
      digest sha256 argsDigestPrefix intent.argsSnapshot.dump :=
    (congrArg ApprovalBinding.argsDigest whole).trans args.symm
  have arguments := sameArguments held held' (meaning_of_digest free (.inl rfl) (.inr (.inl rfl))
    (ArgsSnapshot.plain held) (ArgsSnapshot.plain held') digests)
  exact
    { arguments
      target := target.symm
      tool := (congrArg ApprovalBinding.toolName whole).symm
      effect := (congrArg ApprovalBinding.effect whole).symm
      action := (congrArg ApprovalBinding.actionIntentId whole).symm
      key := (congrArg ApprovalBinding.actionKey whole).symm
      revision := (congrArg ApprovalBinding.actionRevision whole).symm
      run := (congrArg ApprovalBinding.runId whole).symm
      workspace := (congrArg ApprovalBinding.workspaceId whole).symm
      policy := (congrArg ApprovalBinding.policyVersion whole).symm }

end Chain

/-! ## The guarantee -/

/-- Accepted bytes are those of the values of one meaning, they are read as a value with the same
bytes, and a passed check binds the intent to the proposal of the request's digest. -/
theorem canonical_json_binds :
    (∀ (value other : PythonValue) (bytes : ByteArray),
      canonicalJsonBytes value.value = .ok bytes →
        (canonicalJsonBytes other.value = .ok bytes ↔
          other.value.meaning = value.value.meaning)) ∧
    (∀ (value : PythonValue) (bytes : ByteArray), canonicalJsonBytes value.value = .ok bytes →
      ∃ parsed : PythonValue, loads bytes = some parsed.value ∧
        canonicalJsonBytes parsed.value = .ok bytes) ∧
    ∀ (sha256 : ByteArray → Text) (submission : MockSubmissionRequest → String)
      (command : PrepareActionCommand) (intent : ActionIntent) (request : ApprovalRequest),
      Set.InjOn sha256
        (hashedOfBoth (canonicalDigests sha256 submission) command intent request) →
      command.args.snapshot.Held → intent.argsSnapshot.Held →
      (proposedBinding (canonicalDigests sha256 submission) command).Sized →
      (approvalBindingOf intent request).Sized →
      request.approvalBindingDigest =
        (deriveFacts (canonicalDigests sha256 submission) command).approvalBindingDigest →
      validateExactApprovalBinding (canonicalDigests sha256 submission) intent request = .ok () →
        AsProposed command intent request := by
  refine ⟨fun value other bytes => canonicalJsonBytes_iff value.held other.held,
    fun value bytes accepted => ?_, fun _ _ _ _ _ => approval_binds⟩
  obtain ⟨held, meaning, loaded⟩ := parsed_held value.held accepted
  exact ⟨⟨_, held⟩, loaded, (canonicalJsonBytes_iff value.held held accepted).mpr meaning⟩

/-! ## Answers in another order -/

def reviewedArgs (answers : List (String × String)) : ArgsSnapshot where
  jobRef := "job-1"
  resumeDocumentId := 5
  answers := answers
  coverLetter := "Dear team"

def reviewedCommand : PrepareActionCommand where
  tenant := ⟨1, 2, .member⟩
  runId := 3
  actionProposalId := 4
  actionKey := actionKey
  actionRevision := 1
  args := ⟨reviewedArgs [("start", "now"), ("city", "Bremen")], by decide +kernel⟩
  now := 0
  expiresAt := 10
  key_supported := rfl
  revision_bounds := Sample.first_revision
  expiry_ahead := by decide

def reviewedArgsDigest : Text :=
  "04f5adb71c3757bea6a053e9272144071d2fe992aab8ee5b6f52ec8a2d911460".toList

def reviewedTargetDigest : Text :=
  "9c53b8f9e19bd898c6e3ad3cbb7355444aa9065480c988085ebc8408b8d973a0".toList

def reviewedBindingDigest : Text :=
  "d6c1f295fcbf45c07209eb8866ec43efc1084df7738031baa658f442c2fd75b6".toList

def reviewedBinding : ApprovalBinding where
  workspaceId := 1
  runId := 3
  actionIntentId := 4
  actionKey := actionKey
  actionRevision := 1
  toolName := submitApplicationToolName
  effect := .irreversible
  argsDigest := "sha256:" ++ String.ofList reviewedArgsDigest
  targetDigest := "sha256:" ++ String.ofList reviewedTargetDigest
  policyVersion := policyVersion

/-- The texts that are hashed, with their SHA-256. -/
def reviewedEntries : List (Text × String) :=
  [(argsDigestPrefix ++ dumps reviewedCommand.args.snapshot.dump,
      String.ofList reviewedArgsDigest),
    (targetDigestPrefix ++ dumps trustedActionTarget.dump, String.ofList reviewedTargetDigest),
    (bindingDigestPrefix ++ dumps reviewedBinding.dump, String.ofList reviewedBindingDigest)]

def reviewedDigests : Digests := canonicalDigests (tableDigest reviewedEntries) fun _ => ""

/-- The intent is stored with its answers in the other order. -/
def reviewedIntent : ActionIntent :=
  { proposedIntent (deriveFacts reviewedDigests reviewedCommand) with
    argsSnapshot := reviewedArgs [("city", "Bremen"), ("start", "now")] }

def reviewedRequest : ApprovalRequest :=
  pendingRequest (deriveFacts reviewedDigests reviewedCommand) 7 0

theorem hashedBytes_eq (domain : Text) (value : JsonValue) :
    hashedBytes domain value = encodeUtf8 (domain ++ dumps value) := by
  rw [hashedBytes, encodeUtf8, encodeUtf8, encodeUtf8, String.ofList_append,
    String.toByteArray_append]

theorem reviewedEntries_found : ∀ entry ∈ reviewedEntries,
    reviewedEntries.find? (fun other => other.1 = entry.1) = some entry := by
  refine find_listed ?_
  simp only [reviewedEntries, List.map_cons, List.map_nil]
  decide +kernel

theorem reviewed_digest {domain : Text} {value : JsonValue} {hex : Text}
    (listed : (domain ++ dumps value, String.ofList hex) ∈ reviewedEntries) :
    digest (tableDigest reviewedEntries) domain value = "sha256:" ++ String.ofList hex := by
  rw [digest, hashedBytes_eq, tableDigest_listed (reviewedEntries_found _ listed),
    String.toList_ofList]

theorem reviewed_target : reviewedDigests.target trustedActionTarget =
    "sha256:" ++ String.ofList reviewedTargetDigest :=
  reviewed_digest (.tail _ List.mem_cons_self)

theorem reviewed_args : reviewedDigests.args reviewedCommand.args.snapshot =
    "sha256:" ++ String.ofList reviewedArgsDigest :=
  reviewed_digest List.mem_cons_self

theorem reviewed_dumps :
    dumps reviewedIntent.argsSnapshot.dump = dumps reviewedCommand.args.snapshot.dump := by
  decide +kernel

/-- The binding is the one whose bytes are in the table. -/
theorem reviewed_binding :
    proposedBinding reviewedDigests reviewedCommand = reviewedBinding ∧
      approvalBindingOf reviewedIntent reviewedRequest = reviewedBinding := by
  have proposed : proposedBinding reviewedDigests reviewedCommand = reviewedBinding := by
    rw [proposedBinding, reviewed_target, reviewed_args]
    rfl
  exact ⟨proposed, proposed⟩

theorem reviewed_accepted :
    validateExactApprovalBinding reviewedDigests reviewedIntent reviewedRequest = .ok () := by
  have swapped : reviewedDigests.args reviewedIntent.argsSnapshot =
      reviewedDigests.args reviewedCommand.args.snapshot := by
    show digest _ _ _ = digest _ _ _
    rw [digest, digest, hashedBytes, hashedBytes, reviewed_dumps]
  obtain ⟨agree, -, args, target, targets, binding⟩ := validateExactApprovalBinding_iff.mp
    (validateExactApprovalBinding_proposed reviewedDigests reviewedCommand 7 0)
  exact validateExactApprovalBinding_iff.mpr
    ⟨agree, by decide +kernel, swapped.trans args, target, targets, binding⟩

theorem reviewed_free : Set.InjOn (tableDigest reviewedEntries)
    (hashedOfBoth reviewedDigests reviewedCommand reviewedIntent reviewedRequest) := by
  refine tableDigest_injOn reviewedEntries_found (fun entry here other there same => ?_)
    fun bytes member => ?_
  · have distinct : (reviewedEntries.map fun entry => entry.2.toList).Nodup := by
      simp only [reviewedEntries, List.map_cons, List.map_nil, String.toList_ofList]
      decide
    rw [List.inj_on_of_nodup_map distinct here there (congrArg String.toList same)]
  · have args : ∃ entry ∈ reviewedEntries,
        hashedBytes argsDigestPrefix reviewedCommand.args.snapshot.dump = encodeUtf8 entry.1 :=
      ⟨_, List.mem_cons_self, hashedBytes_eq _ _⟩
    have binding : ∃ entry ∈ reviewedEntries,
        hashedBytes bindingDigestPrefix reviewedBinding.dump = encodeUtf8 entry.1 :=
      ⟨_, .tail _ (.tail _ List.mem_cons_self), hashedBytes_eq _ _⟩
    have swapped : hashedBytes argsDigestPrefix reviewedIntent.argsSnapshot.dump =
        hashedBytes argsDigestPrefix reviewedCommand.args.snapshot.dump := by
      rw [hashedBytes, hashedBytes, reviewed_dumps]
    rcases member with rfl | rfl | rfl | rfl
    · exact args
    · exact swapped ▸ args
    · rwa [reviewed_binding.1]
    · rwa [reviewed_binding.2]

theorem reviewed_sized : reviewedBinding.Sized := by
  constructor <;> decide

/-- An object and its bytes, with the keys in another order. -/
def orderedValue : PythonValue where
  value := .dict [("b", .int (-3)), ("a", .list [.bool true, .null])]
  held := .dict (by simp only [List.map_cons, List.map_nil]; decide) (by
    simp only [List.forall_mem_cons]
    exact ⟨.int _, .list (by
      simp only [List.forall_mem_cons]
      exact ⟨.bool _, .null, nofun⟩), nofun⟩)

def orderedBytes : ByteArray := encodeUtf8 "\x7b\"a\":[true,null],\"b\":-3\x7d".toList

theorem orderedValue_accepted : canonicalJsonBytes orderedValue.value = .ok orderedBytes :=
  canonicalJsonBytes_ok.mpr ⟨⟨_, rfl⟩, rfl, congrArg encodeUtf8 (by decide +kernel)⟩

theorem canonical_json_reviewed :
    (canonicalJsonBytes orderedValue.value = .ok orderedBytes ↔
      orderedValue.value.meaning = orderedValue.value.meaning) ∧
    (∃ parsed : PythonValue, loads orderedBytes = some parsed.value ∧
      canonicalJsonBytes parsed.value = .ok orderedBytes) ∧
    AsProposed reviewedCommand reviewedIntent reviewedRequest := by
  refine ⟨canonical_json_binds.1 _ _ _ orderedValue_accepted,
    canonical_json_binds.2.1 _ _ orderedValue_accepted, ?_⟩
  refine canonical_json_binds.2.2 _ _ reviewedCommand reviewedIntent reviewedRequest reviewed_free
    ⟨by decide, by decide⟩ ⟨by decide, by decide⟩ ?_ ?_ rfl reviewed_accepted
  · exact reviewed_binding.1.symm ▸ reviewed_sized
  · exact reviewed_binding.2.symm ▸ reviewed_sized

end Pathfinder
