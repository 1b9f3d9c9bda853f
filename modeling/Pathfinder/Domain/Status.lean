/-!
# Persisted statuses and their transition tables

The four lifecycles of `domain/runs.py`, `domain/jobs.py`, `domain/approvals.py`
and `domain/actions.py`, with the identities, clocks and errors every store
shares. A UUID and a timezone-aware datetime are used only through equality and
order, so they are a number and an integer here.
-/
namespace Pathfinder

abbrev UUID := Nat
abbrev Timestamp := Int
abbrev Timedelta := Int

/-- The exceptions of `domain/errors.py` and `domain/action_execution.py`, with
the two that the stores let through: a bad argument and a violated constraint. -/
inductive StoreError where
  | notFound
  | unavailable
  | conflict (message : String)
  | invariant (message : String)
  | validation (message : String)
  | value (message : String)
  | integrity (constraint : String)
  | actionApprovalExpired
  deriving DecidableEq, Repr

/-- A mapped result succeeds where the result does. -/
theorem map_ok {ε α β : Type} {attempt : Except ε α} {f : α → β} {value : β}
    (ran : attempt.map f = .ok value) : ∃ result, attempt = .ok result ∧ f result = value := by
  cases attempt with
  | error reason => cases ran
  | ok result => exact ⟨result, rfl, Except.ok.inj ran⟩

inductive RunStatus where
  | queued | running | waitingApproval | completed | failed | cancelled
  deriving DecidableEq, Repr

namespace RunStatus

/-- `_TERMINAL_RUN_STATUSES`. -/
def terminal : RunStatus → Bool
  | completed | failed | cancelled => true
  | queued | running | waitingApproval => false

/-- `_RUN_TRANSITIONS`. -/
def transitions : RunStatus → List RunStatus
  | queued => [running, cancelled]
  | running => [waitingApproval, completed, failed, cancelled]
  | waitingApproval => [running, cancelled]
  | completed | failed | cancelled => []

def isValidTransition (current target : RunStatus) : Bool := target ∈ transitions current

def value : RunStatus → String
  | queued => "queued"
  | running => "running"
  | waitingApproval => "waiting_approval"
  | completed => "completed"
  | failed => "failed"
  | cancelled => "cancelled"

end RunStatus

inductive JobStatus where
  | queued | leased | done | dead
  deriving DecidableEq, Repr

namespace JobStatus

/-- `_JOB_TRANSITIONS`. -/
def transitions : JobStatus → List JobStatus
  | queued => [leased, done]
  | leased => [done, queued, dead]
  | done => [queued]
  | dead => []

def isValidTransition (current target : JobStatus) : Bool := target ∈ transitions current

end JobStatus

inductive ApprovalStatus where
  | pending | approved | rejected | consumed | expired
  deriving DecidableEq, Repr

namespace ApprovalStatus

/-- `_APPROVAL_TRANSITIONS`. -/
def transitions : ApprovalStatus → List ApprovalStatus
  | pending => [approved, rejected, expired]
  | approved => [consumed, expired]
  | rejected | consumed | expired => []

/-- Still open: the statuses a reviewer or an executor can act on. -/
def open? : ApprovalStatus → Bool
  | pending | approved => true
  | rejected | consumed | expired => false

/-- `_GATE6_RESUME_APPROVAL_STATUSES`. -/
def gate6Resume : ApprovalStatus → Bool
  | pending | approved | rejected | expired => true
  | consumed => false

end ApprovalStatus

inductive ActionIntentStatus where
  | proposed | authorized | executing | succeeded | failed | outcomeUnknown | cancelled
  deriving DecidableEq, Repr

namespace ActionIntentStatus

/-- `_ACTION_TRANSITIONS`. -/
def transitions : ActionIntentStatus → List ActionIntentStatus
  | proposed => [authorized, cancelled]
  | authorized => [executing, cancelled]
  | executing => [succeeded, failed, outcomeUnknown]
  | succeeded | failed | outcomeUnknown | cancelled => []

/-- Not yet started: `PROPOSED` or `AUTHORIZED`. -/
def waiting : ActionIntentStatus → Bool
  | proposed | authorized => true
  | executing | succeeded | failed | outcomeUnknown | cancelled => false

/-- Execution has begun: the statuses `prepare_execution` recovers from. -/
def begun : ActionIntentStatus → Bool
  | executing | succeeded | failed | outcomeUnknown => true
  | proposed | authorized | cancelled => false

/-- `("failed", "outcome_unknown")`. -/
def unsuccessful : ActionIntentStatus → Bool
  | failed | outcomeUnknown => true
  | proposed | authorized | executing | succeeded | cancelled => false

def value : ActionIntentStatus → String
  | proposed => "proposed"
  | authorized => "authorized"
  | executing => "executing"
  | succeeded => "succeeded"
  | failed => "failed"
  | outcomeUnknown => "outcome_unknown"
  | cancelled => "cancelled"

end ActionIntentStatus

inductive ToolInvocationStatus where
  | prepared | executing | succeeded | failed | outcomeUnknown
  deriving DecidableEq, Repr

/-- The invocation status that goes with a begun intent. -/
def ActionIntentStatus.invocationStatus : ActionIntentStatus → Option ToolInvocationStatus
  | executing => some .executing
  | succeeded => some .succeeded
  | failed => some .failed
  | outcomeUnknown => some .outcomeUnknown
  | proposed | authorized | cancelled => none

inductive WorkspaceRole where
  | member | reviewer | admin
  deriving DecidableEq, Repr

inductive ToolEffect where
  | readOnly | reversible | irreversible
  deriving DecidableEq, Repr

/-- `RunEventType`, the types the modelled operations append. -/
inductive RunEventType where
  | runCreated | runStatusChanged | runCompleted | runFailed | runCancelled
  | jobLeaseExpired | jobDead | ragRetrieved
  | actionProposed | approvalExpired | approvalDecided | actionCancelled
  | actionStarted | actionCompleted | actionFailed | actionOutcomeUnknown
  deriving DecidableEq, Repr

/-- `TERMINAL_RUN_EVENT_TYPES`. -/
def RunEventType.terminal : RunEventType → Bool
  | runCompleted | runFailed | runCancelled => true
  | _ => false

/-- The event that announces a terminal status. -/
def RunStatus.terminalEvent : RunStatus → Option RunEventType
  | .completed => some .runCompleted
  | .failed => some .runFailed
  | .cancelled => some .runCancelled
  | .queued | .running | .waitingApproval => none

/-- A tenant as the API and the worker pass it around. -/
structure TenantContext where
  workspaceId : UUID
  actorUserId : UUID
  role : WorkspaceRole
  deriving DecidableEq, Repr

/-!
## Run modes, execution contracts and event payloads

`domain/run_payloads.py`, `domain/research.py` and the JSON objects the stores
write. The pydantic validators of a contract are third-party behaviour and
enter as functions of the configuration.
-/

inductive RunMode where
  | research | application | materialPreparation | resumeGeneration | resumeRevision
  deriving DecidableEq, Repr

/-- `LEGACY_RUN_MODES`. -/
def RunMode.legacy : RunMode → Bool
  | research | application => true
  | materialPreparation | resumeGeneration | resumeRevision => false

def RunMode.value : RunMode → String
  | research => "research"
  | application => "application"
  | materialPreparation => "material_preparation"
  | resumeGeneration => "resume_generation"
  | resumeRevision => "resume_revision"

/-- The two version families: `pathfinder-research-v{n}` and `pathfinder-resume-v{n}`. -/
inductive GraphVersion where
  | research (n : Nat)
  | resume (n : Nat)
  deriving DecidableEq, Repr

def GraphVersion.value : GraphVersion → String
  | research n => "pathfinder-research-v" ++ toString n
  | resume n => "pathfinder-resume-v" ++ toString n

/-- `CURRENT_GRAPH_VERSION`, an alias of `LEGACY_GRAPH_VERSION`. -/
def currentGraphVersion : GraphVersion := .research 6

/-- The result classes a worker may hand to `complete`. -/
inductive OutputModel where
  | researchV1 | researchV2 | materialPreparation
  | resumeGenerationCandidate | resumeRevisionCandidate | resumeGeneration | resumeRevision
  deriving DecidableEq, Repr

/-- A result: its class and its JSON dump. -/
structure RunOutput where
  model : OutputModel
  dump : String
  deriving DecidableEq, Repr

/-- `ResearchRequestV1`. -/
structure ResearchRequest where
  query : String
  includeApplicationDraft : Bool
  deriving DecidableEq, Repr

structure RunContract where
  mode : RunMode
  graphVersion : GraphVersion
  outputModels : List OutputModel
  deriving DecidableEq, Repr

/-- `find_run_contract`: exactly one contract, else `ValueError`. -/
def findRunContract (contracts : List RunContract) (graphVersion : GraphVersion)
    (mode : RunMode) : Option RunContract :=
  match contracts.filter fun item => item.graphVersion = graphVersion ∧ item.mode = mode with
  | [contract] => some contract
  | _ => none

theorem findRunContract_mem {contracts : List RunContract} {graphVersion : GraphVersion}
    {mode : RunMode} {contract : RunContract}
    (found : findRunContract contracts graphVersion mode = some contract) :
    contract ∈ contracts ∧ contract.graphVersion = graphVersion ∧ contract.mode = mode := by
  unfold findRunContract at found
  split at found
  next only matched =>
    cases found
    have member : contract ∈ contracts.filter fun item =>
        item.graphVersion = graphVersion ∧ item.mode = mode := matched ▸ List.mem_singleton.mpr rfl
    simpa using List.mem_filter.mp member
  · cases found

/-- `EXECUTION_CONTRACTS`. -/
def executionContracts : List RunContract :=
  [⟨.materialPreparation, .resume 2, [.materialPreparation]⟩,
   ⟨.resumeGeneration, .resume 3, [.resumeGeneration]⟩,
   ⟨.resumeRevision, .resume 4, [.resumeRevision]⟩]

/-- `LEGACY_READ_CONTRACTS` of one version; the deployments that still run the
research graph pass these as their execution contracts. -/
def legacyContracts (version : Nat) : List RunContract :=
  [⟨.research, .research version, [.researchV1, .researchV2]⟩,
   ⟨.application, .research version, [.researchV1, .researchV2]⟩]

/-- A JSON value inside an event payload or an evidence record. `id` is the text
`str(uuid)`, which determines the UUID. -/
inductive PayloadValue where
  | null
  | bool (value : Bool)
  | int (value : Int)
  | str (value : String)
  | id (value : UUID)
  deriving DecidableEq, Repr

/-- A JSON object, its keys in the order the source writes them. -/
abbrev Payload := List (String × PayloadValue)

/-- The object lookup `payload.get(key)`. -/
def Payload.get? (payload : Payload) (key : String) : Option PayloadValue := payload.lookup key

end Pathfinder
