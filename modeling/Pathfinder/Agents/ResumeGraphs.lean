import Pathfinder.Llm.Factory
import Pathfinder.Tools.Registry

/-!
# The graphs of resume runs

`ResumeGenerationGraph` and `ResumeRevisionGraph` between two awaits: what a graph does
with an answer of its model. How it reads the content of an answer is a parameter; the
texts it sends are left out.
-/
namespace Pathfinder

/-- `ChatModelResult`, as far as a graph reads it. -/
structure ChatReply (J X : Type) where
  completed : Bool
  content : X
  toolCalls : List (ModelToolCall J)

/-- How the graphs read contents. `analysis` is a grounded extraction, `supported` that every
selected bullet is valid, `applies` that the patches pass `apply_scoped_patches` and leave the
personal fields alone. -/
structure AnswerReader (X A S P : Type) where
  analysis : X → Option A
  selection : X → Option S
  supported : A → S → Bool
  patches : X → Option (List P)
  applies : List P → Bool

/-- A call of the model with the corrections made before it: those of `_analyze`, the two
selections of `_write`, the two proposals of `_revise`. -/
inductive GraphStage (A : Type) where
  | analyze (corrected : Bool)
  | write (analysis : A) (corrected : Bool)
  | rewrite (analysis : A)
  | propose
  | repropose

/-- How an execution of a graph ends. -/
inductive GraphEnd where
  | candidate (corrected : Bool)
  | generationError (code : String)
  /-- `DomainValidationError`. -/
  | invalidInput
  | model (failure : LLMFailure)
  | tool (failure : ToolFailure)
  /-- A check of the run or a read of the budget raised. -/
  | stopped

/-- What follows an answer without tool calls: another call of the model, `reserve_repair` with
what follows where it is granted and refused, or the end. -/
inductive GraphNext (A : Type) where
  | call (stage : GraphStage A)
  | repair (granted : GraphStage A) (refused : GraphEnd)
  | ends (result : GraphEnd)

namespace GraphStage
variable {X A S P : Type}

/-- `graph_node`. -/
def node : GraphStage A → String
  | analyze _ => "analyze_job"
  | write .. | rewrite _ => "write_draft"
  | propose | repropose => "revise"

/-- `task`. -/
def task : GraphStage A → String
  | analyze _ | write .. | rewrite _ => "resume_generation"
  | propose | repropose => "resume_revision"

/-- The metadata of the stage's request. -/
def metadata (stage : GraphStage A) (promptVersion : String) : Metadata :=
  [("task", stage.task), ("graph_node", stage.node), ("prompt_version", promptVersion)]

/-- A revision answers a `DomainValidationError` of its proposal with a question. -/
def fallback : GraphStage A → GraphEnd → GraphEnd
  | analyze _, failure | write .., failure | rewrite _, failure => failure
  | propose, _ => .candidate false
  | repropose, _ => .candidate true

/-- The stage without an answer: `spend_allowed` refused. -/
def exhausted (stage : GraphStage A) : GraphEnd :=
  stage.fallback (.generationError "generation_budget_exhausted")

/-- The request contains a protected personal value. -/
def notPrivate (stage : GraphStage A) : GraphEnd := stage.fallback .invalidInput

/-- What a stage does with an answer that has no tool calls. -/
def advance (reader : AnswerReader X A S P) (content : X) : GraphStage A → GraphNext A
  | analyze corrected =>
    match reader.analysis content with
    | some analysis => .call (.write analysis corrected)
    | none =>
      if corrected then .ends (.generationError "invalid_job_reference")
      else .repair (.analyze true) (.generationError "invalid_job_reference")
  | write analysis corrected =>
    match reader.selection content with
    | none => .ends (.generationError "invalid_draft_schema")
    | some selection =>
      if corrected || reader.supported analysis selection then .ends (.candidate corrected)
      else .repair (.rewrite analysis) (.candidate false)
  | rewrite _ =>
    match reader.selection content with
    | none => .ends (.generationError "invalid_draft_schema")
    | some _ => .ends (.candidate true)
  | propose =>
    match reader.patches content with
    | none | some [] => .ends (.candidate false)
    | some patches =>
      if reader.applies patches then .ends (.candidate false)
      else .repair .repropose (.candidate false)
  | repropose => .ends (.candidate true)

end GraphStage

/-! ## The model loop -/

/-- The locals of `_invoke` that outlive an await. -/
structure ModelLoop (A : Type) where
  stage : GraphStage A
  toolCalls : Nat

inductive LoopNext (J A : Type) where
  | tools (calls : List (ModelToolCall J))
  | graph (next : GraphNext A)

/-- What `_invoke` and `_propose` do with a response. `bound` is `max_tool_calls` of a graph
that has tools. -/
def ModelLoop.receive {J X A S P : Type} (reader : AnswerReader X A S P) (bound : Option Nat)
    (loop : ModelLoop A) (reply : ChatReply J X) : LoopNext J A :=
  match loop.stage with
  | .propose | .repropose =>
    if !reply.completed || !reply.toolCalls.isEmpty then
      .graph (.ends (loop.stage.fallback .invalidInput))
    else .graph (loop.stage.advance reader reply.content)
  | .analyze _ | .write .. | .rewrite _ =>
    if !reply.completed then .graph (.ends (.generationError "generation_response_incomplete"))
    else if reply.toolCalls.isEmpty then .graph (loop.stage.advance reader reply.content)
    else if bound.all fun bound => decide (bound < loop.toolCalls + reply.toolCalls.length) then
      .graph (.ends (.generationError "generation_tool_budget_exhausted"))
    else .tools reply.toolCalls

theorem ModelLoop.receive_tools {J X A S P : Type} {reader : AnswerReader X A S P}
    {bound : Option Nat} {loop : ModelLoop A} {reply : ChatReply J X}
    {calls : List (ModelToolCall J)} (received : loop.receive reader bound reply = .tools calls) :
    ∃ limit, bound = some limit ∧ loop.toolCalls + calls.length ≤ limit := by
  unfold ModelLoop.receive at received
  split at received
  iterate 2
    split at received
    · cases received
    · cases received
  all_goals
    split at received
    · cases received
    split at received
    · cases received
    split at received
    · cases received
    next within =>
      cases received
      cases bound with
      | none => exact absurd rfl within
      | some limit => exact ⟨limit, rfl, by simpa using within⟩

end Pathfinder
