import Pathfinder.Agents.WorkerEffects

/-!
# The budgets of a resume run

A budget is read in front of a call of the model and holds for what follows at once. What a
call goes on to record by itself (a retry, the embedding of a material query), and what other
executions of the run record meanwhile, is checked by nothing; and the count of tool calls
starts anew with every call of the model loop.
-/
namespace Pathfinder
open KeyedTable Machines

variable {J O V X A S P M T : Type} (cfg : ResumeRunConfig J O V X A S P M T)
  (world : ResumeRunWorld J O V X A)

/-- The step is the first attempt of a call whose check of the budget saw the rows there are. -/
def FreshlyChecked (op : ResumeRunOp J O V X M T) : Prop :=
  ∃ worker messages tools reading script self loop,
    op = .invoke worker messages tools reading script ∧
      world.workers.get worker = some self ∧ self.phase = .admitted loop (world.attempts cfg)

/-- The worker of the step opens an attempt of a model. -/
def RecordsAttempt (op : ResumeRunOp J O V X M T) : Prop :=
  ∃ worker self, op.worker = some worker ∧ world.workers.get worker = some self ∧
    self.opensAttempt cfg world op

/-- A retry, an embedding or an overtaken call finds room for the attempt it records. -/
def RoomForAttempt (op : ResumeRunOp J O V X M T) : Prop :=
  RecordsAttempt cfg world op → ¬ FreshlyChecked cfg world op →
    world.attempts cfg < cfg.budget.maxModelCalls

/-- The worker of the step reserves the next tool call of an answer. -/
def ReservesToolCall (op : ResumeRunOp J O V X M T) : Prop :=
  ∃ worker self, op.worker = some worker ∧ world.workers.get worker = some self ∧
    self.reservesCall cfg world op

/-- The loop that asks for the tool call has executed every call the run has reserved. -/
def OwnToolCalls (op : ResumeRunOp J O V X M T) : Prop :=
  ∃ worker self loop call rest, op.worker = some worker ∧ world.workers.get worker = some self ∧
    self.phase = .calling loop call rest ∧ loop.toolCalls = world.toolCalls

/-- A tool call finds room where calls were reserved outside of the loop that executes it. -/
def RoomForToolCall (op : ResumeRunOp J O V X M T) : Prop :=
  ReservesToolCall cfg world op → ¬ OwnToolCalls world op →
    world.toolCalls < cfg.budget.maxToolCalls

/-! ## Steps -/

/-- What every worker has been allowed fits into the budget. -/
def WorkersWithin : Prop :=
  ∀ worker self, world.workers.get worker = some self → self.phase.Within cfg.budget

variable {cfg world}

/-- What a step records is what the step and the state before it say. -/
structure RunMoves (cfg : ResumeRunConfig J O V X A S P M T) (op : ResumeRunOp J O V X M T)
    (world after : ResumeRunWorld J O V X A) : Prop where
  within : WorkersWithin cfg after
  attempts : Counts (RecordsAttempt cfg world op) (world.attempts cfg) (after.attempts cfg)
  toolCalls : Counts (ReservesToolCall cfg world op) world.toolCalls after.toolCalls

/-- A step that no worker takes records nothing. -/
theorem RunMoves.idle {op : ResumeRunOp J O V X M T} {after : ResumeRunWorld J O V X A}
    (idle : (op.worker.bind fun worker => (world.workers.get worker).map fun self =>
      (worker, self)) = none) (within : WorkersWithin cfg after)
    (attempts : after.attempts cfg = world.attempts cfg)
    (toolCalls : after.toolCalls = world.toolCalls) : RunMoves cfg op world after := by
  refine ⟨within, .inr ⟨?_, attempts⟩, .inr ⟨?_, toolCalls⟩⟩
  · rintro ⟨worker, self, acts, stored, -⟩
    rw [acts, Option.bind_some, stored] at idle
    cases idle
  · rintro ⟨worker, self, acts, stored, -⟩
    rw [acts, Option.bind_some, stored] at idle
    cases idle

theorem WorkerMoves.run {op : ResumeRunOp J O V X M T} {worker : UUID}
    {self : ResumeWorker J V X A} {after : ResumeRunWorld J O V X A}
    (held : WorkersWithin cfg world) (acts : op.worker = some worker)
    (stored : world.workers.get worker = some self)
    (moves : WorkerMoves cfg worker (self.opensAttempt cfg world op)
      (self.reservesCall cfg world op) world after) :
    RunMoves cfg op world after := by
  -- the worker and its state are those of the step
  have only {acts? : ResumeWorker J V X A → Prop} :
      (∃ other there, op.worker = some other ∧ world.workers.get other = some there ∧
        acts? there) ↔ acts? self := by
    constructor
    · rintro ⟨other, there, named, found, happens⟩
      cases acts.symm.trans named
      cases stored.symm.trans found
      exact happens
    · exact fun happens => ⟨worker, self, acts, stored, happens⟩
  refine ⟨fun other found there => ?_, ?_, ?_⟩
  · by_cases same : other = worker
    · subst same
      exact moves.within found there
    · rw [moves.others other same] at there
      exact held other found there
  · rw [RecordsAttempt, only]
    exact moves.attempts
  · rw [ReservesToolCall, only]
    exact moves.toolCalls

theorem initialPhase_within (kind : ResumeRunKind) :
    (ResumeRunWorld.initialPhase kind : WorkerPhase J V X A).Within cfg.budget := by
  cases kind with
  | generation => trivial
  | revision instructed => cases instructed <;> trivial

theorem stepResumeRun_moves (held : WorkersWithin cfg world) (op : ResumeRunOp J O V X M T) :
    RunMoves cfg op world (stepResumeRun cfg world op) := by
  unfold stepResumeRun
  split
  · split
    · exact .idle rfl held rfl rfl
    · exact .idle rfl (Table.forall_put held (initialPhase_within cfg.kind)) rfl rfl
  · exact .idle rfl held rfl rfl
  · split
    · exact .idle rfl held rfl rfl
    next invocationId row refused =>
      simp only [Bool.or_eq_true, not_or, Bool.not_eq_true, Option.isSome_eq_false_iff,
        Option.isNone_iff_eq_none] at refused
      exact .idle rfl held (elsewhere_length refused.1 refused.2) rfl
  · split
    next worker self chosen =>
      obtain ⟨acting, acts, found⟩ := Option.bind_eq_some_iff.mp chosen
      obtain ⟨there, stored, same⟩ := Option.map_eq_some_iff.mp found
      cases same
      exact (stepWorker_moves stored (held worker self stored) op).run held acts stored
    next idle => exact .idle idle held rfl rfl

theorem step_within (world : ResumeRunWorld J O V X A) (op : ResumeRunOp J O V X M T)
    (held : WorkersWithin cfg world) : WorkersWithin cfg ((resumeRun cfg).step world op).1 :=
  (stepResumeRun_moves held op).within

theorem start_within : WorkersWithin cfg (resumeRun cfg).start := by
  intro worker self stored
  cases stored

/-- A count stays within its limit exactly if what is counted without a check finds room. -/
theorem Counts.within_iff {happens checked : Prop} {before after limit : Nat}
    (counts : Counts happens before after) (within : before ≤ limit)
    (room : checked → before < limit) :
    after ≤ limit ↔ (happens → ¬ checked → before < limit) := by
  rcases counts with ⟨here, rfl⟩ | ⟨never, rfl⟩
  · by_cases own : checked
    · exact iff_of_true (room own) fun _ unchecked => absurd own unchecked
    · exact ⟨fun fits _ _ => fits, fun fits => fits here own⟩
  · exact iff_of_true within fun here => absurd here never

/-! ## Model calls -/

theorem attempt_kept_iff (held : WorkersWithin cfg world) (op : ResumeRunOp J O V X M T)
    (before : world.attempts cfg ≤ cfg.budget.maxModelCalls) :
    (stepResumeRun cfg world op).attempts cfg ≤ cfg.budget.maxModelCalls ↔
      RoomForAttempt cfg world op := by
  refine (stepResumeRun_moves held op).attempts.within_iff before ?_
  rintro ⟨worker, messages, tools, reading, script, self, loop, rfl, stored, phase⟩
  have within := held worker self stored
  rw [phase] at within
  exact within

/-- In every run the recorded attempts stay within `max_model_calls` exactly if every attempt
that no check of its own has let through finds room. -/
theorem model_calls_bounded_iff (cfg : ResumeRunConfig J O V X A S P M T)
    (ops : List (ResumeRunOp J O V X M T)) :
    (resumeRun cfg).Throughout (fun world => world.attempts cfg ≤ cfg.budget.maxModelCalls)
        (resumeRun cfg).start ops ↔
      (resumeRun cfg).Guarded (RoomForAttempt cfg) (resumeRun cfg).start ops :=
  (resumeRun cfg).throughout_iff_guarded step_within
    (fun _ op held before => attempt_kept_iff held op before) start_within (Nat.zero_le _) ops

/-! ## Tool calls -/

theorem toolCall_kept_iff (held : WorkersWithin cfg world) (op : ResumeRunOp J O V X M T)
    (before : world.toolCalls ≤ cfg.budget.maxToolCalls) :
    (stepResumeRun cfg world op).toolCalls ≤ cfg.budget.maxToolCalls ↔
      RoomForToolCall cfg world op := by
  refine (stepResumeRun_moves held op).toolCalls.within_iff before ?_
  rintro ⟨worker, self, loop, call, rest, acts, stored, phase, counted⟩
  have within := held worker self stored
  rw [phase] at within
  simp only [WorkerPhase.Within] at within
  omega

/-- In every run the reserved tool calls stay within `max_tool_calls` exactly if every call that
follows calls of another model loop finds room. -/
theorem tool_calls_bounded_iff (cfg : ResumeRunConfig J O V X A S P M T)
    (ops : List (ResumeRunOp J O V X M T)) :
    (resumeRun cfg).Throughout (fun world => world.toolCalls ≤ cfg.budget.maxToolCalls)
        (resumeRun cfg).start ops ↔
      (resumeRun cfg).Guarded (RoomForToolCall cfg) (resumeRun cfg).start ops :=
  (resumeRun cfg).throughout_iff_guarded step_within
    (fun _ op held before => toolCall_kept_iff held op before) start_within (Nat.zero_le _) ops

/-! ## Overspent runs -/

namespace Sample

theorem three_attempts : 1 ≤ 3 ∧ 3 ≤ 3 := by decide

theorem no_retry_delay : ∀ seconds ∈ (none : Option ℚ),
    0 ≤ seconds ∧ ProviderFailureCategory.rateLimited.transient = true := by
  intro seconds member
  cases member

theorem no_response_id : ∀ id ∈ (none : Option ProviderResponseId),
    (id.value.all fun c => !surrogate c) = true := by
  intro id member
  cases member

/-- A generation run with this budget and one material tool. -/
def resumeRunConfig (maxModelCalls maxToolCalls : Nat)
    (modelCalls : 1 ≤ maxModelCalls ∧ maxModelCalls ≤ 12) (toolCalls : maxToolCalls ≤ 8) :
    ResumeRunConfig Unit Unit Unit Unit Unit Unit Unit Unit Unit where
  kind := .generation
  workspaceId := 1
  actorUserId := 2
  runId := 3
  budget := ⟨maxModelCalls, maxToolCalls, 1, modelCalls, toolCalls, Nat.one_pos⟩
  promptVersion := "sha256:0123456789abcdef0123456789abcdef0123456789abcdef0123456789abcdef"
  provider := .fake
  priceBook := qwenBeijingPriceBook
  retryPolicy := ⟨3, 60, 1, 2, three_attempts, by decide +kernel, by decide +kernel⟩
  chars := asciiTables
  hashing :=
    { chat := fun _ _ =>
        some "sha256:0123456789abcdef0123456789abcdef0123456789abcdef0123456789abcdef"
      embedding := fun _ => none }
  reader := ⟨some, some, fun _ _ => true, fun _ => none, fun _ => true⟩
  registry := some
    { specs := fun name => if name = "read_material_excerpt" then
        some
          { name := "read_material_excerpt", effect := .readOnly, timeoutSeconds := 10
            maxAttempts := 1, perRunCallLimit := 8, maxOutputBytes := 5000
            validInput := fun _ => true, serialize := fun _ => .ok [123, 125]
            positive := by decide +kernel, retries := fun _ => rfl }
        else none
      named := by
        intro name spec declared
        split at declared
        next same =>
          cases declared
          exact same.symm
        · cases declared
      argsDigest := fun _ => some "sha256:arguments"
      outputDigest := fun _ => "sha256:output" }
  policy := ⟨["read_material_excerpt"], [.readOnly]⟩

/-- A turn of the retry loop with this answer. -/
def modelTurn (invocationId : UUID) (answer : AdapterAnswer (ChatReply Unit Unit) Unit) :
    AttemptScript (ChatReply Unit Unit) Unit where
  headReading := some 0
  invocationId := some invocationId
  prepareReachable := true
  authorized := true
  traceIds := none
  startReading := some 0
  callReading := some 0
  answer := answer
  endReading := some 0
  finalizeReachable := true
  cancelledAtFinalize := false
  sample := some 0
  waitReading := some 0
  sleep := .slept
  resumeReading := some 0

/-- The model answers with these tool calls. -/
def modelReply (toolCalls : List (ModelToolCall Unit)) :
    AdapterAnswer (ChatReply Unit Unit) Unit :=
  .returned
    { reply := .chat ⟨true, (), toolCalls⟩
      usage := ⟨⟨0, 0, none, none, none, none⟩, by decide⟩
      provider := .fake
      providerResponseId := none
      encodable := no_response_id }

/-- The provider limits the rate. -/
def rateLimited : AdapterAnswer (ChatReply Unit Unit) Unit :=
  .providerError
    { category := .rateLimited
      retryAfterSeconds := none
      providerResponseId := none
      waits := no_retry_delay }

/-- A call of the model that passes its check and is answered. -/
def modelCall (invocationId : UUID) (answer : AdapterAnswer (ChatReply Unit Unit) Unit) :
    List (ResumeRunOp Unit Unit Unit Unit Unit Unit) :=
  [.spend 1 true true, .invoke 1 [()] [] (some 0) (modelTurn invocationId answer),
    .answer 1 (modelTurn invocationId answer)]

/-- The provider limits the rate of the only call, and it is tried again. -/
def retriedRun : List (ResumeRunOp Unit Unit Unit Unit Unit Unit) :=
  .start 1 120 :: modelCall 11 rateLimited ++ [.retry 1 (modelTurn 12 (modelReply []))]

/-- The execution of a tool call. -/
def toolCall (executionId : UUID) : ResumeRunOp Unit Unit Unit Unit Unit Unit :=
  .execute 1 executionId true ⟨some false, some 0, some (20 + executionId), true, true, some 0⟩

def toolRequest : List (ModelToolCall Unit) := [⟨"read_material_excerpt", []⟩]

/-- The analysis and the selection ask for an excerpt each. -/
def twoExcerpts : List (ResumeRunOp Unit Unit Unit Unit Unit Unit) :=
  .start 1 120 :: modelCall 11 (modelReply toolRequest) ++
    [toolCall 1, .startTool 1 ⟨some false, some 0, true, true, ⟨some 0, true⟩⟩,
      .answerTool 1 (.returned ()) ⟨some 0, true⟩] ++
    modelCall 12 (modelReply []) ++ modelCall 13 (modelReply toolRequest) ++ [toolCall 2]

end Sample

/-- A budget of one call, and a call that its provider makes the factory retry. -/
theorem retried_call_overspends :
    ¬ ∀ (cfg : ResumeRunConfig Unit Unit Unit Unit Unit Unit Unit Unit Unit)
      (ops : List (ResumeRunOp Unit Unit Unit Unit Unit Unit)),
      ((resumeRun cfg).reached ops).attempts cfg ≤ cfg.budget.maxModelCalls := by
  intro bounded
  have two : ((resumeRun (Sample.resumeRunConfig 1 0 (by decide) (by decide))).reached
      Sample.retriedRun).attempts (Sample.resumeRunConfig 1 0 (by decide) (by decide)) = 2 := by
    decide +kernel
  have one := bounded (Sample.resumeRunConfig 1 0 (by decide) (by decide)) Sample.retriedRun
  rw [two] at one
  exact absurd one (by decide)

/-- A budget of one tool call, and two model loops that each use it. -/
theorem second_stage_overspends :
    ¬ ∀ (cfg : ResumeRunConfig Unit Unit Unit Unit Unit Unit Unit Unit Unit)
      (ops : List (ResumeRunOp Unit Unit Unit Unit Unit Unit)),
      ((resumeRun cfg).reached ops).toolCalls ≤ cfg.budget.maxToolCalls := by
  intro bounded
  have two : ((resumeRun (Sample.resumeRunConfig 12 1 (by decide) (by decide))).reached
      Sample.twoExcerpts).toolCalls = 2 := by
    decide +kernel
  have one := bounded (Sample.resumeRunConfig 12 1 (by decide) (by decide)) Sample.twoExcerpts
  rw [two] at one
  exact absurd one (by decide)

end Pathfinder
