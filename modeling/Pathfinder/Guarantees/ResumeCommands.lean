import Pathfinder.Db.ResumeCommands
import Pathfinder.Guarantees.FactLineage
import Pathfinder.Library.Parties
import Pathfinder.Lifecycle.SessionEffects
import Pathfinder.Profiles.Steps

/-!
# Resume commands take effect once

However the handlers of a service interleave: under one actor's key at most one command
commits, its row stays as it is, and every request that is answered under that key with an
acceptance is answered with the receipt in that row.
-/
namespace Pathfinder
open KeyedTable Machines

/-! ## Receipts by key -/

section Receipts
variable {rows : List ResumeCommand} {row : ResumeCommand} {tenant : TenantContext}
  {clientRequestId : UUID} {digest : String}

theorem findCommand_eq (rows : List ResumeCommand) (tenant : TenantContext)
    (clientRequestId : UUID) : findCommand rows tenant clientRequestId =
      rows.find? fun row =>
        decide (row.key = (tenant.workspaceId, tenant.actorUserId, clientRequestId)) := by
  unfold findCommand
  congr 1
  funext row
  simp only [ResumeCommand.key, Prod.mk.injEq, Bool.decide_and, Bool.and_assoc]
  rfl

theorem findCommand_some (found : findCommand rows tenant clientRequestId = some row) :
    row ∈ rows ∧ row.key = (tenant.workspaceId, tenant.actorUserId, clientRequestId) := by
  rw [findCommand_eq] at found
  exact ⟨List.mem_of_find?_eq_some found, by simpa using List.find?_some found⟩

theorem findCommand_none (absent : findCommand rows tenant clientRequestId = none) :
    ∀ row ∈ rows, row.key ≠ (tenant.workspaceId, tenant.actorUserId, clientRequestId) := by
  rw [findCommand_eq] at absent
  simpa using absent

/-- What `_accepted` compares of a row with itself. -/
def ResumeCommand.Consistent (row : ResumeCommand) : Prop :=
  row.receipt.commandId = row.id ∧ row.receipt.runId = row.runId ∧
    row.receipt.queued = row.receipt.runId.isSome

/-- Rows the store has written: one a key, and consistent. -/
structure ReceiptsSound (rows : List ResumeCommand) : Prop where
  unique : (rows.map ResumeCommand.key).Nodup
  consistent : ∀ row ∈ rows, row.Consistent

theorem ReceiptsSound.find (sound : ReceiptsSound rows) (stored : row ∈ rows)
    (here : row.key = (tenant.workspaceId, tenant.actorUserId, clientRequestId)) :
    findCommand rows tenant clientRequestId = some row := by
  rw [findCommand_eq, ← here]
  exact KeyedList.find?_key sound.unique stored

theorem acceptedCommand_same (consistent : row.Consistent) (same : row.requestDigest = digest) :
    acceptedCommand row digest = .ok ⟨row.receipt, true⟩ := by
  obtain ⟨id, run, queued⟩ := consistent
  unfold acceptedCommand
  rw [if_neg (not_not_intro same), if_neg (by simp [id, run, queued])]

theorem acceptedCommand_other (different : row.requestDigest ≠ digest) :
    acceptedCommand row digest =
      .error (.conflict "resume command conflicts with accepted request") :=
  if_pos different

theorem acceptedCommand_ok {accepted : CommandAccepted}
    (done : acceptedCommand row digest = .ok accepted) :
    row.requestDigest = digest ∧ accepted = ⟨row.receipt, true⟩ := by
  unfold acceptedCommand at done
  split at done
  · cases done
  next same =>
    split at done
    · cases done
    cases done
    exact ⟨not_not.mp same, rfl⟩

end Receipts

/-! ## The transactions of a request -/

section Call
variable {σ : Type} {tables : CommandTables σ} {call : CommandCall tables} {db after : σ}
  {commandId : UUID} {accepted : CommandAccepted}

/-- The row of the call's key, with its digest and this receipt. -/
def CommandCall.Backed (call : CommandCall tables) (rows : List ResumeCommand)
    (receipt : CommandReceiptV1) : Prop :=
  ∃ row ∈ rows, row.key = call.key ∧ row.requestDigest = call.digest ∧ row.receipt = receipt

theorem CommandCall.begin_replays (done : call.begin db = .ok (some accepted)) :
    accepted.replayed = true ∧ call.Backed (tables.commands db) accepted.receipt := by
  unfold CommandCall.begin beginCommand at done
  split at done
  · cases done
  split at done
  · cases done
  split at done
  · cases done
  split at done
  next existing found =>
    obtain ⟨result, known, same⟩ := map_ok done
    cases same
    obtain ⟨stored, here⟩ := findCommand_some found
    obtain ⟨digest, rfl⟩ := acceptedCommand_ok known
    exact ⟨rfl, existing, stored, here, digest, rfl⟩
  · split at done
    · cases done
    · cases done
    · obtain ⟨result, -, same⟩ := map_ok done
      cases same

theorem CommandCall.conclude_replays (done : call.conclude db = .ok accepted) :
    accepted.replayed = true ∧ call.Backed (tables.commands db) accepted.receipt := by
  unfold CommandCall.conclude at done
  split at done
  · cases done
  split at done
  · cases done
  split at done
  · cases done
  next existing found =>
    obtain ⟨stored, here⟩ := findCommand_some found
    obtain ⟨digest, rfl⟩ := acceptedCommand_ok done
    exact ⟨rfl, existing, stored, here, digest, rfl⟩

/-- The row a call records. -/
def CommandCall.row (call : CommandCall tables) (commandId : UUID) (receipt : CommandReceiptV1) :
    ResumeCommand :=
  ⟨commandId, call.tenant.workspaceId, call.tenant.actorUserId, call.request.clientRequestId,
    call.request.kind, call.digest, receipt, receipt.runId⟩

/-- A commit: the writer's effect and the row, where no row of the key was. -/
structure CommandCall.Effect (call : CommandCall tables) (commandId : UUID) (db after : σ)
    (receipt : CommandReceiptV1) : Prop where
  absent : ∀ row ∈ tables.commands db, row.key ≠ call.key
  consistent : (call.row commandId receipt).Consistent
  applied : ∃ applied, call.writer.apply db call.tenant call.request commandId =
    .ok (applied, receipt) ∧ after = tables.record (call.row commandId receipt) applied

theorem CommandCall.commit_ok (done : call.commit commandId db = .ok (after, accepted)) :
    accepted.replayed = false ∧ call.Effect commandId db after accepted.receipt := by
  unfold CommandCall.commit commitCommand at done
  split at done
  · cases done
  next applied receipt ran =>
  split at done
  · cases done
  next named =>
  split at done
  · cases done
  next queued =>
  split at done
  · cases done
  split at done
  · cases done
  split at done
  · cases done
  next fresh =>
  cases done
  have kept := call.receiptsKept ran
  refine ⟨rfl, ?_, ⟨not_not.mp named, rfl, not_not.mp queued⟩, applied, ran, rfl⟩
  rw [kept] at fresh
  exact findCommand_none (by simpa using fresh)

/-- The unique constraint of the receipts refuses a row only beside the row of its key. -/
theorem CommandCall.commit_conflict {applied : σ} {receipt : CommandReceiptV1}
    (ran : call.writer.apply db call.tenant call.request commandId = .ok (applied, receipt))
    (refused : call.commit commandId db =
      .error (.integrity "uq_resume_commands_actor_request")) :
    ∃ row ∈ tables.commands db, row.key = call.key := by
  unfold CommandCall.commit commitCommand at refused
  rw [ran] at refused
  dsimp only at refused
  split at refused
  · cases refused
  split at refused
  · cases refused
  split at refused
  · cases refused
  split at refused
  · simp at refused
  split at refused
  next found =>
    rw [call.receiptsKept ran] at found
    obtain ⟨row, found⟩ := Option.isSome_iff_exists.mp found
    exact ⟨row, findCommand_some found⟩
  · cases refused

end Call

/-! ## What one event does -/

section Step
variable {service : CommandService} {world : CommandWorld service} {rows : List ResumeCommand}

def CommandReply.key (reply : CommandReply service) : CommandKey := (service.call reply.request).key

/-- The reply to a commit; the replies to its replays say that they are. -/
def CommandReply.first (reply : CommandReply service) : Bool :=
  match reply.result with
  | .ok accepted => !accepted.replayed
  | .error _ => false

/-- An acceptance answers with the receipt of the key's row. -/
def CommandReply.Backed (reply : CommandReply service) (rows : List ResumeCommand) : Prop :=
  ∀ accepted, reply.result = .ok accepted →
    (service.call reply.request).Backed rows accepted.receipt

/-- The handler commits, and its reply may get lost. -/
def CommandEvent.Commits (event : CommandEvent service) (handler : Nat) : Prop :=
  event = .commit handler ∨ event = .commitUnheard handler

/-- What an event does to the tables. They stay as they are unless another store's transaction
comes or a handler commits the whole of its request. -/
inductive CommandStep (world : CommandWorld service) (event : CommandEvent service) :
    service.Db → Prop
  | same : CommandStep world event world.db
  | other (change : { change : service.Db → service.Db //
      ∀ db, service.tables.commands (change db) = service.tables.commands db })
      (foreign : event = .other change) : CommandStep world event (change.val world.db)
  | effect {after : service.Db} (handler : Nat) (request : service.Request) (commandId : UUID)
      (receipt : CommandReceiptV1) (commits : event.Commits handler)
      (held : world.handlers handler = some (.applying request commandId))
      (effect : (service.call request).Effect commandId world.db after receipt) :
      CommandStep world event after

/-- The handlers a row of their key has turned away. -/
def CommandWorld.Won (world : CommandWorld service) (rows : List ResumeCommand) : Prop :=
  ∀ handler request, world.handlers handler = some (.conflicted request) →
    ∃ row ∈ rows, row.key = (service.call request).key

theorem CommandWorld.Won.set (won : world.Won rows) (handler : Nat)
    {phase : Option (CommandPhase service.Request)}
    (here : ∀ request, phase = some (.conflicted request) →
      ∃ row ∈ rows, row.key = (service.call request).key) : (world.set handler phase).Won rows := by
  intro other request held
  unfold CommandWorld.set at held
  dsimp only at held
  by_cases same : other = handler
  · rw [same, Function.update_self] at held
    exact here request held
  · rw [Function.update_of_ne same] at held
    exact won other request held

theorem CommandWorld.Won.done (won : world.Won rows) (handler : Nat) :
    (world.set handler none).Won rows :=
  won.set handler fun _ held => by cases held

/-- What an event comes to: the tables move by a step, a reply is backed and, unless it answers
a commit, no first reply, and an error leaves the tables alone. -/
structure Served (world : CommandWorld service) (event : CommandEvent service)
    (after : CommandWorld service) (reply : Option (CommandReply service)) : Prop where
  step : CommandStep world event after.db
  backed : ∀ told, reply = some told → told.Backed after.receipts
  first : ∀ told, reply = some told → told.first = true →
    ∀ row ∈ world.receipts, row.key ≠ told.key
  failed : ∀ told reason, reply = some told → told.result = .error reason → after.db = world.db

/-- A handler that is done, with the tables as they were. -/
theorem served_answer {event : CommandEvent service} (handler : Nat) (request : service.Request)
    {result : Except StoreError CommandAccepted}
    (replayed : ∀ accepted, result = .ok accepted → accepted.replayed = true ∧
      (service.call request).Backed world.receipts accepted.receipt) :
    Served world event (world.answer handler request result).1
      (world.answer handler request result).2 where
  step := .same
  backed told same accepted done := by
    cases same
    exact (replayed accepted done).2
  first told same first := by
    cases same
    unfold CommandReply.first at first
    cases result with
    | error reason => cases first
    | ok accepted => simp [(replayed accepted rfl).1] at first
  failed _ _ _ _ := rfl

theorem served_silent {event : CommandEvent service} {after : CommandWorld service}
    (step : CommandStep world event after.db) : Served world event after none where
  step := step
  backed _ same := by cases same
  first _ same := by cases same
  failed _ _ same := by cases same

theorem served_commit {event : CommandEvent service} {handler : Nat} {request : service.Request}
    {commandId : UUID} (commits : event.Commits handler)
    (held : world.handlers handler = some (.applying request commandId)) :
    Served world event (world.commit handler request commandId).1
      (world.commit handler request commandId).2 := by
  unfold CommandWorld.commit
  dsimp only
  split
  · exact served_answer handler request fun _ same => by cases same
  split
  · split
    · exact served_silent .same
    · exact served_answer handler request fun _ same => by cases same
  next after accepted done =>
  obtain ⟨fresh, effect⟩ := CommandCall.commit_ok done
  split
  · obtain ⟨absent, consistent, applied, ran, rfl⟩ := effect
    have rows := (service.recorded ((service.call request).row commandId accepted.receipt)
      applied).trans (congrArg (· ++ _) ((service.call request).receiptsKept ran))
    refine ⟨.effect handler request commandId accepted.receipt commits held
      ⟨absent, consistent, applied, ran, rfl⟩, ?_, ?_, ?_⟩
    · intro told same answered accepts
      cases same
      cases accepts
      refine ⟨(service.call request).row commandId accepted.receipt, ?_, rfl, rfl, rfl⟩
      change _ ∈ service.tables.commands (service.tables.record _ applied)
      rw [rows]
      exact List.mem_append_right _ (List.mem_singleton_self _)
    · intro told same _
      cases same
      exact absent
    · intro told reason same failed
      cases same
      cases failed
  · exact served_answer handler request fun _ same => by cases same

theorem served_serve (event : CommandEvent service) :
    Served world event (world.serve event).1 (world.serve event).2 := by
  cases event with
  | take handler request commandId =>
    simp only [CommandWorld.serve]
    split
    · exact served_silent .same
    · split
      · exact served_answer handler request fun _ same => by cases same
      next accepted began =>
        refine served_answer handler request fun _ same => ?_
        cases same
        exact CommandCall.begin_replays began
      · exact served_silent .same
  | commit handler =>
    simp only [CommandWorld.serve]
    split
    next held => exact served_commit (.inl rfl) held
    all_goals exact served_silent .same
  | commitUnheard handler =>
    simp only [CommandWorld.serve]
    split
    next held => exact served_silent (served_commit (.inr rfl) held).step
    all_goals exact served_silent .same
  | conclude handler =>
    simp only [CommandWorld.serve]
    split
    next request held =>
      exact served_answer handler request fun _ done => CommandCall.conclude_replays done
    all_goals exact served_silent .same
  | stop handler => exact served_silent .same
  | other change => exact served_silent (.other change rfl)

section Kept
variable {event : CommandEvent service} {after : service.Db}

/-- Rows are added behind the others. -/
theorem CommandStep.receipts (step : CommandStep world event after) :
    service.tables.commands after = world.receipts ∨
      ∃ request commandId receipt, service.tables.commands after =
          world.receipts ++ [(service.call request).row commandId receipt] ∧
        (∀ row ∈ world.receipts, row.key ≠ (service.call request).key) ∧
        ((service.call request).row commandId receipt).Consistent := by
  cases step with
  | same => exact .inl rfl
  | other change => exact .inl (change.property _)
  | effect handler request commandId receipt commits held effect =>
    obtain ⟨absent, consistent, applied, ran, rfl⟩ := effect
    refine .inr ⟨request, commandId, receipt, ?_, absent, consistent⟩
    rw [service.recorded, (service.call request).receiptsKept ran]
    rfl

theorem CommandStep.kept (step : CommandStep world event after) :
    world.receipts <+: service.tables.commands after := by
  rcases step.receipts with kept | ⟨request, commandId, receipt, added, -⟩
  · rw [kept]
  · rw [added]
    exact List.prefix_append _ _

theorem CommandStep.sound (step : CommandStep world event after)
    (sound : ReceiptsSound world.receipts) : ReceiptsSound (service.tables.commands after) := by
  rcases step.receipts with kept | ⟨request, commandId, receipt, added, absent, consistent⟩
  · rw [kept]
    exact sound
  · rw [added]
    refine ⟨KeyedList.nodup_snoc sound.unique absent, fun row member => ?_⟩
    rcases List.mem_append.mp member with old | last
    · exact sound.consistent row old
    · obtain rfl := List.mem_singleton.mp last
      exact consistent

end Kept
end Step

/-! ## Runs -/

section Runs
variable {service : CommandService} {world : CommandWorld service}
  {told : List (CommandReply service)}

/-- What holds of a service and of the replies it has given. -/
structure CommandWorld.Sound (world : CommandWorld service) (told : List (CommandReply service)) :
    Prop where
  receipts : ReceiptsSound world.receipts
  won : world.Won world.receipts
  backed : ∀ reply ∈ told, reply.Backed world.receipts
  first : ((told.filter CommandReply.first).map CommandReply.key).Nodup

theorem CommandReply.Backed.mono {reply : CommandReply service} {rows rows' : List ResumeCommand}
    (backed : reply.Backed rows) (grown : rows <+: rows') : reply.Backed rows' := by
  intro accepted answered
  obtain ⟨row, stored, here⟩ := backed accepted answered
  exact ⟨row, grown.subset stored, here⟩

theorem CommandWorld.Won.mono {rows rows' : List ResumeCommand} (won : world.Won rows)
    (grown : rows <+: rows') : world.Won rows' := by
  intro handler request held
  obtain ⟨row, stored, here⟩ := won handler request held
  exact ⟨row, grown.subset stored, here⟩

/-- A handler is turned away only beside a row of its key. -/
theorem CommandWorld.Won.commit (won : world.Won world.receipts) (handler : Nat)
    (request : service.Request) (commandId : UUID) :
    (world.commit handler request commandId).1.Won world.receipts := by
  unfold CommandWorld.commit
  dsimp only
  split
  · exact won.done handler
  next applied ran =>
  split
  next reason refused =>
    split
    next conflict =>
      rw [conflict] at refused
      refine won.set handler fun other held => ?_
      cases held
      exact CommandCall.commit_conflict ran refused
    · exact won.done handler
  · split
    · have moved : CommandWorld.Won ⟨_, world.handlers⟩ world.receipts := won
      exact moved.done handler
    · exact won.done handler

theorem CommandWorld.Won.serve (won : world.Won world.receipts) (event : CommandEvent service) :
    (world.serve event).1.Won world.receipts := by
  cases event with
  | take handler request commandId =>
    simp only [CommandWorld.serve]
    split
    · exact won
    · split
      · exact won.done handler
      · exact won.done handler
      · exact won.set handler fun _ held => by cases held
  | commit handler =>
    simp only [CommandWorld.serve]
    split
    · exact won.commit handler _ _
    all_goals exact won
  | commitUnheard handler =>
    simp only [CommandWorld.serve]
    split
    · exact (won.commit handler _ _).done handler
    all_goals exact won
  | conclude handler =>
    simp only [CommandWorld.serve]
    split
    · exact won.done handler
    all_goals exact won
  | stop handler => exact won.done handler
  | other change => exact won

theorem CommandWorld.Sound.serve (sound : world.Sound told) (event : CommandEvent service) :
    (world.serve event).1.Sound (told ++ (world.serve event).2.toList) := by
  have served : Served world event _ _ := served_serve event
  have grown : world.receipts <+: (world.serve event).1.receipts := served.step.kept
  refine ⟨served.step.sound sound.receipts, (sound.won.serve event).mono grown, ?_, ?_⟩
  · intro reply member
    rcases List.mem_append.mp member with before | now
    · exact (sound.backed reply before).mono grown
    · exact served.backed reply (Option.mem_toList.mp now)
  · cases said : (world.serve event).2 with
    | none => simpa using sound.first
    | some reply =>
      rw [Option.toList_some, List.filter_append]
      cases first : reply.first with
      | false => simpa [first] using sound.first
      | true =>
        simp only [List.filter_singleton, first, cond_true]
        refine KeyedList.nodup_snoc sound.first fun earlier member => ?_
        obtain ⟨member, wasFirst⟩ := List.mem_filter.mp member
        -- the earlier reply has a row, and there was none of this key
        unfold CommandReply.first at wasFirst
        cases answered : earlier.result with
        | error reason => simp [answered] at wasFirst
        | ok accepted =>
          obtain ⟨row, stored, here, -⟩ := sound.backed earlier member accepted answered
          rw [CommandReply.key, ← here]
          exact served.first reply said first row stored

theorem commandHandlers_sound (service : CommandService) (events : List (CommandEvent service)) :
    ((commandHandlers service).reached events).Sound
      ((commandHandlers service).history (commandHandlers service).start events) := by
  refine Machine.reached_history _ ?_ (fun world told event sound => sound.serve event) events
  refine ⟨?_, nofun, nofun, List.nodup_nil⟩
  change ReceiptsSound (service.tables.commands service.start)
  rw [service.noReceipts]
  exact ⟨List.nodup_nil, nofun⟩

/-- The tables let the call through to the look-up of its key. -/
structure CommandCall.Admitted {σ : Type} {tables : CommandTables σ} (call : CommandCall tables)
    (db : σ) : Prop where
  supported : call.supported = true
  member : requireCurrentTenant (tables.memberships db) call.tenant = .ok ()
  authorized : ∃ state, call.writer.authorizeAndLock db call.tenant call.request = .ok state

/-- What a row answers a request under its key. -/
def ResumeCommand.reply (row : ResumeCommand) (digest : String) :
    Except StoreError CommandAccepted :=
  if row.requestDigest = digest then .ok ⟨row.receipt, true⟩
  else .error (.conflict "resume command conflicts with accepted request")

theorem ReceiptsSound.reply {rows : List ResumeCommand} {row : ResumeCommand}
    (sound : ReceiptsSound rows) (stored : row ∈ rows) (digest : String) :
    acceptedCommand row digest = row.reply digest := by
  unfold ResumeCommand.reply
  split
  next same => exact acceptedCommand_same (sound.consistent row stored) same
  next different => exact acceptedCommand_other different

/-- A request whose key has a row is answered by that row. -/
theorem CommandWorld.Sound.take_reply (sound : world.Sound told) {handler : Nat}
    (free : world.handlers handler = none) {request : service.Request} (commandId : UUID)
    (admitted : (service.call request).Admitted world.db) {row : ResumeCommand}
    (stored : row ∈ world.receipts) (here : row.key = (service.call request).key) :
    (world.serve (.take handler request commandId)).2 =
      some ⟨request, row.reply (service.call request).digest⟩ := by
  obtain ⟨state, authorized⟩ := admitted.authorized
  have found : findCommand (service.tables.commands world.db) (service.call request).tenant
      (service.call request).request.clientRequestId = some row := sound.receipts.find stored here
  have began : (service.call request).begin world.db =
      (row.reply (service.call request).digest).map some := by
    unfold CommandCall.begin beginCommand
    rw [admitted.supported, admitted.member, authorized, found]
    exact congrArg (Except.map some) (sound.receipts.reply stored _)
  simp only [CommandWorld.serve, free, Option.isSome_none, Bool.false_eq_true, if_false, began]
  cases row.reply (service.call request).digest <;> rfl

theorem CommandWorld.Sound.conclude_reply (sound : world.Sound told) {handler : Nat}
    {request : service.Request} (held : world.handlers handler = some (.conflicted request))
    (admitted : (service.call request).Admitted world.db) :
    ∃ row ∈ world.receipts, row.key = (service.call request).key ∧
      (world.serve (.conclude handler)).2 =
        some ⟨request, row.reply (service.call request).digest⟩ := by
  obtain ⟨row, stored, here⟩ := sound.won handler request held
  obtain ⟨state, authorized⟩ := admitted.authorized
  have found : findCommand (service.tables.commands world.db) (service.call request).tenant
      (service.call request).request.clientRequestId = some row := sound.receipts.find stored here
  have concluded : (service.call request).conclude world.db =
      row.reply (service.call request).digest := by
    unfold CommandCall.conclude
    rw [admitted.member, authorized, found]
    exact sound.receipts.reply stored _
  refine ⟨row, stored, here, ?_⟩
  simp only [CommandWorld.serve, held, CommandWorld.answer, concluded]

/-- What holds wherever a service has come to. -/
structure CommandsOnce (service : CommandService) (world : CommandWorld service)
    (told : List (CommandReply service)) : Prop where
  /-- Under a key at most one command has committed. -/
  once : (world.receipts.map ResumeCommand.key).Nodup
  /-- But for other stores' transactions, the tables move where a handler commits, by the whole
  effect of its request with the row, or not at all. -/
  steps : ∀ event, CommandStep world event (world.serve event).1.db
  failed : ∀ event reply reason, (world.serve event).2 = some reply →
    reply.result = .error reason → (world.serve event).1.db = world.db
  lasting : ∀ later, world.receipts <+: ((commandHandlers service).after world later).receipts
  /-- Whoever is accepted under a key has the receipt of its row; one at most hears it first. -/
  answered : ∀ reply ∈ told, reply.Backed world.receipts
  first : ((told.filter CommandReply.first).map CommandReply.key).Nodup
  replayed : ∀ handler request commandId row, world.handlers handler = none →
    (service.call request).Admitted world.db → row ∈ world.receipts →
    row.key = (service.call request).key →
    (world.serve (.take handler request commandId)).2 =
      some ⟨request, row.reply (service.call request).digest⟩
  concluded : ∀ handler request, world.handlers handler = some (.conflicted request) →
    (service.call request).Admitted world.db →
    ∃ row ∈ world.receipts, row.key = (service.call request).key ∧
      (world.serve (.conclude handler)).2 =
        some ⟨request, row.reply (service.call request).digest⟩

theorem receipts_lasting (world : CommandWorld service) (later : List (CommandEvent service)) :
    world.receipts <+: ((commandHandlers service).after world later).receipts := by
  refine Machine.after_preserves (commandHandlers service)
    (P := fun after => world.receipts <+: after.receipts) ?_ (List.prefix_refl _) later
  intro after event grown
  exact grown.trans (served_serve event).step.kept

theorem commands_once (service : CommandService) (events : List (CommandEvent service)) :
    CommandsOnce service ((commandHandlers service).reached events)
      ((commandHandlers service).history (commandHandlers service).start events) := by
  have sound := commandHandlers_sound service events
  exact
    { once := sound.receipts.unique
      steps := fun event => (served_serve event).step
      failed := fun event reply reason said failed => (served_serve event).failed reply reason said
        failed
      lasting := receipts_lasting _
      answered := sound.backed
      first := sound.first
      replayed := fun _ _ commandId _ free admitted stored here =>
        sound.take_reply free commandId admitted stored here
      concluded := fun _ _ held admitted => sound.conclude_reply held admitted }

end Runs

/-! ## The stores of the deployment -/

/-- What arrives with a request, what its writer draws, and what the other tables answer it. -/
structure SubmittedCommand (π φ : Type) where
  tenant : TenantContext
  request : ResumeCommandRequest π
  digest : String
  facts : φ

section Writers
variable {chars : CharacterTables} {tables after : ProfileDb chars} {tenant : TenantContext}
  {commandId : UUID} {receipt : CommandReceiptV1}

theorem importProfile_commands {preview : Option SourcePreview} {facts : ProfileFacts}
    (done : importProfile tables tenant preview facts = .ok after) :
    after.resume = tables.resume := by
  unfold importProfile at done
  split at done
  · cases done
  split at done
  · cases done
  split at done
  · cases done
  split at done
  · cases done
  cases done
  rfl

theorem profileWriter_commands {facts : ProfileFacts}
    {request : ResumeCommandRequest (ProfilePayload chars)}
    (ran : (profileWriter facts).apply tables tenant request commandId = .ok (after, receipt)) :
    profileTables.commands after = profileTables.commands tables := by
  rcases profileWriter_ok ran with ⟨preview, -, imported⟩ | ⟨_, _, _, -, -, -, rfl⟩
  · exact congrArg ResumeDb.commands (importProfile_commands imported)
  · rfl

theorem createWriter_commands {facts : CommandFacts}
    {request : ResumeCommandRequest SessionCreateV1}
    (ran : (createWriter facts).apply tables tenant request commandId = .ok (after, receipt)) :
    profileTables.commands after = profileTables.commands tables := by
  dsimp only [createWriter] at ran
  split at ran
  · cases ran
  obtain ⟨⟨resume, written⟩, created, same⟩ := map_ok ran
  cases same
  exact (createSession_apply created).1

theorem sessionFeedbackWriter_commands {π : Type} {facts : CommandFacts}
    {feedback : π → FeedbackPayload} {effect : ProfileDb chars → TenantContext → UUID →
      SessionProfile → π → Except StoreError (ProfileDb chars)}
    (resume : ∀ {before changed : ProfileDb chars} {tenant sessionId session payload},
      effect before tenant sessionId session payload = .ok changed →
        changed.resume = before.resume)
    {request : ResumeCommandRequest π}
    (ran : (sessionFeedbackWriter facts feedback effect).apply tables tenant request commandId =
      .ok (after, receipt)) :
    profileTables.commands after = profileTables.commands tables := by
  dsimp only [sessionFeedbackWriter] at ran
  split at ran
  · cases ran
  split at ran
  · cases ran
  · cases ran
  split at ran
  · cases ran
  next changed effected =>
  obtain ⟨⟨rows, written⟩, fed, same⟩ := map_ok ran
  cases same
  exact (feedback_apply fed).1.trans (congrArg ResumeDb.commands (resume effected))

theorem applyPreferences_resume {sessionId : UUID} {session : SessionProfile}
    {payload : PreferenceFeedbackV1 chars}
    (done : applyPreferences tables tenant sessionId session payload = .ok after) :
    after.resume = tables.resume := by
  cases payload with
  | round _ =>
    cases done
    rfl
  | session _ =>
    obtain ⟨merged, -, rfl⟩ := map_ok done
    rfl
  | globally _ expected =>
    simp only [applyPreferences] at done
    split at done
    · cases done
    split at done
    · cases done
    split at done
    · cases done
    cases done
    rfl

theorem applyLock_resume {sessionId : UUID} {session : SessionProfile} {change : LockChangeV1}
    (done : applyLock tables sessionId session change = .ok after) :
    after.resume = tables.resume := by
  unfold applyLock at done
  split at done
  · cases done
  dsimp only at done
  split at done
  · cases done
  split at done
  · cases done
  cases done
  rfl

end Writers

section Deployment
variable {chars : CharacterTables}

/-- The requests that the writers of profiles, sessions and feedback serve. -/
inductive ResumeSubmission (chars : CharacterTables) where
  | profile (command : SubmittedCommand (ProfilePayload chars) ProfileFacts)
  | createSession (command : SubmittedCommand SessionCreateV1 CommandFacts)
  | preference (command : SubmittedCommand (PreferenceFeedbackV1 chars) CommandFacts)
  | lock (command : SubmittedCommand LockChangeV1 CommandFacts)
  | feedback (command : SubmittedCommand FeedbackPayload CommandFacts)
  | confirm (command : SubmittedCommand ConfirmVersionV1 CommandFacts)

/-- `supported_kinds` of `_ProfileWriter`. -/
def profileKinds : List String :=
  ["resume_profile_import", "resume_profile_contact_edit", "resume_profile_item_review",
    "resume_preference_update", "resume_claim_review"]

/-- `supported_kinds` of `_FeedbackWriter`. -/
def feedbackKinds : List String :=
  ["resume_feedback_content", "resume_feedback_answer", "resume_feedback_preference",
    "resume_feedback_fact", "resume_feedback_fact_review", "resume_feedback_lock"]

def SubmittedCommand.call {σ π φ : Type} {tables : CommandTables σ}
    (command : SubmittedCommand π φ) (kinds : List String) (writer : ResumeCommandWriter σ π)
    (receiptsKept : ∀ {db after : σ} {commandId : UUID} {receipt : CommandReceiptV1},
      writer.apply db command.tenant command.request commandId = .ok (after, receipt) →
        tables.commands after = tables.commands db) : CommandCall tables where
  Payload := π
  tenant := command.tenant
  request := command.request
  digest := command.digest
  supported := kinds.contains command.request.kind
  writer := writer
  receiptsKept := receiptsKept

/-- A writer on the tables of runs and sessions. -/
def ResumeCommandWriter.onResume {π : Type} (writer : ResumeCommandWriter ResumeDb π) :
    ResumeCommandWriter (ProfileDb chars) π where
  authorizeAndLock tables := writer.authorizeAndLock tables.resume
  apply tables tenant request commandId :=
    (writer.apply tables.resume tenant request commandId).map fun written =>
      ({ tables with resume := written.1 }, written.2)

theorem onResume_commands {π : Type} {writer : ResumeCommandWriter ResumeDb π}
    {tables after : ProfileDb chars} {tenant : TenantContext} {request : ResumeCommandRequest π}
    {commandId : UUID} {receipt : CommandReceiptV1}
    (kept : ∀ {resume receipt}, writer.apply tables.resume tenant request commandId =
      .ok (resume, receipt) → resume.commands = tables.resume.commands)
    (ran : writer.onResume.apply tables tenant request commandId = .ok (after, receipt)) :
    profileTables.commands after = profileTables.commands tables := by
  obtain ⟨⟨resume, written⟩, applied, same⟩ := map_ok ran
  cases same
  exact kept applied

def ResumeSubmission.call : ResumeSubmission chars → CommandCall (@profileTables chars)
  | .profile command =>
    command.call profileKinds (profileWriter command.facts) profileWriter_commands
  | .createSession command =>
    command.call ["resume_session_create"] (createWriter command.facts) createWriter_commands
  | .preference command =>
    command.call feedbackKinds (preferenceWriter command.facts)
      (sessionFeedbackWriter_commands applyPreferences_resume)
  | .lock command =>
    command.call feedbackKinds (lockWriter command.facts)
      (sessionFeedbackWriter_commands applyLock_resume)
  | .feedback command =>
    command.call feedbackKinds (feedbackWriter command.facts).onResume
      (onResume_commands fun applied => (feedback_apply applied).1)
  | .confirm command =>
    command.call ["resume_confirm_version"] (confirmationWriter command.facts).onResume
      (onResume_commands fun applied => (confirm_apply applied).1)

/-- The commands on profiles and sessions. -/
def resumeCommandService (chars : CharacterTables) : CommandService where
  Db := ProfileDb chars
  Request := ResumeSubmission chars
  tables := profileTables
  start := ⟨⟨Db.empty, Table.empty, []⟩, ⟨[], [], [], []⟩, Table.empty, Table.empty⟩
  checks tables := tables.resume.db.checks
  call := ResumeSubmission.call
  noReceipts := rfl
  recorded _ _ := rfl

/-- The commands on material facts; `facts` are the ids of an added fact and of a version. -/
def factCommandService (chars : CharacterTables) : CommandService where
  Db := ProjectFactDb
  Request := SubmittedCommand FactCommand (UUID × VersionIds)
  tables := projectFactTables
  start := ⟨[], [], [], Table.empty, [], Table.empty, Table.empty, []⟩
  checks _ := true
  call command :=
    command.call factCommandKinds (factWriter chars command.facts.1 command.facts.2)
      fun ran => (applyFact_receipt ran).2
  noReceipts := rfl
  recorded _ _ := rfl

/-- In every run of the handlers of resume commands, and in every run of those of fact commands. -/
theorem resume_commands_once (chars : CharacterTables) :
    (∀ events, CommandsOnce (resumeCommandService chars)
      ((commandHandlers (resumeCommandService chars)).reached events)
      ((commandHandlers (resumeCommandService chars)).history
        (commandHandlers (resumeCommandService chars)).start events)) ∧
    ∀ events, CommandsOnce (factCommandService chars)
      ((commandHandlers (factCommandService chars)).reached events)
      ((commandHandlers (factCommandService chars)).history
        (commandHandlers (factCommandService chars)).start events) :=
  ⟨commands_once _, commands_once _⟩

end Deployment

end Pathfinder
