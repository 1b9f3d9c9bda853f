import Mathlib.Logic.Function.Basic
import Pathfinder.Db.ResumeModels
import Pathfinder.Library.Machine

/-!
# Handlers of resume commands

`SqlAlchemyResumeCommandStore.accept` of `db/resume_commands.py` with each of its transactions
on its own. A transaction reads, applies the writer's effect and commits at two moments, and
anything may happen between them: handlers of other requests, transactions of other stores,
the end of the process. A reply may be lost behind a commit.
-/
namespace Pathfinder
open Machines

/-! ## Requests and their writers -/

/-- A request with the writer that serves it. The writer leaves the receipts to the store. -/
structure CommandCall {σ : Type} (tables : CommandTables σ) where
  Payload : Type
  tenant : TenantContext
  request : ResumeCommandRequest Payload
  /-- `digest_v1`. -/
  digest : String
  /-- `request.kind` is one of `supported_kinds`. -/
  supported : Bool
  writer : ResumeCommandWriter σ Payload
  receiptsKept : ∀ {db after : σ} {commandId : UUID} {receipt : CommandReceiptV1},
    writer.apply db tenant request commandId = .ok (after, receipt) →
      tables.commands after = tables.commands db

/-- The columns of `uq_resume_commands_actor_request`. -/
abbrev CommandKey := UUID × UUID × UUID

def ResumeCommand.key (row : ResumeCommand) : CommandKey :=
  (row.workspaceId, row.actorUserId, row.clientRequestId)

section Call
variable {σ : Type} {tables : CommandTables σ}

def CommandCall.key (call : CommandCall tables) : CommandKey :=
  (call.tenant.workspaceId, call.tenant.actorUserId, call.request.clientRequestId)

/-- The first transaction up to the writer's effect. -/
def CommandCall.begin (call : CommandCall tables) (db : σ) :
    Except StoreError (Option CommandAccepted) :=
  if !call.supported then
    .error (.invariant "resume command handler is not registered for this kind")
  else beginCommand tables call.writer call.tenant call.request call.digest db

/-- The rest of the first transaction. -/
def CommandCall.commit (call : CommandCall tables) (commandId : UUID) (db : σ) :
    Except StoreError (σ × CommandAccepted) :=
  commitCommand tables call.writer call.tenant call.request call.digest commandId db

/-- The second transaction, behind a conflict: it reads the receipt of the winner. -/
def CommandCall.conclude (call : CommandCall tables) (db : σ) :
    Except StoreError CommandAccepted :=
  match requireCurrentTenant (tables.memberships db) call.tenant with
  | .error reason => .error reason
  | .ok () =>
    match call.writer.authorizeAndLock db call.tenant call.request with
    | .error reason => .error reason
    | .ok _ =>
      match findCommand (tables.commands db) call.tenant call.request.clientRequestId with
      | none => .error (.invariant "resume command conflict winner is missing")
      | some existing => acceptedCommand existing call.digest

end Call

/-! ## Services -/

/-- Tables that keep receipts, the requests their writers serve, and the check constraints. -/
structure CommandService where
  Db : Type
  Request : Type
  tables : CommandTables Db
  start : Db
  checks : Db → Bool
  call : Request → CommandCall tables
  noReceipts : tables.commands start = []
  recorded : ∀ row db, tables.commands (tables.record row db) = tables.commands db ++ [row]

/-- A handler that has not answered yet. -/
inductive CommandPhase (Request : Type) where
  /-- In the first transaction, in front of the writer's effect. -/
  | applying (request : Request) (commandId : UUID)
  /-- The unique constraint has refused its row. -/
  | conflicted (request : Request)

structure CommandWorld (service : CommandService) where
  db : service.Db
  handlers : Nat → Option (CommandPhase service.Request)

inductive CommandEvent (service : CommandService) where
  /-- A handler takes a request up; `uuid4()` draws its identity. -/
  | take (handler : Nat) (request : service.Request) (commandId : UUID)
  | commit (handler : Nat)
  /-- The same, and the reply does not arrive. -/
  | commitUnheard (handler : Nat)
  | conclude (handler : Nat)
  /-- The handler's process ends, and its transaction is rolled back. -/
  | stop (handler : Nat)
  /-- A transaction of another store. -/
  | other (change : { change : service.Db → service.Db //
      ∀ db, service.tables.commands (change db) = service.tables.commands db })

structure CommandReply (service : CommandService) where
  request : service.Request
  result : Except StoreError CommandAccepted

section Machine
variable {service : CommandService}

def CommandWorld.receipts (world : CommandWorld service) : List ResumeCommand :=
  service.tables.commands world.db

def CommandWorld.set (world : CommandWorld service) (handler : Nat)
    (phase : Option (CommandPhase service.Request)) : CommandWorld service :=
  { world with handlers := Function.update world.handlers handler phase }

/-- The handler is done and answers. -/
def CommandWorld.answer (world : CommandWorld service) (handler : Nat) (request : service.Request)
    (result : Except StoreError CommandAccepted) :
    CommandWorld service × Option (CommandReply service) :=
  (world.set handler none, some ⟨request, result⟩)

/-- The end of the first transaction. Only the store's own insert can violate
`uq_resume_commands_actor_request`: the handler then goes on in a second transaction. -/
def CommandWorld.commit (world : CommandWorld service) (handler : Nat) (request : service.Request)
    (commandId : UUID) : CommandWorld service × Option (CommandReply service) :=
  let call := service.call request
  match call.writer.apply world.db call.tenant call.request commandId with
  | .error reason => world.answer handler request (.error reason)
  | .ok _ =>
    match call.commit commandId world.db with
    | .error reason =>
      if reason = .integrity "uq_resume_commands_actor_request" then
        (world.set handler (some (.conflicted request)), none)
      else world.answer handler request (.error reason)
    | .ok (after, accepted) =>
      if service.checks after then
        ({ world with db := after }.answer handler request (.ok accepted))
      else world.answer handler request (.error (.integrity "check constraint"))

def CommandWorld.serve (world : CommandWorld service) :
    CommandEvent service → CommandWorld service × Option (CommandReply service)
  | .take handler request commandId =>
    if (world.handlers handler).isSome then (world, none)
    else match (service.call request).begin world.db with
    | .error reason => world.answer handler request (.error reason)
    | .ok (some accepted) => world.answer handler request (.ok accepted)
    | .ok none => (world.set handler (some (.applying request commandId)), none)
  | .commit handler =>
    match world.handlers handler with
    | some (.applying request commandId) => world.commit handler request commandId
    | some (.conflicted _) | none => (world, none)
  | .commitUnheard handler =>
    match world.handlers handler with
    | some (.applying request commandId) =>
      ((world.commit handler request commandId).1.set handler none, none)
    | some (.conflicted _) | none => (world, none)
  | .conclude handler =>
    match world.handlers handler with
    | some (.conflicted request) =>
      world.answer handler request ((service.call request).conclude world.db)
    | some (.applying ..) | none => (world, none)
  | .stop handler => (world.set handler none, none)
  | .other change => ({ world with db := change.val world.db }, none)

end Machine

/-- The handlers of a service. -/
def commandHandlers (service : CommandService) :
    Machine (CommandWorld service) (CommandEvent service) (Option (CommandReply service)) where
  start := ⟨service.start, fun _ => none⟩
  step := CommandWorld.serve

end Pathfinder
