import Pathfinder.Domain.PythonText
import Pathfinder.Domain.Status
import Pathfinder.Library.Table

/-!
# Records of tool invocations

The recorder of `db/tool_invocations.py` on the rows of one run. Each call is one
transaction: `reserve` counts and inserts under the lock of the run's row. The
columns of actions and of times are left out.
-/
namespace Pathfinder
open KeyedTable

/-- `output_summary`. -/
structure OutputSummary where
  outputDigest : String
  outputBytes : Nat
  deriving DecidableEq, Repr

/-- A row of `tool_invocations`. -/
structure ToolInvocationRow where
  originatingActorUserId : UUID
  toolName : String
  effect : ToolEffect
  argsDigest : String
  status : ToolInvocationStatus
  attempt : Nat
  latencyMs : Option Nat
  resultSummary : Option OutputSummary
  errorCategory : Option String
  deriving DecidableEq, Repr

/-- `ToolInvocationReservation`. -/
structure ToolInvocationReservation where
  invocationId : UUID
  callNumber : Nat
  deriving DecidableEq, Repr

/-- What `succeed` and `fail` record. -/
inductive TerminalRecord where
  | succeeded (resultSummary : OutputSummary)
  | failed (errorCategory : String)
  deriving DecidableEq, Repr

/-- The values `_finish` writes. -/
def ToolInvocationRow.finish (row : ToolInvocationRow) (latencyMs : Nat) :
    TerminalRecord → ToolInvocationRow
  | .succeeded summary =>
    { row with
      status := .succeeded
      latencyMs := some latencyMs
      resultSummary := some summary
      errorCategory := none }
  | .failed category =>
    { row with
      status := .failed
      latencyMs := some latencyMs
      resultSummary := none
      errorCategory := some category }

/-- What happens to an invocation, in order. -/
inductive ToolEvent where
  | reserved (invocationId : UUID) (toolName : String)
  | started (invocationId : UUID) (attempt : Nat)
  | handled (invocationId : UUID) (attempt : Nat)
  /-- Cancellation, the end of the deadline or a revocation has been seen. -/
  | observed (invocationId : UUID)
  | finished (invocationId : UUID) (record : TerminalRecord)
  deriving DecidableEq, Repr

structure ToolLedger where
  rows : Table UUID ToolInvocationRow
  log : List ToolEvent

inductive ToolRecorderError where
  | authorization | limit | recorder | unavailable | integrity
  deriving DecidableEq, Repr

namespace ToolLedger

def put (ledger : ToolLedger) (invocationId : UUID) (row : ToolInvocationRow)
    (event : ToolEvent) : ToolLedger :=
  ⟨ledger.rows.put invocationId row, ledger.log ++ [event]⟩

def note (ledger : ToolLedger) (event : ToolEvent) : ToolLedger :=
  { ledger with log := ledger.log ++ [event] }

/-- `reserve`. `authorized` is what it reads of the membership and of the run. -/
def reserve (ledger : ToolLedger) (reachable authorized : Bool) (invocationId actorUserId : UUID)
    (toolName : String) (effect : ToolEffect) (argsDigest : String) (callLimit : Nat) :
    Except ToolRecorderError (ToolLedger × ToolInvocationReservation) :=
  if !reachable then .error .unavailable
  else if !authorized then .error .authorization
  else
    let priorCount := ledger.rows.keys.length
    if callLimit ≤ priorCount then .error .limit
    else if (ledger.rows.get invocationId).isSome then .error .integrity
    else
      let row : ToolInvocationRow :=
        { originatingActorUserId := actorUserId, toolName := toolName, effect := effect,
          argsDigest := argsDigest, status := .prepared, attempt := 0, latencyMs := none,
          resultSummary := none, errorCategory := none }
      .ok (ledger.put invocationId row (.reserved invocationId toolName),
        ⟨invocationId, priorCount + 1⟩)

/-- `start_attempt`. -/
def startAttempt (ledger : ToolLedger) (reachable authorized : Bool) (invocationId : UUID)
    (attempt : Nat) : Except ToolRecorderError ToolLedger :=
  if !reachable then .error .unavailable
  else if !authorized then .error .authorization
  else match ledger.rows.get invocationId with
  | none => .error .recorder
  | some row =>
    let expectedStatus := if attempt = 1 then .prepared else ToolInvocationStatus.executing
    if row.status = expectedStatus ∧ row.attempt = attempt - 1 then
      .ok (ledger.put invocationId { row with status := .executing, attempt := attempt }
        (.started invocationId attempt))
    else if row.status = .executing ∧ row.attempt = attempt then .ok ledger
    else .error .recorder

/-- `_finish`. -/
def finish (ledger : ToolLedger) (reachable : Bool) (invocationId : UUID) (latencyMs : Nat)
    (record : TerminalRecord) : Except ToolRecorderError ToolLedger :=
  if !reachable then .error .unavailable
  else match ledger.rows.get invocationId with
  | none => .error .recorder
  | some row =>
    if row.status = .prepared ∨ row.status = .executing then
      .ok (ledger.put invocationId (row.finish latencyMs record) (.finished invocationId record))
    else .error .recorder

end ToolLedger
end Pathfinder
