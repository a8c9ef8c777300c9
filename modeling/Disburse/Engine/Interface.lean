import Disburse.Event.Basic
import Disburse.Executor
import Disburse.Store.Call

namespace Disburse

/-- What the engine asks of an executor. -/
inductive TransferCall where
  | submit (request : TransferRequest)
  | awaitConfirmation (hash : String)
  | lookup (hash : String)
  deriving DecidableEq

/-- What a call of the transfer executor gives when it succeeds. -/
abbrev TransferCall.Value : TransferCall → Type
  | .submit _ => String
  | .awaitConfirmation _ => TransferReceipt
  | .lookup _ => Ledger.TxStatus

/-- The calls over a ledger. -/
def Executor.answer (executor : Executor) : (c : TransferCall) → Task Ledger.interface c.Value
  | .submit request => executor.submit request
  | .awaitConfirmation hash => executor.awaitConfirmation hash
  | .lookup hash => Executor.lookup hash

namespace Engine

/-- What the engine asks of its surroundings. -/
inductive Request where
  | store (c : StoreCall)
  | transfer (c : TransferCall)
  | now
  | freshId
  | publish (e : Event)
  | dispatch (id : PayoutId)
  | pause (milliseconds : Nat)

/-- The requests of the engine with the types of their answers. -/
abbrev interface : Interface where
  Request := Request
  Answer
    | .store c => c.Answer
    | .transfer c => Outcome c.Value
    | .now => Instant
    | .freshId => PayoutId
    | .publish _ => Unit
    | .dispatch _ => Unit
    | .pause _ => Unit

/-- A task of the engine. -/
abbrev Work (α : Type) : Type :=
  Task interface α

/-- A call of the store. Its errors are errors of the task. -/
def store (c : StoreCall) : Work c.Value :=
  .ofProgram do
    let answer : c.Answer ← Program.request (I := interface) (.store c)
    return Outcome.ofExcept answer

/-- A call of the executor, which may also crash. -/
def transfer (c : TransferCall) : Work c.Value :=
  .ofProgram (.request (I := interface) (.transfer c))

/-- The time of day. A clock that is set to a time before 1970 is a crash. -/
def now : Work Instant :=
  .ofProgram do
    let t : Instant ← Program.request (I := interface) .now
    return Outcome.ofInRange t.reading?

def freshId : Work PayoutId :=
  ExceptT.lift (.request (I := interface) .freshId)

def publish (e : Event) : Work Unit :=
  ExceptT.lift (.request (I := interface) (.publish e))

/-- Start an execution in the background. -/
def dispatch (id : PayoutId) : Work Unit :=
  ExceptT.lift (.request (I := interface) (.dispatch id))

def pause (milliseconds : Nat) : Work Unit :=
  ExceptT.lift (.request (I := interface) (.pause milliseconds))

/-- The record with an identifier, which must exist. -/
def load (id : PayoutId) : Work Payout := do
  match ← store (.get id) with
  | some p => return p
  | none => Task.fail (.notFound id.toText)

/-- The error for a request that a payout's state does not allow. -/
def invalidState {α : Type} (id : PayoutId) (status : Status) (reason : String) : Work α :=
  Task.fail (.invalidState id.toText status reason)

end Engine

end Disburse
