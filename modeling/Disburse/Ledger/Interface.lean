import Disburse.Ledger.Signer
import Disburse.Program
import Disburse.Time.Instant

namespace Disburse.Ledger

/-- What a simulation says. -/
inductive Simulation where
  | valid
  | invalid (reason : String)
  deriving DecidableEq

/-- What the network makes of a transaction that was handed in. -/
inductive Submission where
  /-- Accepted into the queue; confirmation is outstanding. -/
  | pending (hash : String)
  /-- Refused; nothing was applied. -/
  | rejected (hash : Option String) (reason : String)
  deriving DecidableEq

/-- Where a transaction stands. -/
inductive TxStatus where
  | success (ledger : Int64)
  | failed (result : String)
  | notFound
  deriving DecidableEq

/-- The calls of the network that an executor makes. -/
inductive Call where
  | accountSequence (account : String)
  | simulate (transfer : Transfer)
  /-- Hand in a signed transfer; the one call that changes the ledger. -/
  | submit (envelope : Envelope)
  /-- Where a submitted transfer stands. -/
  | transactionStatus (hash : String)
  deriving DecidableEq

namespace Call

abbrev Value : Call → Type
  | .accountSequence _ => Int64
  | .simulate _ => Simulation
  | .submit _ => Submission
  | .transactionStatus _ => TxStatus

end Call

inductive Request where
  | call (c : Call)
  | now
  | pause (milliseconds : Nat)

/-- The requests of an executor with the types of their answers. -/
abbrev interface : Interface where
  Request := Request
  Answer
    | .call c => Outcome c.Value
    | .now => Instant
    | .pause _ => Unit

def call (c : Call) : Task interface c.Value :=
  .ofProgram (.request (I := interface) (.call c))

/-- The time of day. A clock that is set to a time before 1970 is a crash. -/
def now : Task interface Instant :=
  .ofProgram do
    let t : Instant ← Program.request (I := interface) .now
    return Outcome.ofInRange t.reading?

def pause (milliseconds : Nat) : Task interface Unit :=
  ExceptT.lift (.request (I := interface) (.pause milliseconds))

end Disburse.Ledger
