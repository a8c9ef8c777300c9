import Disburse.Database.Location
import Disburse.Http.Status
import Disburse.Payout.Status

namespace Disburse

/-- The errors that callers see. -/
inductive Error where
  | notFound (subject : String)
  /-- The payout is in a state that the request does not allow. -/
  | invalidState (id : String) (status : Status) (reason : String)
  /-- The address in a claim is not the recipient's. -/
  | mismatch (expected supplied : String)
  | validation (text : String)
  | executionFailed (text : String)
  | confirmationTimeout (hash : String) (attempts : UInt32)
  | simulationFailed (text : String)
  | signing (text : String)
  | rpc (code : Int64) (text : String)
  | database (fault : Database.Fault)
  | migration (fault : Database.Fault)
  | http (fault : Http.Fault)
  | config (text : String)
  deriving DecidableEq

namespace Error

/-- The classification shown to callers. -/
def kind : Error → String
  | .notFound _ => "not_found"
  | .invalidState .. => "invalid_state"
  | .mismatch .. => "mismatch"
  | .validation _ => "validation"
  | .executionFailed _ => "execution_failed"
  | .confirmationTimeout .. => "confirmation_timeout"
  | .simulationFailed _ => "simulation_failed"
  | .signing _ => "signing"
  | .rpc .. => "rpc"
  | .database _ => "database"
  | .migration _ => "database"
  | .http _ => "http"
  | .config _ => "config"

def message : Error → String
  | .notFound subject => s!"Payout not found: {subject}"
  | .invalidState id status reason => s!"Payout {id} is {status.toText}: {reason}"
  | .mismatch expected supplied =>
    s!"Recipient address mismatch (expected {expected}, got {supplied})"
  | .validation text => s!"Validation error: {text}"
  | .executionFailed text => s!"Transaction execution failed: {text}"
  | .confirmationTimeout hash attempts =>
    s!"Transaction {hash} not confirmed after {attempts.toNat} attempts"
  | .simulationFailed text => s!"Transaction simulation failed: {text}"
  | .signing text => s!"Signing error: {text}"
  | .rpc code text => s!"RPC error {code.toInt}: {text}"
  | .database fault => s!"Database error: {fault.message}"
  | .migration fault => s!"Migration error: while executing migrations: {fault.message}"
  | .http fault => s!"HTTP error: {fault.message}"
  | .config text => s!"Configuration error: {text}"

/-- The status code under which an error is told. -/
def statusCode : Error → Nat
  | .notFound _ => 404
  | .invalidState .. => 409
  | .mismatch .. => 422
  | .validation _ => 422
  | _ => 500

end Error

end Disburse
