import Disburse.Json.Record
import Disburse.Ledger.Interface

namespace Disburse.Ledger

open Disburse.Json

structure RpcError where
  code : Int64
  message : String
  deriving DecidableEq

/-- A response of a procedure; both parts may be missing. -/
structure RpcResponse (α : Type) where
  result : Option α
  error : Option RpcError

structure SimulateResult where
  error : Option String

structure SendResult where
  status : String
  hash : Option String
  errorResult : Option String

structure StatusResult where
  status : String
  ledger : Option Int64
  result : Option String

def RpcError.ofJson? (v : Json) : Option RpcError := do
  let fields ← fields? ["code", "message"] 2 v
  return {
    code := ← required fields "code" int64?
    message := ← required fields "message" text? }

def RpcResponse.ofJson? {α : Type} (read : Json → Option α) (v : Json) :
    Option (RpcResponse α) := do
  let fields ← fields? ["result", "error"] 2 v
  return {
    result := ← optional fields "result" read
    error := ← optional fields "error" RpcError.ofJson? }

def SimulateResult.ofJson? (v : Json) : Option SimulateResult := do
  let fields ← fields? ["error"] 1 v
  return { error := ← optional fields "error" text? }

def SendResult.ofJson? (v : Json) : Option SendResult := do
  let fields ← fields? ["status", "hash", "errorResultXdr"] 3 v
  return {
    status := ← required fields "status" text?
    hash := ← optional fields "hash" text?
    errorResult := ← optional fields "errorResultXdr" text? }

def StatusResult.ofJson? (v : Json) : Option StatusResult := do
  let fields ← fields? ["status", "ledger", "resultXdr"] 3 v
  return {
    status := ← required fields "status" text?
    ledger := ← optional fields "ledger" int64?
    result := ← optional fields "resultXdr" text? }

/-- A result without an error is valid. -/
def SimulateResult.simulation (r : SimulateResult) : Simulation :=
  match r.error with
  | some reason => .invalid reason
  | none => .valid

/-- Only a pending or a repeated transaction with a hash counts as accepted. -/
def SendResult.submission (r : SendResult) : Submission :=
  let rejected : Submission := .rejected r.hash <|
    match r.errorResult with
    | some detail => s!"{r.status}: {detail}"
    | none => r.status
  match r.hash with
  | some hash => if r.status = "PENDING" ∨ r.status = "DUPLICATE" then .pending hash else rejected
  | none => rejected

/-- A success without a ledger number is malformed, and confirms nothing. -/
def StatusResult.txStatus (r : StatusResult) : Except Error TxStatus :=
  if r.status = "SUCCESS" then
    match r.ledger with
    | some ledger => .ok (.success ledger)
    | none => .error (.rpc (-32603) "getTransaction reported SUCCESS without a ledger")
  else if r.status = "FAILED" then .ok (.failed (r.result.getD "FAILED"))
  else .ok .notFound

end Disburse.Ledger
