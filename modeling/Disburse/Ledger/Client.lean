import Disburse.Http.Exchange
import Disburse.Ledger.Interface
import Disburse.Ledger.Response
import Disburse.Text.Numeral

namespace Disburse.Ledger

open Disburse.Json
open Disburse.Text

/-- A client of the ledger: where procedures are called, and where accounts are looked up. -/
structure Client where
  rpcUrl : String
  accountsUrl : String

namespace Client

def accountUrl (client : Client) (account : String) : Http.Url :=
  let base := (client.accountsUrl.toList.reverse.dropWhile (· = '/')).reverse
  .read s!"{String.ofList base}/accounts/{account}"

/-- Call a remote procedure. An error in the answer wins over a result. -/
def rpc {α : Type} (client : Client) (method : String) (parameters : List (String × Json))
    (read : Json → Option α) : Task Http.interface α := do
  let body := Json.obj [
    ("jsonrpc", .str "2.0"),
    ("id", .int 1),
    ("method", .str method),
    ("params", .obj parameters)]
  let response ← Http.exchange
    { method := .post, url := .read client.rpcUrl, body := some body }
    (RpcResponse.ofJson? read)
  match response.error, response.result with
  | some e, _ => Task.fail (.rpc e.code e.message)
  | none, some a => return a
  | none, none => Task.fail (.rpc 0 s!"empty result from {method}")

/-- The number of the last transaction of an account. -/
def accountSequence (client : Client) (account : String) : Task Http.interface Int64 := do
  let read := fun v => do
    required (← fields? ["sequence"] 1 v) "sequence" text?
  let sequence ← Http.exchange
    { method := .get, url := client.accountUrl account, body := none } read
  match Numeral.int64? sequence with
  | some n => return n
  | none => Task.fail (.executionFailed s!"bad sequence: {sequence}")

def simulate (client : Client) (transfer : Transfer) : Task Http.interface Simulation := do
  let result ← client.rpc "simulateTransaction" [("transaction", .str transfer.encode)]
    SimulateResult.ofJson?
  return result.simulation

def submit (client : Client) (envelope : Envelope) : Task Http.interface Submission := do
  let result ← client.rpc "sendTransaction" [("transaction", .str envelope.text)]
    SendResult.ofJson?
  return result.submission

def transactionStatus (client : Client) (hash : String) : Task Http.interface TxStatus := do
  let result ← client.rpc "getTransaction" [("hash", .str hash)] StatusResult.ofJson?
  Task.ofOutcome (.ofExcept result.txStatus)

/-- The exchange behind each call of an executor. -/
def answer (client : Client) : (c : Call) → Task Http.interface c.Value
  | .accountSequence account => client.accountSequence account
  | .simulate transfer => client.simulate transfer
  | .submit envelope => client.submit envelope
  | .transactionStatus hash => client.transactionStatus hash

end Client

end Disburse.Ledger
