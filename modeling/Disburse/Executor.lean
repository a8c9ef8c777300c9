import Disburse.Ledger.Interface

/-!
Transfers over the ledger. One attempt is one submission: read the account's sequence, build the
payment, simulate it if configured, sign it and submit it. Confirmation is a separate, bounded
wait, so that a caller can store the hash in between.
-/

namespace Disburse

open Disburse.Ledger

/-- How transfers are built, and how long their confirmation is awaited. -/
structure ExecutorConfig where
  sourceAccount : String
  passphrase : String
  baseFee : UInt32
  /-- For how many seconds a transaction stays valid. -/
  timeoutSeconds : UInt64
  pollMilliseconds : UInt64
  maxPolls : UInt32
  /-- Simulate before signing. -/
  simulates : Bool

/-- A transfer that is asked for. -/
structure TransferRequest where
  destination : String
  amount : Decimal
  asset : String
  /-- Ties the ledger's history to a payout. -/
  memo : String
  deriving DecidableEq

/-- Under which hash, and in which ledger, a transfer was confirmed. -/
structure TransferReceipt where
  transactionRef : String
  ledgerRef : Int64
  deriving DecidableEq

/-- An executor: a key and its settings. -/
structure Executor where
  signer : Signer
  config : ExecutorConfig

namespace Executor

/-- The next sequence number, if there is one. -/
def nextSequence? (n : Int64) : Option Int64 :=
  if n = Int64.maxValue then none else some (n + 1)

/-- The end of the validity that starts at an instant, as late as can be written. -/
def maxTime (config : ExecutorConfig) (now : Instant) : Int64 :=
  let limit := Int64.maxValue.toInt
  Int64.ofInt (min limit (now.seconds + min limit config.timeoutSeconds.toNat))

/-- The transaction for a request, at the next number of its account. -/
def build (config : ExecutorConfig) (request : TransferRequest) (sequence : Int64)
    (now : Instant) : Transfer where
  source := config.sourceAccount
  sequence := sequence
  fee := config.baseFee
  maxTime := maxTime config now
  passphrase := config.passphrase
  memo := request.memo
  payment :=
    { destination := request.destination
      amount := request.amount
      asset := request.asset }

/-- One submission; gives the hash once the network has accepted it. -/
def submit (executor : Executor) (request : TransferRequest) : Task interface String := do
  let config := executor.config
  let last ← call (.accountSequence config.sourceAccount)
  let sequence ← Task.ofOutcome (.ofInRange (nextSequence? last))
  let transfer := build config request sequence (← now)
  if config.simulates then
    if let .invalid reason ← call (.simulate transfer) then
      Task.fail (.simulationFailed reason)
  match ← call (.submit (transfer.sign executor.signer)) with
  | .pending hash => return hash
  | .rejected _ reason => Task.fail (.executionFailed reason)

/-- The reason of a transfer that the ledger has failed. -/
def failureText (hash result : String) : String :=
  s!"transaction {hash} failed on-chain: {result}"

/-- Poll until the transaction is final, at most `polls` times. Errors of a poll are passed
over. -/
def poll (executor : Executor) (hash : String) : (polls : Nat) → Task interface TransferReceipt
  | 0 => Task.fail (.confirmationTimeout hash executor.config.maxPolls)
  | polls + 1 => do
    pause executor.config.pollMilliseconds.toNat
    match ← Task.attempt (call (.transactionStatus hash)) with
    | .ok (.success ledger) => return ⟨hash, ledger⟩
    | .ok (.failed result) => Task.fail (.executionFailed (failureText hash result))
    | .ok .notFound => poll executor hash polls
    | .error _ => poll executor hash polls

/-- Poll until there is a decision, at most as often as the settings say. -/
def awaitConfirmation (executor : Executor) (hash : String) : Task interface TransferReceipt :=
  executor.poll hash executor.config.maxPolls.toNat

/-- What the ledger says of a transfer, without waiting. -/
def lookup (hash : String) : Task interface TxStatus :=
  call (.transactionStatus hash)

/-- Hand a transfer in and wait for its confirmation. -/
def execute (executor : Executor) (request : TransferRequest) : Task interface TransferReceipt := do
  executor.awaitConfirmation (← executor.submit request)

end Executor

end Disburse
