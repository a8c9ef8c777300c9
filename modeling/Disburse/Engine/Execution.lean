import Disburse.Engine.Interface

/-!
One execution of a claimed payout: submit the transfer, store its hash, wait for its confirmation
and book what came of it. Errors of a transfer become retries; only errors of the store are
returned. Writes behind an accepted transfer are repeated, since the transfer cannot be undone.
-/

namespace Disburse.Engine

/-- How often a write is tried. -/
def writeAttempts : Nat := 3

/-- The pause after a number of failed writes. -/
def writePause (failures : Nat) : Nat :=
  50 * failures

/-- Do something that may return an error, again after a pause while tries are left. It is told
how often it has failed. -/
def persist {α : Type} (act : Nat → Work α) (failures : Nat) : (tries : Nat) → Work α
  | 0 => act failures
  | tries + 1 => do
    match ← (act failures).attempt with
    | .ok a => return a
    | .error _ =>
      pause (writePause (failures + 1))
      persist act (failures + 1) tries

/-- Try something as often as writes are tried. -/
def persistently {α : Type} (act : Nat → Work α) : Work α :=
  persist act 0 (writeAttempts - 1)

/-- Book a failed attempt, unless the record has left processing. Gives the new status if it was
written, and only then tells the listeners. -/
def bookFailure (policy : RetryPolicy) (p : Payout) (reason : String) :
    Work (Option Status) := do
  let failed ← Task.ofOutcome (.ofInRange (p.recordFailure? reason policy (← now)))
  if ← store (.saveIf failed .processing) then
    publish (.failed p.id failed.recipient reason)
    return some failed.status
  else return none

/-- Book a failed attempt, unless the record has left processing. -/
def recordFailure (policy : RetryPolicy) (id : PayoutId) (reason : String) :
    Work (Option Status) := do
  let p ← load id
  if p.status = .processing then bookFailure policy p reason else return none

/-- An attempt that its transfer ended. -/
def failAttempt (policy : RetryPolicy) (p : Payout) (e : Error) : Work Unit := do
  let _ ← bookFailure policy p e.message

/-- Store the hash of a submission. The execution goes on even if that never succeeds. -/
def recordSubmission (p : Payout) (hash : String) : Work Payout := do
  let submitted := p.markSubmitted hash (← now)
  let _ ← Task.attempt (persistently fun _ => store (.saveIf submitted .processing))
  return submitted

/-- Swap the record to completed, from whatever status it has. Gives nothing if another transfer
completed it; a record that this transfer completed counts as written. -/
def writeCompletion (id : PayoutId) (receipt : TransferReceipt) (current : Payout) :
    (tries : Nat) → Work (Option Payout)
  | 0 => invalidState id current.status "record kept changing while completion was recorded"
  | tries + 1 => do
    if current.status = .completed then
      return if current.transactionRef = some receipt.transactionRef then some current else none
    let completed := current.markCompleted receipt.transactionRef receipt.ledgerRef (← now)
    if ← store (.saveIf completed current.status) then
      return some completed
    writeCompletion id receipt (← load id) tries

/-- Record a confirmed transfer; says whether this call, or an earlier write of it, completed the
payout. -/
def complete (p : Payout) (receipt : TransferReceipt) : Work Bool := do
  let completed ← persistently fun failures => do
    let current ← if failures = 0 then pure p else load p.id
    writeCompletion p.id receipt current writeAttempts
  match completed with
  | none => return false
  | some done =>
    publish (.processed p.id done.recipient done.amount receipt.transactionRef)
    return true

/-- The transfer that a payout asks for. Its memo is the identifier. -/
def requestOf (p : Payout) : TransferRequest where
  destination := p.recipient
  amount := p.amount
  asset := p.asset
  memo := p.id.toText

/-- One attempt, from its submission to its booking. A payout that is not processing is left
alone; one whose attempt cannot be counted is a crash. -/
def execute (policy : RetryPolicy) (id : PayoutId) : Work Unit := do
  let p ← load id
  if p.status ≠ .processing then return
  let _ ← Task.ofOutcome (.ofInRange p.attempt?)
  match ← Task.attempt (transfer (.submit (requestOf p))) with
  | .error e => failAttempt policy p e
  | .ok hash =>
    let submitted ← recordSubmission p hash
    match ← Task.attempt (transfer (.awaitConfirmation hash)) with
    | .ok receipt => let _ ← complete submitted receipt
    | .error e => failAttempt policy submitted e

/-- Settle a processing payout whose execution was lost. One with a hash is looked up on the
ledger first: a transfer that landed is completed, never sent again. -/
def recover (policy : RetryPolicy) (id : PayoutId) : Work (Option Status) := do
  let p ← load id
  if p.status ≠ .processing then return none
  match p.submittedHash with
  | none => bookFailure policy p "execution interrupted"
  | some hash =>
    match ← transfer (.lookup hash) with
    | .success ledger =>
      let isCompleted ← complete p ⟨hash, ledger⟩
      return if isCompleted then some .completed else none
    | .failed result => bookFailure policy p (Executor.failureText hash result)
    | .notFound => bookFailure policy p "execution interrupted"

/-- An execution in the background. If it crashes, its attempt is booked as failed, so that the
payout cannot stay in processing; errors end here. -/
def supervise (policy : RetryPolicy) (id : PayoutId) : Work Unit :=
  .ofProgram do
    match ← (execute policy id).outcome with
    | .error .crash =>
      match ← (recordFailure policy id "execution task panicked").outcome with
      | .error .crash => return .error .crash
      | _ => return .ok ()
    | _ => return .ok ()

end Disburse.Engine
