import Disburse.Store.Quantity
import Disburse.Store.Row

/-!
Rows given cell by cell, and what is read back from them. Columns left out take their default; the
columns of a payout that must be there refuse to be empty. Only integers are read back from a
column of numbers.
-/

namespace Disburse

open Disburse.Text

/-- What is written into one column. -/
inductive Cell where
  | null
  | int (n : Int64)
  | text (s : String)
  deriving DecidableEq

namespace Cell

/-- A cell of a text column; numbers are stored as their digits. -/
def toText? : Cell → Option String
  | .null => none
  | .int n => some (String.ofList (Numeral.signed n.toInt))
  | .text s => some s

/-- A cell of a column of numbers. -/
def toQuantity? : Cell → Option Quantity
  | .null => none
  | .int n => some (.int n)
  | .text s => some (.ofText s)

end Cell

namespace PayoutRow

def columns : List String :=
  ["id", "recipient_address", "amount", "asset", "status", "kind", "quest_ref", "submission_ref",
    "transaction_ref", "ledger_ref", "failure_reason", "retry_count", "max_retries",
    "next_retry_at", "processed_at", "claimed_at", "created_at", "updated_at", "submitted_hash"]

/-- The cell of a column, or its default. -/
def cell (cells : List (String × Cell)) (column : String) (default : Cell) : Cell :=
  (cells.lookup column).getD default

/-- A column that must not be empty. -/
def filled {α : Type} (column : String) : Option α → Except Database.Fault α
  | some a => .ok a
  | none => .error (.refused 1299 s!"NOT NULL constraint failed: payouts.{column}")

def ofCells (cells : List (String × Cell)) : Except Database.Fault (PayoutRow Quantity) := do
  match cells.find? fun c => !columns.contains c.1 with
  | some (column, _) => throw (.refused 1 s!"table payouts has no column named {column}")
  | none => pure ()
  let text? := fun column => (cell cells column .null).toText?
  let quantity? := fun column => (cell cells column .null).toQuantity?
  let text := fun column => filled column (text? column)
  let quantity := fun column default => filled column (cell cells column default).toQuantity?
  return {
    id := ← text "id"
    recipient := ← text "recipient_address"
    amount := ← text "amount"
    asset := ← text "asset"
    status := ← text "status"
    kind := ← text "kind"
    questRef := text? "quest_ref"
    submissionRef := text? "submission_ref"
    submittedHash := text? "submitted_hash"
    transactionRef := text? "transaction_ref"
    ledgerRef := quantity? "ledger_ref"
    failureReason := text? "failure_reason"
    retryCount := ← quantity "retry_count" (.int 0)
    maxRetries := ← quantity "max_retries" (.int 3)
    nextRetryAt := quantity? "next_retry_at"
    processedAt := quantity? "processed_at"
    claimedAt := quantity? "claimed_at"
    createdAt := ← quantity "created_at" .null
    updatedAt := ← quantity "updated_at" .null }

def integer (column : String) (optional : Bool) : Quantity → Except Database.Fault Int64
  | .int n => .ok n
  | held => .error (.mismatch column optional held.typeName)

/-- A column of integers that may be empty. -/
def integer? (column : String) : Option Quantity → Except Database.Fault (Option Int64)
  | none => .ok none
  | some held => (integer column true held).map some

/-- The row with its integers, or the first column that holds something else. -/
def integers (r : PayoutRow Quantity) : Except Database.Fault (PayoutRow Int64) :=
  return { r with
    ledgerRef := ← integer? "ledger_ref" r.ledgerRef
    retryCount := ← integer "retry_count" false r.retryCount
    maxRetries := ← integer "max_retries" false r.maxRetries
    nextRetryAt := ← integer? "next_retry_at" r.nextRetryAt
    processedAt := ← integer? "processed_at" r.processedAt
    claimedAt := ← integer? "claimed_at" r.claimedAt
    createdAt := ← integer "created_at" false r.createdAt
    updatedAt := ← integer "updated_at" false r.updatedAt }

end PayoutRow

end Disburse
