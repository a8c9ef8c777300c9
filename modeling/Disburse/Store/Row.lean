import Disburse.Decimal.Reader
import Disburse.Payout.Basic

/-!
Rows of the payout table: texts and numbers. Instants are stored in whole milliseconds, rounded
down. Rows that did not come from a payout may hold other numbers than 64-bit integers, and even
those may denote none.
-/

namespace Disburse

/-- A row whose columns of numbers hold values of a type. -/
structure PayoutRow (ν : Type) where
  id : String
  recipient : String
  amount : String
  asset : String
  status : String
  kind : String
  questRef : Option String
  submissionRef : Option String
  submittedHash : Option String
  transactionRef : Option String
  ledgerRef : Option ν
  failureReason : Option String
  retryCount : ν
  maxRetries : ν
  nextRetryAt : Option ν
  processedAt : Option ν
  claimedAt : Option ν
  createdAt : ν
  updatedAt : ν
  deriving DecidableEq

namespace PayoutRow

/-- An instant as the number of its millisecond. -/
def ofTime (t : Instant) : Int64 :=
  Int64.ofInt t.toMilliseconds

def ofCount (n : UInt32) : Int64 :=
  Int64.ofNat n.toNat

/-- The instant of a number, or the error of a number that is out of range. -/
def toTime (n : Int64) : Except Error Instant :=
  match Instant.ofMilliseconds? n.toInt with
  | some t => .ok t
  | none => .error (.validation s!"stored timestamp out of range: {n.toInt}")

/-- The count of a number, or the error of a number that is out of range. -/
def toCount (n : Int64) : Except Error UInt32 :=
  if 0 ≤ n.toInt ∧ n.toInt < UInt32.size then .ok (UInt32.ofNat n.toInt.toNat)
  else .error (.validation s!"stored count out of range: {n.toInt}")

/-- The amount of a text, or the error of a text that is none. -/
def toAmount (s : String) : Except Error Decimal :=
  match Decimal.read s with
  | .ok d => .ok d
  | .error fault => .error (.validation s!"stored amount {s}: {fault.message}")

def toTime? : Option Int64 → Except Error (Option Instant)
  | none => .ok none
  | some n => (toTime n).map some

def ofPayout (p : Payout) : PayoutRow Int64 where
  id := p.id.toText
  recipient := p.recipient
  amount := p.amount.toText
  asset := p.asset
  status := p.status.toText
  kind := p.kind.toText
  questRef := p.questRef
  submissionRef := p.submissionRef
  submittedHash := p.submittedHash
  transactionRef := p.transactionRef
  ledgerRef := p.ledgerRef
  failureReason := p.failureReason
  retryCount := ofCount p.retryCount
  maxRetries := ofCount p.maxRetries
  nextRetryAt := p.nextRetryAt.map ofTime
  processedAt := p.processedAt.map ofTime
  claimedAt := p.claimedAt.map ofTime
  createdAt := ofTime p.createdAt
  updatedAt := ofTime p.updatedAt

/-- The payout that a row denotes, or what is wrong with the first column that is. -/
def toPayout (r : PayoutRow Int64) : Except Error Payout := do
  let id ← PayoutId.parse r.id
  let amount ← toAmount r.amount
  let status ← Status.parse r.status
  let kind ← Kind.parse r.kind
  let retryCount ← toCount r.retryCount
  let maxRetries ← toCount r.maxRetries
  let nextRetryAt ← toTime? r.nextRetryAt
  let processedAt ← toTime? r.processedAt
  let claimedAt ← toTime? r.claimedAt
  let createdAt ← toTime r.createdAt
  let updatedAt ← toTime r.updatedAt
  return {
    id, amount, status, kind, retryCount, maxRetries, nextRetryAt, processedAt, claimedAt,
    createdAt, updatedAt
    recipient := r.recipient
    asset := r.asset
    questRef := r.questRef
    submissionRef := r.submissionRef
    submittedHash := r.submittedHash
    transactionRef := r.transactionRef
    ledgerRef := r.ledgerRef
    failureReason := r.failureReason }

/-- The row with the columns that an update writes taken from another one. -/
def updated {ν : Type} (r new : PayoutRow ν) : PayoutRow ν :=
  { r with
    status := new.status
    submittedHash := new.submittedHash
    transactionRef := new.transactionRef
    ledgerRef := new.ledgerRef
    failureReason := new.failureReason
    retryCount := new.retryCount
    maxRetries := new.maxRetries
    nextRetryAt := new.nextRetryAt
    processedAt := new.processedAt
    claimedAt := new.claimedAt
    updatedAt := new.updatedAt }

def map {ν μ : Type} (f : ν → μ) (r : PayoutRow ν) : PayoutRow μ :=
  { r with
    ledgerRef := r.ledgerRef.map f
    retryCount := f r.retryCount
    maxRetries := f r.maxRetries
    nextRetryAt := r.nextRetryAt.map f
    processedAt := r.processedAt.map f
    claimedAt := r.claimedAt.map f
    createdAt := f r.createdAt
    updatedAt := f r.updatedAt }

end PayoutRow

end Disburse
