import Disburse.Decimal.Basic
import Disburse.Error
import Disburse.Payout.Id
import Disburse.Text.Characters
import Disburse.Time.Instant
import Disburse.Time.Span

/-!
One owed transfer and where it stands, and the six transitions between its states:

    pending --claim--> processing --success--> completed
                         |    ^
                 failure |    | sweep or recovery
                         v    |
                      retry scheduled
                         |  no attempts left
                         v
                       failed --operator--> processing

The transitions are bookkeeping on one record; storing the result is the business of callers.
-/

namespace Disburse

open Disburse.Text

/-- How failed attempts are retried. -/
structure RetryPolicy where
  /-- The delay before doubling. -/
  baseUnit : Span
  /-- How many failed attempts a new payout may have, and one that an operator resets. -/
  defaultMaxRetries : UInt32

/-- The base unit times two to the number of failed attempts; from twenty on it stays the same.
It is absent when it leaves the range of spans. -/
def RetryPolicy.backoff? (policy : RetryPolicy) (retryCount : UInt32) : Option Span :=
  policy.baseUnit.times? (Nat.pow 2 (min retryCount.toNat 20))

/-- One owed transfer and where it stands. -/
structure Payout where
  id : PayoutId
  recipient : String
  amount : Decimal
  asset : String
  status : Status
  kind : Kind
  questRef : Option String
  submissionRef : Option String
  /-- Hash of the attempt in flight, stored before its confirmation is awaited. -/
  submittedHash : Option String
  transactionRef : Option String
  ledgerRef : Option Int64
  failureReason : Option String
  retryCount : UInt32
  maxRetries : UInt32
  nextRetryAt : Option Instant
  processedAt : Option Instant
  claimedAt : Option Instant
  createdAt : Instant
  updatedAt : Instant
  deriving DecidableEq

/-- What is known about a payout before it is recorded. -/
structure NewPayout where
  recipient : String
  amount : Decimal
  asset : String
  kind : Kind
  questRef : Option String
  submissionRef : Option String
  maxRetries : Option UInt32

namespace NewPayout

/-- What a new payout is refused for. -/
def validate (new : NewPayout) : Except Error Unit :=
  if ¬ new.amount.IsPositive then
    .error (.validation s!"amount must be positive, got {new.amount.toText}")
  else if (trim new.recipient).isEmpty then
    .error (.validation "recipient_address must not be empty")
  else if (trim new.asset).isEmpty then
    .error (.validation "asset must not be empty")
  else .ok ()

end NewPayout

namespace Payout

/-- A new payout as it is first recorded. -/
def ofNew (new : NewPayout) (id : PayoutId) (defaultMaxRetries : UInt32) (now : Instant) :
    Payout where
  id := id
  recipient := new.recipient
  amount := new.amount
  asset := new.asset
  status := .pending
  kind := new.kind
  questRef := new.questRef
  submissionRef := new.submissionRef
  submittedHash := none
  transactionRef := none
  ledgerRef := none
  failureReason := none
  retryCount := 0
  maxRetries := new.maxRetries.getD defaultMaxRetries
  nextRetryAt := none
  processedAt := none
  claimedAt := none
  createdAt := now
  updatedAt := now

/-- The error for a request that the payout's state does not allow. -/
def invalidState (p : Payout) (reason : String) : Error :=
  .invalidState p.id.toText p.status reason

/-- Claims are granted on such payouts only. -/
def isClaimable (p : Payout) : Bool :=
  p.status = .pending && p.claimedAt.isNone

/-- From pending to processing. No other transition writes the time of the claim. -/
def markClaimed (p : Payout) (now : Instant) : Except Error Payout :=
  if p.isClaimable then
    .ok { p with claimedAt := some now, status := .processing, updatedAt := now }
  else .error (p.invalidState "payout is not claimable")

/-- The current attempt reached the network under this hash. -/
def markSubmitted (p : Payout) (hash : String) (now : Instant) : Payout :=
  { p with submittedHash := some hash, updatedAt := now }

/-- The transfer is on the ledger. The time of the first completion is kept. -/
def markCompleted (p : Payout) (transactionRef : String) (ledgerRef : Int64) (now : Instant) :
    Payout :=
  { p with
    status := .completed
    submittedHash := none
    transactionRef := some transactionRef
    ledgerRef := some ledgerRef
    processedAt := some (p.processedAt.getD now)
    failureReason := none
    nextRetryAt := none
    updatedAt := now }

/-- The number of the attempt that comes next, if it can be counted. -/
def attempt? (p : Payout) : Option UInt32 :=
  if p.retryCount.toNat + 1 < UInt32.size then some (p.retryCount + 1) else none

/-- Count one failed attempt, never beyond the maximum. -/
def countFailure? (p : Payout) : Option UInt32 :=
  p.attempt?.map fun count => min count p.maxRetries

/-- Book one failed attempt: a retry is scheduled while attempts are left, otherwise the payout
has failed. Absent when the count or the time of the retry leaves its range. -/
def recordFailure? (p : Payout) (reason : String) (policy : RetryPolicy) (now : Instant) :
    Option Payout := do
  let count ← p.countFailure?
  let counted : Payout :=
    { p with
      retryCount := count
      failureReason := some reason
      submittedHash := none
      updatedAt := now }
  if count < p.maxRetries then
    let delay ← policy.backoff? count
    let due ← now.add? delay
    return { counted with nextRetryAt := some due, status := .retryScheduled }
  else
    return { counted with nextRetryAt := none, status := .failed }

/-- The way back into processing when a retry is due. -/
def requeue (p : Payout) (now : Instant) : Except Error Payout :=
  if p.status = .retryScheduled then
    .ok { p with status := .processing, nextRetryAt := none, updatedAt := now }
  else .error (p.invalidState "only RETRY_SCHEDULED payouts can be re-queued")

/-- An operator sends a failed payout back to processing, with all its attempts. -/
def resetForRetry (p : Payout) (defaultMaxRetries : UInt32) (now : Instant) :
    Except Error Payout :=
  if p.status = .failed then
    .ok { p with
      retryCount := 0
      maxRetries := defaultMaxRetries
      failureReason := none
      nextRetryAt := none
      status := .processing
      updatedAt := now }
  else .error (p.invalidState "only FAILED payouts can be retried")

end Payout

/-- An identifier, or the error of a text that is none. -/
def PayoutId.parse (s : String) : Except Error PayoutId :=
  match PayoutId.read? s with
  | some id => .ok id
  | none => .error (.validation s!"invalid payout id: {s}")

/-- A state, or the error of a text that is none. -/
def Status.parse (s : String) : Except Error Status :=
  match Status.read? s with
  | some status => .ok status
  | none => .error (.validation s!"unknown payout status: {s}")

/-- A kind, or the error of a text that is none. -/
def Kind.parse (s : String) : Except Error Kind :=
  match Kind.read? s with
  | some kind => .ok kind
  | none => .error (.validation s!"unknown payout kind: {s}")

end Disburse
