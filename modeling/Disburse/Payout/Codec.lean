import Disburse.Decimal.Reader
import Disburse.Json.Record
import Disburse.Payout.Basic
import Disburse.Time.Stamp

namespace Disburse

open Disburse.Json

def PayoutId.ofJson? (v : Json) : Option PayoutId :=
  v.text?.bind PayoutId.read?

def Decimal.ofJson? (v : Json) : Option Decimal :=
  v.text?.bind fun s => (Decimal.read s).toOption

def Instant.ofJson? (v : Json) : Option Instant :=
  v.text?.bind Instant.read?

def Status.ofJson? (v : Json) : Option Status :=
  v.word?.bind Status.read?

def Kind.ofJson? (v : Json) : Option Kind :=
  v.word?.bind Kind.read?

namespace Payout

def memberNames : List String :=
  ["id", "recipient_address", "amount", "asset", "status", "kind", "quest_ref", "submission_ref",
    "submitted_hash", "transaction_ref", "ledger_ref", "failure_reason", "retry_count",
    "max_retries", "next_retry_at", "processed_at", "claimed_at", "created_at", "updated_at"]

def ofJson? (v : Json) : Option Payout := do
  let fields ← fields? memberNames memberNames.length v
  return {
    id := ← required fields "id" PayoutId.ofJson?
    recipient := ← required fields "recipient_address" text?
    amount := ← required fields "amount" Decimal.ofJson?
    asset := ← required fields "asset" text?
    status := ← required fields "status" Status.ofJson?
    kind := ← required fields "kind" Kind.ofJson?
    questRef := ← optional fields "quest_ref" text?
    submissionRef := ← optional fields "submission_ref" text?
    submittedHash := ← optional fields "submitted_hash" text?
    transactionRef := ← optional fields "transaction_ref" text?
    ledgerRef := ← optional fields "ledger_ref" int64?
    failureReason := ← optional fields "failure_reason" text?
    retryCount := ← required fields "retry_count" uint32?
    maxRetries := ← required fields "max_retries" uint32?
    nextRetryAt := ← optional fields "next_retry_at" Instant.ofJson?
    processedAt := ← optional fields "processed_at" Instant.ofJson?
    claimedAt := ← optional fields "claimed_at" Instant.ofJson?
    createdAt := ← required fields "created_at" Instant.ofJson?
    updatedAt := ← required fields "updated_at" Instant.ofJson? }

def toJson (p : Payout) : Json :=
  let text := ofOption Json.str
  let time := ofOption fun t : Instant => .str t.toText
  .obj [
    ("id", .str p.id.toText),
    ("recipient_address", .str p.recipient),
    ("amount", .str p.amount.toText),
    ("asset", .str p.asset),
    ("status", .str p.status.toText),
    ("kind", .str p.kind.toText),
    ("quest_ref", text p.questRef),
    ("submission_ref", text p.submissionRef),
    ("submitted_hash", text p.submittedHash),
    ("transaction_ref", text p.transactionRef),
    ("ledger_ref", ofOption ofInt64 p.ledgerRef),
    ("failure_reason", text p.failureReason),
    ("retry_count", ofUInt32 p.retryCount),
    ("max_retries", ofUInt32 p.maxRetries),
    ("next_retry_at", time p.nextRetryAt),
    ("processed_at", time p.processedAt),
    ("claimed_at", time p.claimedAt),
    ("created_at", .str p.createdAt.toText),
    ("updated_at", .str p.updatedAt.toText)]

end Payout

namespace NewPayout

def memberNames : List String :=
  ["recipient_address", "amount", "asset", "kind", "quest_ref", "submission_ref", "max_retries"]

/-- In an array, the last three members may be left out. -/
def ofJson? (v : Json) : Option NewPayout := do
  let fields ← fields? memberNames 4 v
  return {
    recipient := ← required fields "recipient_address" text?
    amount := ← required fields "amount" Decimal.ofJson?
    asset := ← required fields "asset" text?
    kind := ← required fields "kind" Kind.ofJson?
    questRef := ← optional fields "quest_ref" text?
    submissionRef := ← optional fields "submission_ref" text?
    maxRetries := ← optional fields "max_retries" uint32? }

end NewPayout

end Disburse
