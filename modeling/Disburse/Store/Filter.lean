import Disburse.Payout.Codec

namespace Disburse

open Disburse.Json

/-- Which payouts to list, and which page of them. -/
structure Filter where
  status : Option Status
  recipient : Option String
  kind : Option Kind
  limit : Option UInt32
  offset : Option UInt32
  deriving DecidableEq

namespace Filter

/-- Twenty records on a page unless the request says otherwise, and from one to a hundred. -/
def pageSize (f : Filter) : Nat :=
  max 1 (min 100 (f.limit.getD 20).toNat)

def pageOffset (f : Filter) : Nat :=
  (f.offset.getD 0).toNat

/-- Whether a payout is to be listed. -/
def accepts (f : Filter) (p : Payout) : Bool :=
  f.status.all (p.status = ·) && f.recipient.all (p.recipient = ·) && f.kind.all (p.kind = ·)

def memberNames : List String :=
  ["status", "recipient", "kind", "limit", "offset"]

def ofJson? (v : Json) : Option Filter := do
  let fields ← fields? memberNames memberNames.length v
  return {
    status := ← optional fields "status" Status.ofJson?
    recipient := ← optional fields "recipient" text?
    kind := ← optional fields "kind" Kind.ofJson?
    limit := ← optional fields "limit" uint32?
    offset := ← optional fields "offset" uint32? }

end Filter

end Disburse
