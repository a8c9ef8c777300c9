import Disburse.Store.Call
import Disburse.Store.Distinct

namespace Disburse

/-- Records in the order in which they were inserted, with identifiers of their own. -/
structure MemoryStore where
  rows : List Payout
  ids_nodup : (rows.map Payout.id).Nodup

namespace MemoryStore

/-- No record. -/
def empty : MemoryStore :=
  ⟨[], List.nodup_nil⟩

/-- The record with an identifier. -/
def find? (s : MemoryStore) (id : PayoutId) : Option Payout :=
  s.rows.find? fun r => r.id = id

/-- The first record of a submission. -/
def findSubmission? (s : MemoryStore) (submissionRef : String) : Option Payout :=
  s.rows.find? fun r => r.submissionRef = some submissionRef

/-- Put a record in the place of the one with its identifier, if there is one. -/
def overwrite (s : MemoryStore) (p : Payout) : MemoryStore where
  rows := s.rows.map fun r => if r.id = p.id then p else r
  ids_nodup := by
    have same : (s.rows.map fun r => if r.id = p.id then p else r).map Payout.id =
        s.rows.map Payout.id := by
      rw [List.map_map]
      apply List.map_congr_left
      intro r _
      by_cases h : r.id = p.id <;> simp [h]
    rw [same]
    exact s.ids_nodup

/-- Put a record in the place of the one with its identifier, or behind all others. -/
def insert (s : MemoryStore) (p : Payout) : MemoryStore :=
  if h : p.id ∈ s.rows.map Payout.id then s.overwrite p
  else
    { rows := s.rows ++ [p]
      ids_nodup := Distinct.append_nodup Payout.id s.ids_nodup h }

/-- The earlier retry comes first, and what has no time comes before all others. -/
def dueOrder (a b : Payout) : Bool :=
  match a.nextRetryAt, b.nextRetryAt with
  | some x, some y => x.ble y
  | none, _ => true
  | some _, none => false

/-- What was changed earlier comes first. -/
def staleOrder (a b : Payout) : Bool :=
  a.updatedAt.ble b.updatedAt

/-- The later creation first, and of those created together the greater identifier. -/
def listOrder (a b : Payout) : Bool :=
  b.createdAt.blt a.createdAt || (a.createdAt = b.createdAt && b.id.ble a.id)

/-- A new record. A submission that is taken is refused; a record with the same identifier is not.
-/
def create (s : MemoryStore) (p : Payout) : Except Error Unit × MemoryStore :=
  match p.submissionRef with
  | some ref =>
    if (s.findSubmission? ref).isSome then (.error (.submissionTaken ref), s)
    else (.ok (), s.insert p)
  | none => (.ok (), s.insert p)

/-- Overwrite a record that is there. -/
def save (s : MemoryStore) (p : Payout) : Except Error Unit × MemoryStore :=
  match s.find? p.id with
  | some _ => (.ok (), s.overwrite p)
  | none => (.error (.notFound p.id.toText), s)

/-- Overwrite a record while it is in the expected state. -/
def saveIf (s : MemoryStore) (p : Payout) (expected : Status) : Except Error Bool × MemoryStore :=
  match s.find? p.id with
  | some row => if row.status = expected then (.ok true, s.overwrite p) else (.ok false, s)
  | none => (.error (.notFound p.id.toText), s)

/-- Records in a state whose retry is due, the earliest first. -/
def findDue (s : MemoryStore) (status : Status) (now : Instant) (limit : UInt32) : List Payout :=
  let due := s.rows.filter fun p => p.status = status && p.nextRetryAt.any (·.ble now)
  (due.mergeSort dueOrder).take limit.toNat

/-- Records in a state that were not changed since, the oldest first. -/
def findStale (s : MemoryStore) (status : Status) (before : Instant) (limit : UInt32) :
    List Payout :=
  let stale := s.rows.filter fun p => p.status = status && p.updatedAt.blt before
  (stale.mergeSort staleOrder).take limit.toNat

/-- One page of the records that a filter accepts. -/
def list (s : MemoryStore) (filter : Filter) : List Payout :=
  (((s.rows.filter filter.accepts).mergeSort listOrder).drop filter.pageOffset).take
    filter.pageSize

/-- The answer to a call and the store behind it. -/
def answer (s : MemoryStore) : (c : StoreCall) → c.Answer × MemoryStore
  | .create p => s.create p
  | .get id => (.ok (s.find? id), s)
  | .findBySubmission ref => (.ok (s.findSubmission? ref), s)
  | .save p => s.save p
  | .saveIf p expected => s.saveIf p expected
  | .findDue status now limit => (.ok (s.findDue status now limit), s)
  | .findStale status before limit => (.ok (s.findStale status before limit), s)
  | .list filter => (.ok (s.list filter), s)

end MemoryStore

end Disburse
