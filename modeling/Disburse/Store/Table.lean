import Disburse.Store.Call
import Disburse.Store.Cell
import Disburse.Store.Distinct

/-!
The payout table: rows in the order of their insertion, no two with one identifier or with one
submission. Text is compared by code points. Reading a batch fails as a whole if one of its rows
holds other numbers than integers, and then if one of them denotes no payout.
-/

namespace Disburse

/-- Rows with identifiers and submissions of their own. -/
structure PayoutTable where
  rows : List (PayoutRow Quantity)
  ids_nodup : (rows.map PayoutRow.id).Nodup
  submissions_nodup : (rows.filterMap PayoutRow.submissionRef).Nodup

namespace PayoutTable

def empty : PayoutTable :=
  ⟨[], List.nodup_nil, List.nodup_nil⟩

/-- One more row; absent if its identifier or its submission is taken. -/
def insert? (t : PayoutTable) (r : PayoutRow Quantity) : Option PayoutTable :=
  if hid : r.id ∈ t.rows.map PayoutRow.id then none
  else if hsub : ∃ ref ∈ t.rows.filterMap PayoutRow.submissionRef, r.submissionRef = some ref then
    none
  else some
    { rows := t.rows ++ [r]
      ids_nodup := Distinct.append_nodup PayoutRow.id t.ids_nodup hid
      submissions_nodup :=
        Distinct.append_filterMap_nodup PayoutRow.submissionRef t.submissions_nodup
          fun ref hmem heq => hsub ⟨ref, hmem, heq⟩ }

/-- Why a row cannot be added. -/
def clash (t : PayoutTable) (r : PayoutRow Quantity) : Database.Fault :=
  if r.submissionRef.any fun ref => (t.rows.filterMap PayoutRow.submissionRef).contains ref then
    .refused 2067 "UNIQUE constraint failed: payouts.submission_ref"
  else .refused 1555 "UNIQUE constraint failed: payouts.id"

/-- The row of a payout as the table holds it. -/
def stored (p : Payout) : PayoutRow Quantity :=
  (PayoutRow.ofPayout p).map .int

/-- Rows that an update of a payout changes: the one with its identifier, if it has the expected
status. -/
def isTarget (p : Payout) (expected : Option Status) (r : PayoutRow Quantity) : Bool :=
  r.id = p.id.toText && expected.all fun status => r.status = status.toText

def revise (p : Payout) (expected : Option Status) (r : PayoutRow Quantity) : PayoutRow Quantity :=
  if isTarget p expected r then r.updated (stored p) else r

theorem revise_id (p : Payout) (expected : Option Status) (r : PayoutRow Quantity) :
    (revise p expected r).id = r.id := by
  cases h : isTarget p expected r <;> simp [revise, h, PayoutRow.updated]

theorem revise_submissionRef (p : Payout) (expected : Option Status) (r : PayoutRow Quantity) :
    (revise p expected r).submissionRef = r.submissionRef := by
  cases h : isTarget p expected r <;> simp [revise, h, PayoutRow.updated]

/-- Write the changing columns of a payout. -/
def update (t : PayoutTable) (p : Payout) (expected : Option Status) : PayoutTable where
  rows := t.rows.map (revise p expected)
  ids_nodup := by
    have same : PayoutRow.id ∘ revise p expected = PayoutRow.id :=
      funext (revise_id p expected)
    rw [List.map_map, same]
    exact t.ids_nodup
  submissions_nodup := by
    have same : PayoutRow.submissionRef ∘ revise p expected = PayoutRow.submissionRef :=
      funext (revise_submissionRef p expected)
    rw [List.filterMap_map, same]
    exact t.submissions_nodup

def updateCount (t : PayoutTable) (p : Payout) (expected : Option Status) : Nat :=
  t.rows.countP (isTarget p expected)

/-- The integers of a row, or the error of its first column that holds none. -/
def integers (r : PayoutRow Quantity) : Except Error (PayoutRow Int64) :=
  r.integers.mapError .database

/-- The payouts that rows denote; the first row without one fails the batch. -/
def decode (rows : List (PayoutRow Quantity)) : Except Error (List Payout) := do
  (← rows.mapM integers).mapM PayoutRow.toPayout

/-- The payout of a row that was looked up. -/
def decode? : Option (PayoutRow Quantity) → Except Error (Option Payout)
  | none => .ok none
  | some r => return some (← (← integers r).toPayout)

/-- The error for a row whose identifier or submission is taken. -/
def taken (p : Payout) : Error :=
  .submissionTaken (p.submissionRef.getD "<none>")

def create (t : PayoutTable) (p : Payout) : Except Error Unit × PayoutTable :=
  match t.insert? (stored p) with
  | some t' => (.ok (), t')
  | none => (.error (taken p), t)

/-- Add a row of given cells, whatever they hold. -/
def insertCells (t : PayoutTable) (cells : List (String × Cell)) :
    Except Error Unit × PayoutTable :=
  match PayoutRow.ofCells cells with
  | .error fault => (.error (.database fault), t)
  | .ok r =>
    match t.insert? r with
    | some t' => (.ok (), t')
    | none => (.error (.database (t.clash r)), t)

def get (t : PayoutTable) (id : PayoutId) : Except Error (Option Payout) :=
  decode? (t.rows.find? fun r => r.id = id.toText)

def findBySubmission (t : PayoutTable) (submissionRef : String) : Except Error (Option Payout) :=
  decode? (t.rows.find? fun r => r.submissionRef = some submissionRef)

def save (t : PayoutTable) (p : Payout) : Except Error Unit × PayoutTable :=
  if t.updateCount p none = 0 then (.error (.notFound p.id.toText), t)
  else (.ok (), t.update p none)

def saveIf (t : PayoutTable) (p : Payout) (expected : Status) : Except Error Bool × PayoutTable :=
  (.ok (t.updateCount p (some expected) = 1), t.update p (some expected))

/-- The lesser value of a column first. -/
def columnOrder (column : PayoutRow Quantity → Option Quantity) (a b : PayoutRow Quantity) :
    Bool :=
  match column a, column b with
  | some x, some y => x.le y
  | none, _ => true
  | some _, none => false

/-- The first rows in a status whose column is filled and passes a test, in the column's order. -/
def select (t : PayoutTable) (status : Status)
    (column : PayoutRow Quantity → Option Quantity) (test : Quantity → Bool) (limit : UInt32) :
    Except Error (List Payout) :=
  let chosen := t.rows.filter fun r => r.status = status.toText && (column r).any test
  decode ((chosen.mergeSort (columnOrder column)).take limit.toNat)

/-- An instant as the table compares it. -/
def storedTime (t : Instant) : Quantity :=
  .int (PayoutRow.ofTime t)

/-- Payouts in a state whose retry is due, the earliest first. -/
def findDue (t : PayoutTable) (status : Status) (now : Instant) (limit : UInt32) :
    Except Error (List Payout) :=
  t.select status PayoutRow.nextRetryAt (fun x => x.le (storedTime now)) limit

/-- Payouts in a state that were not changed since, the oldest first. -/
def findStale (t : PayoutTable) (status : Status) (before : Instant) (limit : UInt32) :
    Except Error (List Payout) :=
  t.select status (fun r => some r.updatedAt) (fun x => !(storedTime before).le x) limit

/-- Whether a row is to be listed. -/
def shows (f : Filter) (r : PayoutRow Quantity) : Bool :=
  f.status.all (fun status => r.status = status.toText) && f.recipient.all (r.recipient = ·) &&
    f.kind.all (fun kind => r.kind = kind.toText)

/-- The newest row comes first; rows of one time are ordered by their identifiers. -/
def listOrder (a b : PayoutRow Quantity) : Bool :=
  b.createdAt.le a.createdAt && (!a.createdAt.le b.createdAt || !decide (a.id < b.id))

def list (t : PayoutTable) (f : Filter) : Except Error (List Payout) :=
  decode ((((t.rows.filter (shows f)).mergeSort listOrder).drop f.pageOffset).take f.pageSize)

/-- The answer to a call and the table behind it. -/
def answer (t : PayoutTable) : (c : StoreCall) → c.Answer × PayoutTable
  | .create p => t.create p
  | .get id => (t.get id, t)
  | .findBySubmission ref => (t.findBySubmission ref, t)
  | .save p => t.save p
  | .saveIf p expected => t.saveIf p expected
  | .findDue status now limit => (t.findDue status now limit, t)
  | .findStale status before limit => (t.findStale status before limit, t)
  | .list f => (t.list f, t)

end PayoutTable

end Disburse
