import Disburse.Store.Memory
import Disburse.Store.Table

namespace Disburse.Rehearsal

/-- The calls of a store without their arguments. -/
inductive StoreMethod where
  | create
  | get
  | findBySubmission
  | save
  | saveIf
  | findDue
  | findStale
  | list
  deriving DecidableEq

def StoreMethod.of : StoreCall → StoreMethod
  | .create _ => create
  | .get _ => get
  | .findBySubmission _ => findBySubmission
  | .save _ => save
  | .saveIf .. => saveIf
  | .findDue .. => findDue
  | .findStale .. => findStale
  | .list _ => list

/-- The store in use. -/
inductive Backend where
  | memory (s : MemoryStore)
  | table (t : PayoutTable)

namespace Backend

def answer (b : Backend) (c : StoreCall) : c.Answer × Backend :=
  match b with
  | memory s =>
    let (a, s) := s.answer c
    (a, memory s)
  | table t =>
    let (a, t) := t.answer c
    (a, table t)

/-- All records, or why a row denotes none. -/
def all : Backend → Except Error (List Payout)
  | memory s => .ok s.rows
  | table t => PayoutTable.decode t.rows

end Backend

/-- What is in store for one call. -/
inductive Plan where
  | pass
  /-- Fail without acting. -/
  | fail (text : String)
  /-- Act, and fail; calls that write nothing do not fail. -/
  | failAfter (text : String)
  /-- Another write comes first. -/
  | competing (p : Payout)
  /-- Lose a swap without acting. -/
  | lose
  /-- Find these records. -/
  | give (ps : List Payout)

/-- Whether a call may write. -/
def writes : StoreCall → Bool
  | .create _ => true
  | .save _ => true
  | .saveIf .. => true
  | _ => false

/-- The answer that tells these records; absent for calls that do not look any up. -/
def given (ps : List Payout) : (c : StoreCall) → Option c.Answer
  | .get _ => some (.ok ps.head?)
  | .findBySubmission _ => some (.ok ps.head?)
  | .findDue .. => some (.ok ps)
  | .findStale .. => some (.ok ps)
  | .create _ => none
  | .save _ => none
  | .saveIf .. => none
  | .list _ => none

/-- The answer of a lost swap; absent for other calls. -/
def lost : (c : StoreCall) → Option c.Answer
  | .saveIf .. => some (.ok false)
  | .create _ => none
  | .get _ => none
  | .findBySubmission _ => none
  | .save _ => none
  | .findDue .. => none
  | .findStale .. => none
  | .list _ => none

def Backend.answerPlanned (b : Backend) (plan : Plan) (c : StoreCall) : c.Answer × Backend :=
  match plan with
  | .pass => b.answer c
  | .fail text => (.error (.config text), b)
  | .failAfter text => if writes c then (.error (.config text), (b.answer c).2) else b.answer c
  | .competing p =>
    match b.answer (.save p) with
    | (.error e, b) => (.error e, b)
    | (.ok _, b) => b.answer c
  | .lose =>
    match lost c with
    | some a => (a, b)
    | none => b.answer c
  | .give ps =>
    match given ps c with
    | some a => (a, b)
    | none => b.answer c

end Disburse.Rehearsal
