import Disburse.Store.Filter

/-!
What can be asked of a store of payouts. Every call reads or changes one record, or reads a batch;
`saveIf` is the compare-and-swap that decides who wins a contested transition.
-/

namespace Disburse

/-- The calls of a store. -/
inductive StoreCall where
  | create (p : Payout)
  | get (id : PayoutId)
  | findBySubmission (submissionRef : String)
  /-- Overwrite the record with this identifier. -/
  | save (p : Payout)
  /-- Overwrite only while the stored status is the expected one; says whether it was. -/
  | saveIf (p : Payout) (expected : Status)
  /-- Records in a status whose retry time has come, earliest first. -/
  | findDue (status : Status) (now : Instant) (limit : UInt32)
  /-- Records in a status that were last touched before a time, longest ago first. -/
  | findStale (status : Status) (before : Instant) (limit : UInt32)
  /-- A page of the records, newest first. -/
  | list (filter : Filter)

namespace StoreCall

/-- What a call tells if it succeeds. -/
abbrev Value : StoreCall → Type
  | .create _ => Unit
  | .get _ => Option Payout
  | .findBySubmission _ => Option Payout
  | .save _ => Unit
  | .saveIf .. => Bool
  | .findDue .. => List Payout
  | .findStale .. => List Payout
  | .list _ => List Payout

abbrev Answer (c : StoreCall) : Type :=
  Except Error c.Value

end StoreCall

/-- The error for a submission that already has a payout. -/
def Error.submissionTaken (submissionRef : String) : Error :=
  .validation s!"a payout for submission {submissionRef} already exists"

end Disburse
