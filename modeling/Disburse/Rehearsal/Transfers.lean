import Disburse.Engine.Interface

namespace Disburse.Rehearsal

open Disburse.Ledger

/-- What happens to one submission. -/
structure Cue where
  /-- Only submissions to this destination take the cue. -/
  destination : Option String
  hash : Option String
  confirmation : Option (Outcome TxStatus)
  lookup : Option (Outcome TxStatus)
  /-- How the submission itself ends, if not well. -/
  refusal : Option Abort
  submitNow : Option Instant
  confirmNow : Option Instant
  submitSave : Option Payout
  confirmSave : Option Payout

/-- A cue that leaves everything to the defaults. -/
def Cue.empty : Cue :=
  ⟨none, none, none, none, none, none, none, none, none⟩

/-- What will be said about a hash. -/
structure Fate where
  hash : String
  /-- The memo of the submission. -/
  memo : String
  confirmation : Outcome TxStatus
  lookup : Outcome TxStatus
  confirmNow : Option Instant
  confirmSave : Option Payout

/-- The script of an executor, and what has become of its submissions. -/
structure TransferDouble where
  cues : List Cue
  /-- The memos of all submissions so far. -/
  memos : List String
  fates : List Fate

namespace TransferDouble

def find? (d : TransferDouble) (hash : String) : Option Fate :=
  d.fates.find? (·.hash = hash)

def remember (d : TransferDouble) (fate : Fate) : TransferDouble :=
  { d with fates := fate :: d.fates.filter (·.hash ≠ fate.hash) }

/-- The cue of a submission, and the script without it. -/
def takeCue (d : TransferDouble) (request : TransferRequest) : Cue × TransferDouble :=
  match d.cues.findIdx? fun c => c.destination.all (· = request.destination) with
  | none => (.empty, d)
  | some i => (d.cues.getD i .empty, { d with cues := d.cues.eraseIdx i })

def count (d : TransferDouble) (memo : String) : Nat :=
  d.memos.count memo

/-- The fate of the latest submission of a memo, as its cue tells. -/
def fateOf (d : TransferDouble) (cue : Cue) (memo : String) : Fate :=
  let number := d.count memo
  let confirmation := cue.confirmation.getD (.ok (.success (Int64.ofNat (1000 + number))))
  { hash := cue.hash.getD s!"tx-{memo}-{number}"
    memo
    confirmation
    lookup := cue.lookup.getD confirmation
    confirmNow := cue.confirmNow
    confirmSave := cue.confirmSave }

def settleHash (d : TransferDouble) (hash : String) (outcome : Outcome TxStatus) :
    TransferDouble :=
  match d.find? hash with
  | some fate => d.remember { fate with confirmation := outcome, lookup := outcome }
  | none => d.remember ⟨hash, hash, outcome, outcome, none, none⟩

/-- The payout that a call belongs to; a hash that nobody knows stands for itself. -/
def subject (d : TransferDouble) : TransferCall → String
  | .submit request => request.memo
  | .awaitConfirmation hash => ((d.find? hash).map Fate.memo).getD hash
  | .lookup hash => ((d.find? hash).map Fate.memo).getD hash

/-- What waiting for a hash ends with. -/
def confirm (hash : String) : Outcome TxStatus → Outcome TransferReceipt
  | .ok (.success ledger) => .ok ⟨hash, ledger⟩
  | .ok (.failed result) => .error (.error (.executionFailed result))
  | .ok .notFound => .error (.error (.confirmationTimeout hash 3))
  | .error abort => .error abort

end TransferDouble

end Disburse.Rehearsal
