import Disburse.Engine.Execution
import Disburse.Rehearsal.Faults
import Disburse.Rehearsal.Ledger
import Disburse.Rehearsal.Transfers

/-!
Everything around the engine in a rehearsal: a store with faults, a scripted executor or the real
one over a scripted ledger, a clock that moves only when told to, fresh identifiers from a list of
numbers, and executions that wait until they are run one after the other.
-/

namespace Disburse.Rehearsal

open Disburse.Engine

/-- Transfers follow a script, or go over a ledger. -/
inductive Transfers where
  | scripted (d : TransferDouble)
  | overLedger (executor : Executor) (ledger : LedgerDouble)

/-- A call that was made of the executor or of the ledger. -/
inductive LoggedCall where
  /-- A call of the scripted executor, and the payout it belongs to. -/
  | transfer (subject : String) (c : TransferCall)
  | ledger (c : Ledger.Call)

/-- The surroundings of the engine. -/
structure World where
  store : Backend
  plans : List (StoreMethod × Plan)
  transfers : Transfers
  now : Instant
  /-- Random numbers to come, then the number of the draw. -/
  draws : List Nat
  drawn : Nat
  /-- Executions to be run, the oldest one first. -/
  waiting : List PayoutId
  events : List Event
  calls : List LoggedCall

namespace World

/-- The plan for the next call of a method. -/
def takePlan (w : World) (m : StoreMethod) : Plan × World :=
  match w.plans.findIdx? (·.1 = m) with
  | none => (.pass, w)
  | some i => ((w.plans.getD i (m, .pass)).2, { w with plans := w.plans.eraseIdx i })

def callDirectly (w : World) (c : StoreCall) : c.Answer × World :=
  let (a, store) := w.store.answer c
  (a, { w with store })

/-- A call under the next plan for its method. -/
def callStore (w : World) (c : StoreCall) : c.Answer × World :=
  let (plan, w) := w.takePlan (.of c)
  let (a, store) := w.store.answerPlanned plan c
  (a, { w with store })

/-- Move the clock, and write a record, if there are any to move and to write. -/
def interfere (w : World) (now : Option Instant) (save : Option Payout) : World :=
  let w := { w with now := now.getD w.now }
  match save with
  | none => w
  | some p => (w.callDirectly (.save p)).2

/-- A call of the executor that follows the script. -/
def playTransfer (w : World) (d : TransferDouble) : (c : TransferCall) → Outcome c.Value × World
  | .submit request =>
    let (cue, d) := d.takeCue request
    let d := { d with memos := request.memo :: d.memos }
    let w := w.interfere cue.submitNow cue.submitSave
    match cue.refusal with
    | some abort => (.error abort, { w with transfers := .scripted d })
    | none =>
      let fate := d.fateOf cue request.memo
      (.ok fate.hash, { w with transfers := .scripted (d.remember fate) })
  | .awaitConfirmation hash =>
    match d.find? hash with
    | none => (TransferDouble.confirm hash (.ok .notFound), w)
    | some fate =>
      let w := w.interfere fate.confirmNow fate.confirmSave
      (TransferDouble.confirm hash fate.confirmation, w)
  | .lookup hash => (((d.find? hash).map Fate.lookup).getD (.ok .notFound), w)

/-- A call of the executor, which is noted down. -/
def callTransfer (w : World) (c : TransferCall) : Outcome c.Value × World :=
  match w.transfers with
  | .scripted d =>
    let logged := { w with calls := w.calls ++ [LoggedCall.transfer (d.subject c) c] }
    logged.playTransfer d c
  | .overLedger executor ledger =>
    let stage : LedgerStage := ⟨ledger, [], w.now⟩
    let (a, stage) := stage.run (executor.answer c)
    (a, { w with
      transfers := .overLedger executor stage.ledger
      calls := w.calls ++ stage.calls.map .ledger })

def drawId (w : World) : PayoutId × World :=
  let number := w.draws.headD (w.drawn + 1)
  (.ofDraw number, { w with draws := w.draws.tail, drawn := w.drawn + 1 })

def answer : Surroundings Engine.interface World
  | .store c, w => w.callStore c
  | .transfer c, w => w.callTransfer c
  | .now, w => (w.now, w)
  | .freshId, w => w.drawId
  | .publish e, w => ((), { w with events := w.events ++ [e] })
  | .dispatch id, w => ((), { w with waiting := w.waiting ++ [id] })
  | .pause _, w => ((), w)

def run {α : Type} (w : World) (t : Work α) : Outcome α × World :=
  t.outcome.run answer w

/-- All waiting executions, one after the other. -/
def settle (w : World) (policy : RetryPolicy) : World :=
  w.waiting.foldl (fun w id => (w.run (supervise policy id)).2) { w with waiting := [] }

end World

end Disburse.Rehearsal
