import Disburse.Api.Server
import Disburse.Engine.Sweep
import Disburse.Rehearsal.World

namespace Disburse.Rehearsal

open Disburse.Engine

/-- What a step does. -/
inductive Action where
  | wait
  /-- Create a record without the engine. -/
  | put (p : Payout)
  /-- Save a record without the engine. -/
  | overwrite (p : Payout)
  | create (new : NewPayout)
  | claim (submissionRef recipient : String)
  | retry (id : PayoutId)
  | get (id : PayoutId)
  | list (filter : Filter)
  | execute (id : PayoutId)
  | recover (id : PayoutId)
  | recordFailure (id : PayoutId) (reason : String)
  /-- Run an execution in the background, and wait for it. -/
  | dispatch (id : PayoutId)
  | sweep
  /-- Sweep at each of these times, and let everything settle in between. -/
  | runScheduler (ticks : List Instant)
  | http (request : Api.Request)
  | script (cues : List Cue)
  | settleHash (hash : String) (outcome : Outcome Ledger.TxStatus)
  | fault (method : StoreMethod) (plans : List Plan)

/-- What a step has come to. -/
inductive Result where
  | nothing
  | payout (p : Payout)
  | payouts (ps : List Payout)
  | status (s : Option Status)
  /-- Whether the background execution ended without a crash of its supervisor. -/
  | joined (well : Bool)
  | swept (report : SweepReport)
  | sweeps (count : Nat)
  | response (r : Api.Response)

/-- The settings of the engine. -/
structure Setting where
  policy : RetryPolicy
  scheduler : SchedulerConfig

/-- A world between two steps. -/
structure Stage where
  world : World
  /-- What the clock shows when a step begins, wherever the last one left it. -/
  opening : Instant
  /-- The records as the last report that listed them left them. -/
  seen : List Payout

/-- A world before its first step. -/
def Stage.ofWorld (w : World) : Stage :=
  ⟨w, w.now, []⟩

/-- What a step tells. -/
structure Report where
  result : Outcome Result
  events : List Event
  calls : List LoggedCall
  /-- Records that changed; absent if they were not looked at. -/
  rows : Option (Except Error (List Payout))

namespace World

/-- The outcome of a task, as a result. -/
def runFor {α : Type} (w : World) (t : Work α) (result : α → Result) : Outcome Result × World :=
  let (outcome, w) := w.run t
  (outcome.map result, w)

def callFor (w : World) (c : StoreCall) : Outcome Result × World :=
  let (a, w) := w.callDirectly c
  (Outcome.ofExcept (a.map fun _ => Result.nothing), w)

/-- A sweep at a time, and what it has started. -/
def tick (setting : Setting) (w : World) (now : Instant) : World :=
  let (_, w) := { w with now }.run (turn setting.policy setting.scheduler)
  w.settle setting.policy

/-- A change of the script; a real executor has none. -/
def mapScript (w : World) (f : TransferDouble → TransferDouble) : World :=
  match w.transfers with
  | .scripted d => { w with transfers := .scripted (f d) }
  | .overLedger .. => w

def perform (setting : Setting) (w : World) : Action → Outcome Result × World
  | .wait => (.ok .nothing, w)
  | .put p => w.callFor (.create p)
  | .overwrite p => w.callFor (.save p)
  | .create new => w.runFor (createPayout setting.policy new) .payout
  | .claim submissionRef recipient => w.runFor (claimPayout submissionRef recipient) .payout
  | .retry id => w.runFor (retryPayout setting.policy id) .payout
  | .get id => w.runFor (getPayout id) .payout
  | .list filter => w.runFor (listPayouts filter) .payouts
  | .execute id => w.runFor (execute setting.policy id) fun _ => .nothing
  | .recover id => w.runFor (recover setting.policy id) .status
  | .recordFailure id reason => w.runFor (recordFailure setting.policy id reason) .status
  | .dispatch id =>
    match w.run (supervise setting.policy id) with
    | (.ok _, w) => (.ok (.joined true), w)
    | (.error _, w) => (.ok (.joined false), w)
  | .sweep => w.runFor (sweep setting.policy setting.scheduler) .swept
  | .runScheduler ticks => (.ok (.sweeps ticks.length), ticks.foldl (tick setting) w)
  | .http request => w.runFor (Api.respond setting.policy request) .response
  | .script cues => (.ok .nothing, w.mapScript fun d => { d with cues := d.cues ++ cues })
  | .settleHash hash outcome => (.ok .nothing, w.mapScript fun d => d.settleHash hash outcome)
  | .fault method plans =>
    (.ok .nothing, { w with plans := w.plans ++ plans.map fun plan => (method, plan) })

end World

/-- Calls by the payout they belong to; those of a ledger stay in order. -/
def callOrder (a b : LoggedCall) : Bool :=
  match a, b with
  | .transfer x _, .transfer y _ => x ≤ y
  | _, _ => true

/-- Records that are not among those seen before, by identifier. -/
def changed (seen rows : List Payout) : List Payout :=
  (rows.filter fun p => !seen.contains p).mergeSort fun a b => a.id.ble b.id

/-- One step: set the clock, act, and let the executions settle unless told not to. -/
def step (setting : Setting) (stage : Stage) (now : Option Instant) (settles : Bool)
    (action : Action) : Report × Stage :=
  let opening := now.getD stage.opening
  let start := { stage.world with now := opening, events := [], calls := [] }
  let (result, acted) := start.perform setting action
  let world := if settles then acted.settle setting.policy else acted
  let rows := if settles then some world.store.all else none
  let seen := match rows with
    | some (.ok all) => all
    | _ => stage.seen
  ({ result
     events := world.events.mergeSort fun a b => a.id.ble b.id
     calls := world.calls.mergeSort callOrder
     rows := rows.map fun all => all.map (changed stage.seen) },
   { world, opening, seen })

end Disburse.Rehearsal
