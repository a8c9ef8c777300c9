import Disburse.Engine.Execution

/-!
The sweep: settle executions that were lost, then send payouts whose retry is due back to
processing. A record's own errors are counted and passed over; only a failing query ends a sweep.
-/

namespace Disburse.Engine

/-- How often sweeps run, and how much they take on. -/
structure SchedulerConfig where
  intervalSeconds : UInt64
  batchSize : UInt32
  /-- How long a processing record is left alone before its execution counts as lost. -/
  stuckAfter : Span

/-- What a sweep has done. -/
structure SweepReport where
  recovered : Nat
  dispatched : Nat
  /-- Due payouts that another sweep picked up first. -/
  skipped : Nat
  errors : Nat
  deriving DecidableEq

namespace SweepReport

/-- The report of a sweep that found nothing. -/
def empty : SweepReport := ⟨0, 0, 0, 0⟩

/-- Whether there is anything to report. -/
def isEmpty (r : SweepReport) : Bool :=
  r = empty

end SweepReport

/-- Recover records one by one, counting those that were settled. An error does not stop the rest.
-/
def recoverEach (policy : RetryPolicy) : List Payout → Work Nat
  | [] => return 0
  | p :: rest => do
    let settled ← Task.attempt (recover policy p.id)
    let count ← recoverEach policy rest
    match settled with
    | .ok (some _) => return count + 1
    | _ => return count

/-- Recover the payouts that nobody touched for too long. -/
def recoverStuck (policy : RetryPolicy) (config : SchedulerConfig) (now : Instant) :
    Work Nat := do
  let before ← Task.ofOutcome (.ofInRange (now.sub? config.stuckAfter))
  recoverEach policy (← store (.findStale .processing before config.batchSize))

/-- What becomes of one due payout. It is in processing before its execution starts, so a second
sweep at the same time loses the swap. -/
def requeueOne (now : Instant) (p : Payout) (report : SweepReport) : Work SweepReport := do
  match p.requeue now with
  | .error _ => return { report with errors := report.errors + 1 }
  | .ok requeued =>
    match ← Task.attempt (store (.saveIf requeued .retryScheduled)) with
    | .ok true =>
      dispatch p.id
      return { report with dispatched := report.dispatched + 1 }
    | .ok false => return { report with skipped := report.skipped + 1 }
    | .error _ => return { report with errors := report.errors + 1 }

/-- Requeue records one by one, and add them up in a report. -/
def requeueEach (now : Instant) : List Payout → SweepReport → Work SweepReport
  | [], report => return report
  | p :: rest, report => do
    requeueEach now rest (← requeueOne now p report)

/-- One pass: first the records that are stuck, then those that are due. -/
def sweep (policy : RetryPolicy) (config : SchedulerConfig) : Work SweepReport := do
  let now ← now
  let recovered ← recoverStuck policy config now
  let due ← store (.findDue .retryScheduled now config.batchSize)
  requeueEach now due { SweepReport.empty with recovered }

/-- One turn of the scheduler: a sweep, whose error does not end the scheduler, and a pause. -/
def turn (policy : RetryPolicy) (config : SchedulerConfig) : Work Unit := do
  let _ ← Task.attempt (sweep policy config)
  pause (config.intervalSeconds.toNat * 1000)

/-- Sweeps at every turn of the clock. -/
def patrol (policy : RetryPolicy) (config : SchedulerConfig) : (turns : Nat) → Work Unit
  | 0 => return
  | turns + 1 => do
    turn policy config
    patrol policy config turns

end Disburse.Engine
