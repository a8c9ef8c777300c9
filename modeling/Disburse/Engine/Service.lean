import Disburse.Engine.Interface
import Disburse.Store.Filter
import Disburse.Text.Characters

namespace Disburse.Engine

/-- Record a new payout under an identifier that is drawn for it. -/
def createPayout (policy : RetryPolicy) (new : NewPayout) : Work Payout := do
  Task.ofOutcome (.ofExcept new.validate)
  let p := Payout.ofNew new (← freshId) policy.defaultMaxRetries (← now)
  store (.create p)
  return p

/-- Claim the payout of a submission. Returns as soon as the claim is stored, with the execution
under way. -/
def claimPayout (submissionRef recipient : String) : Work Payout := do
  let some p ← store (.findBySubmission submissionRef)
    | Task.fail (.notFound s!"submission {submissionRef}")
  if ¬ p.isClaimable then
    invalidState p.id p.status "payout has already been claimed"
  let supplied := Text.trim recipient
  if supplied ≠ p.recipient then
    Task.fail (.mismatch p.recipient supplied)
  let claimed ← Task.ofOutcome (.ofExcept (p.markClaimed (← now)))
  if ← store (.saveIf claimed .pending) then
    dispatch p.id
    return claimed
  else invalidState p.id .processing "payout has already been claimed"

/-- Send a failed payout into processing again. -/
def retryPayout (policy : RetryPolicy) (id : PayoutId) : Work Payout := do
  let p ← load id
  let reset ← Task.ofOutcome (.ofExcept (p.resetForRetry policy.defaultMaxRetries (← now)))
  if ← store (.saveIf reset .failed) then
    dispatch id
    return reset
  else
    let current ← load id
    invalidState id current.status "only FAILED payouts can be retried"

def getPayout (id : PayoutId) : Work Payout :=
  load id

def listPayouts (filter : Filter) : Work (List Payout) :=
  store (.list filter)

end Disburse.Engine
