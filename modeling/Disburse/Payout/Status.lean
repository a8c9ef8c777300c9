namespace Disburse

/-- Where a payout stands. -/
inductive Status where
  | pending
  | processing
  | completed
  | failed
  | retryScheduled
  deriving DecidableEq, Repr

namespace Status

def toText : Status → String
  | .pending => "PENDING"
  | .processing => "PROCESSING"
  | .completed => "COMPLETED"
  | .failed => "FAILED"
  | .retryScheduled => "RETRY_SCHEDULED"

def read? (s : String) : Option Status :=
  if s = "PENDING" then some .pending
  else if s = "PROCESSING" then some .processing
  else if s = "COMPLETED" then some .completed
  else if s = "FAILED" then some .failed
  else if s = "RETRY_SCHEDULED" then some .retryScheduled
  else none

/-- No automatic transition leaves this state. -/
def isTerminal : Status → Bool
  | .completed | .failed => true
  | _ => false

end Status

/-- A tag without influence on what happens to a payout. -/
inductive Kind where
  | reward
  | bonus
  | referral
  deriving DecidableEq, Repr

namespace Kind

def toText : Kind → String
  | .reward => "reward"
  | .bonus => "bonus"
  | .referral => "referral"

def read? (s : String) : Option Kind :=
  if s = "reward" then some .reward
  else if s = "bonus" then some .bonus
  else if s = "referral" then some .referral
  else none

end Kind

end Disburse
