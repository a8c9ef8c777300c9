import Disburse.Payout.Basic

namespace Disburse

/-- The bookkeeping that writes a record. -/
inductive Transition where
  | claim (now : Instant)
  | submission (hash : String) (now : Instant)
  | completion (transactionRef : String) (ledgerRef : Int64) (now : Instant)
  | failure (reason : String) (policy : RetryPolicy) (now : Instant)
  | requeue (now : Instant)
  | reset (defaultMaxRetries : UInt32) (now : Instant)

namespace Transition

/-- The record after a transition; absent if it is refused or leaves the range of its
arithmetic. -/
def apply : Transition → Payout → Option Payout
  | .claim now, p => (p.markClaimed now).toOption
  | .submission hash now, p => some (p.markSubmitted hash now)
  | .completion transactionRef ledgerRef now, p =>
    some (p.markCompleted transactionRef ledgerRef now)
  | .failure reason policy now, p => p.recordFailure? reason policy now
  | .requeue now, p => (p.requeue now).toOption
  | .reset defaultMaxRetries now, p => (p.resetForRetry defaultMaxRetries now).toOption

theorem eq_ok_of_toOption {ε α : Type} {result : Except ε α} {a : α}
    (h : result.toOption = some a) : result = .ok a := by
  cases result with
  | error e => cases h
  | ok b => exact congrArg Except.ok (Option.some.inj h)

/-- The states in which a record is when the engine applies a transition to it. -/
def StartsFrom : Transition → Status → Prop
  | .claim _, status => status = .pending
  | .submission .., status => status = .processing
  | .completion .., status => status = .processing ∨ status = .retryScheduled ∨ status = .failed
  | .failure .., status => status = .processing
  | .requeue _, status => status = .retryScheduled
  | .reset .., status => status = .failed

end Transition

theorem NewPayout.isPositive_of_validate {new : NewPayout} (h : new.validate = .ok ()) :
    new.amount.IsPositive := by
  unfold validate at h
  split at h
  · cases h
  · rename_i hpositive
    exact Decidable.not_not.mp hpositive

namespace Payout

variable {p q : Payout} {now : Instant}

theorem isClaimable_iff : p.isClaimable = true ↔ p.status = .pending ∧ p.claimedAt = none := by
  simp [isClaimable]

theorem isClaimable_of_markClaimed (h : p.markClaimed now = .ok q) : p.isClaimable = true := by
  unfold markClaimed at h
  split at h
  · assumption
  · cases h

theorem exists_markClaimed (h : p.isClaimable = true) (now : Instant) :
    ∃ claimed, p.markClaimed now = .ok claimed := by
  unfold markClaimed
  rw [if_pos h]
  exact ⟨_, rfl⟩

theorem markClaimed_eq_ok (h : p.markClaimed now = .ok q) :
    p.status = .pending ∧
      q = { p with claimedAt := some now, status := .processing, updatedAt := now } := by
  have hclaimable := isClaimable_of_markClaimed h
  rw [markClaimed, if_pos hclaimable] at h
  exact ⟨(isClaimable_iff.mp hclaimable).1, (Except.ok.inj h).symm⟩

theorem requeue_eq_ok (h : p.requeue now = .ok q) :
    p.status = .retryScheduled ∧
      q = { p with status := .processing, nextRetryAt := none, updatedAt := now } := by
  unfold requeue at h
  split at h
  · rename_i hstatus
    exact ⟨hstatus, (Except.ok.inj h).symm⟩
  · cases h

theorem resetForRetry_eq_ok {defaultMaxRetries : UInt32}
    (h : p.resetForRetry defaultMaxRetries now = .ok q) :
    p.status = .failed ∧
      q = { p with
        retryCount := 0
        maxRetries := defaultMaxRetries
        failureReason := none
        nextRetryAt := none
        status := .processing
        updatedAt := now } := by
  unfold resetForRetry at h
  split at h
  · rename_i hstatus
    exact ⟨hstatus, (Except.ok.inj h).symm⟩
  · cases h

theorem toNat_retryCount_succ (h : p.retryCount.toNat + 1 < UInt32.size) :
    (p.retryCount + 1).toNat = p.retryCount.toNat + 1 := by
  rw [UInt32.toNat_add]
  exact Nat.mod_eq_of_lt h

theorem countFailure?_of_lt (h : p.retryCount.toNat + 1 < UInt32.size) :
    p.countFailure? = some (min (p.retryCount + 1) p.maxRetries) := by
  simp only [countFailure?, attempt?, if_pos h, Option.map_some]

theorem countFailure?_eq_some {count : UInt32} (h : p.countFailure? = some count) :
    count.toNat = min (p.retryCount.toNat + 1) p.maxRetries.toNat := by
  unfold countFailure? attempt? at h
  split at h
  · rename_i hrange
    rw [Option.map_some, Option.some.injEq] at h
    subst h
    have hsum := toNat_retryCount_succ hrange
    rcases UInt32.le_total (p.retryCount + 1) p.maxRetries with hle | hle
    · rw [show min (p.retryCount + 1) p.maxRetries = p.retryCount + 1 from if_pos hle]
      rw [UInt32.le_iff_toNat_le] at hle
      omega
    · have hmin : (min (p.retryCount + 1) p.maxRetries).toNat = p.maxRetries.toNat := by
        rw [show min (p.retryCount + 1) p.maxRetries =
          if p.retryCount + 1 ≤ p.maxRetries then p.retryCount + 1 else p.maxRetries from rfl]
        split
        · rename_i hle'
          rw [UInt32.le_antisymm hle' hle]
        · rfl
      rw [UInt32.le_iff_toNat_le] at hle
      omega
  · cases h

theorem recordFailure?_eq_some {reason : String} {policy : RetryPolicy}
    (h : p.recordFailure? reason policy now = some q) :
    ∃ count, p.countFailure? = some count ∧
      ((count < p.maxRetries ∧ ∃ due,
        q = { p with
          retryCount := count
          failureReason := some reason
          submittedHash := none
          updatedAt := now
          nextRetryAt := some due
          status := .retryScheduled }) ∨
      (¬ count < p.maxRetries ∧
        q = { p with
          retryCount := count
          failureReason := some reason
          submittedHash := none
          updatedAt := now
          nextRetryAt := none
          status := .failed })) := by
  unfold recordFailure? at h
  cases hcount : p.countFailure? with
  | none => simp [hcount] at h
  | some count =>
      simp only [hcount, Option.bind_eq_bind, Option.bind_some, Option.pure_def] at h
      refine ⟨count, rfl, ?_⟩
      split at h
      · rename_i hlt
        obtain ⟨delay, -, hdelay⟩ := Option.bind_eq_some_iff.mp h
        obtain ⟨due, -, hdue⟩ := Option.bind_eq_some_iff.mp hdelay
        exact .inl ⟨hlt, due, (Option.some.inj hdue).symm⟩
      · rename_i hlt
        exact .inr ⟨hlt, (Option.some.inj h).symm⟩

end Payout

namespace Transition

/-- What each transition makes of a record. A failure is booked with a retry or without one. -/
inductive Makes (p : Payout) : Transition → Payout → Prop where
  | claim {now : Instant} (pending : p.status = .pending) (unclaimed : p.claimedAt = none) :
      Makes p (.claim now)
        { p with claimedAt := some now, status := .processing, updatedAt := now }
  | submission {hash : String} {now : Instant} :
      Makes p (.submission hash now) (p.markSubmitted hash now)
  | completion {transactionRef : String} {ledgerRef : Int64} {now : Instant} :
      Makes p (.completion transactionRef ledgerRef now)
        (p.markCompleted transactionRef ledgerRef now)
  | retry {reason : String} {policy : RetryPolicy} {now due : Instant} {count : UInt32}
      (counted : p.countFailure? = some count) (room : count < p.maxRetries) :
      Makes p (.failure reason policy now)
        { p with
          retryCount := count
          failureReason := some reason
          submittedHash := none
          updatedAt := now
          nextRetryAt := some due
          status := .retryScheduled }
  | failure {reason : String} {policy : RetryPolicy} {now : Instant} {count : UInt32}
      (counted : p.countFailure? = some count) (full : ¬ count < p.maxRetries) :
      Makes p (.failure reason policy now)
        { p with
          retryCount := count
          failureReason := some reason
          submittedHash := none
          updatedAt := now
          nextRetryAt := none
          status := .failed }
  | requeue {now : Instant} (scheduled : p.status = .retryScheduled) :
      Makes p (.requeue now)
        { p with status := .processing, nextRetryAt := none, updatedAt := now }
  | reset {defaultMaxRetries : UInt32} {now : Instant} (failed : p.status = .failed) :
      Makes p (.reset defaultMaxRetries now)
        { p with
          retryCount := 0
          maxRetries := defaultMaxRetries
          failureReason := none
          nextRetryAt := none
          status := .processing
          updatedAt := now }

theorem makes_of_apply {T : Transition} {p q : Payout} (h : T.apply p = some q) : Makes p T q := by
  cases T with
  | claim now =>
      have hclaimed := eq_ok_of_toOption h
      obtain ⟨hpending, rfl⟩ := Payout.markClaimed_eq_ok hclaimed
      have hclaimable := Payout.isClaimable_of_markClaimed hclaimed
      exact .claim hpending (Payout.isClaimable_iff.mp hclaimable).2
  | submission hash now =>
      obtain rfl := Option.some.inj h
      exact .submission
  | completion transactionRef ledgerRef now =>
      obtain rfl := Option.some.inj h
      exact .completion
  | failure reason policy now =>
      obtain ⟨count, hcount, ⟨hroom, due, rfl⟩ | ⟨hfull, rfl⟩⟩ := Payout.recordFailure?_eq_some h
      · exact .retry hcount hroom
      · exact .failure hcount hfull
  | requeue now =>
      obtain ⟨hscheduled, rfl⟩ := Payout.requeue_eq_ok (eq_ok_of_toOption h)
      exact .requeue hscheduled
  | reset defaultMaxRetries now =>
      obtain ⟨hfailed, rfl⟩ := Payout.resetForRetry_eq_ok (eq_ok_of_toOption h)
      exact .reset hfailed

end Transition

end Disburse
