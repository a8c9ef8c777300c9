import Disburse.Proofs.Payout.Budget

namespace Disburse

theorem RetryPolicy.backoff?_eq_some {policy : RetryPolicy} {count : UInt32} {delay : Span}
    (h : policy.backoff? count = some delay) :
    delay.nanoseconds = policy.baseUnit.nanoseconds * Nat.pow 2 (min count.toNat 20) := by
  simp only [backoff?, Span.times?] at h
  split at h
  · obtain rfl := Option.some.inj h
    rfl
  · cases h

/-- The times of all retries that a failure at an instant may schedule can be written. -/
def RetryPolicy.Schedules (policy : RetryPolicy) (maxRetries : UInt32) (now : Instant) : Prop :=
  ∀ count, 0 < count → count < maxRetries →
    ∃ delay, policy.backoff? count = some delay ∧ ∃ due, now.add? delay = some due

namespace Payout

variable {p : Payout} {policy : RetryPolicy} {reason : String} {now : Instant}

theorem Budgeted.exists_countFailure? (h : p.Budgeted) (hstatus : p.status = .processing) :
    ∃ count, p.countFailure? = some count := by
  have hrange : p.retryCount.toNat + 1 < UInt32.size := by
    have hmax := p.maxRetries.toNat_lt_size
    rcases h.processing hstatus with hlt | hzero
    · rw [UInt32.lt_iff_toNat_lt] at hlt
      omega
    · have hle := h.retryCount_le
      rw [UInt32.le_iff_toNat_le, hzero] at hle
      rw [Nat.le_zero.mp hle]
      decide
  exact ⟨_, countFailure?_of_lt hrange⟩

theorem Budgeted.exists_attempt? (h : p.Budgeted) (hstatus : p.status = .processing) :
    ∃ attempt, p.attempt? = some attempt := by
  obtain ⟨count, hcount⟩ := h.exists_countFailure? hstatus
  obtain ⟨attempt, hattempt, -⟩ := Option.map_eq_some_iff.mp hcount
  exact ⟨attempt, hattempt⟩

/-- The failure of a record within its budget can be booked whenever its next retry can be dated. -/
theorem Budgeted.exists_recordFailure? (h : p.Budgeted) (hstatus : p.status = .processing)
    (hrange : policy.Schedules p.maxRetries now) :
    ∃ failed, p.recordFailure? reason policy now = some failed := by
  obtain ⟨count, hcount⟩ := h.exists_countFailure? hstatus
  by_cases hlt : count < p.maxRetries
  · have hpos : 0 < count := by
      have := countFailure?_eq_some hcount
      rw [UInt32.lt_iff_toNat_lt] at hlt ⊢
      show 0 < count.toNat
      omega
    obtain ⟨delay, hdelay, due, hdue⟩ := hrange count hpos hlt
    exact ⟨_, by simp only [Payout.recordFailure?, hcount, hlt, hdelay, hdue, Option.bind_eq_bind,
      Option.bind_some, if_true, Option.pure_def]; rfl⟩
  · exact ⟨_, by simp only [Payout.recordFailure?, hcount, hlt, Option.bind_eq_bind,
      Option.bind_some, if_false, Option.pure_def]; rfl⟩

end Payout

end Disburse
