import Disburse.Proofs.Payout.Legal

namespace Disburse.Payout

/-- A record counts no more failures than it may have, goes on only with an attempt left, or
without having had any, and holds a hash only while it is processing. -/
structure Budgeted (p : Payout) : Prop where
  retryCount_le : p.retryCount ≤ p.maxRetries
  pending : p.status = .pending → p.retryCount = 0
  retryScheduled : p.status = .retryScheduled → p.retryCount < p.maxRetries
  processing : p.status = .processing → p.retryCount < p.maxRetries ∨ p.maxRetries = 0
  submittedHash : p.submittedHash.isSome → p.status = .processing

variable {p q : Payout} {now : Instant}

theorem Legal.budgeted (h : p.Legal) : p.Budgeted where
  retryCount_le := h.retryCount_le
  pending := h.pending
  retryScheduled := h.retryScheduled
  processing := h.processing
  submittedHash := h.submittedHash

theorem Budgeted.markClaimed (h : p.Budgeted) (hq : p.markClaimed now = .ok q) : q.Budgeted := by
  obtain ⟨hstatus, rfl⟩ := markClaimed_eq_ok hq
  have hbudget := zero_lt_or_eq_zero p.maxRetries
  clear hq
  cases h
  constructor <;> simp_all

theorem Budgeted.markSubmitted {hash : String} (h : p.Budgeted) (hstatus : p.status = .processing) :
    (p.markSubmitted hash now).Budgeted := by
  cases h
  constructor <;> simp_all [Payout.markSubmitted]

theorem Budgeted.markCompleted {transactionRef : String} {ledgerRef : Int64} (h : p.Budgeted) :
    (p.markCompleted transactionRef ledgerRef now).Budgeted := by
  cases h
  constructor <;> simp_all [Payout.markCompleted]

theorem Budgeted.recordFailure? {reason : String} {policy : RetryPolicy} (h : p.Budgeted)
    (hq : p.recordFailure? reason policy now = some q) : q.Budgeted := by
  obtain ⟨count, hcount, ⟨hlt, due, rfl⟩ | ⟨hlt, rfl⟩⟩ := recordFailure?_eq_some hq
  · have hle := UInt32.le_of_lt hlt
    clear hq
    cases h
    constructor <;> simp_all
  · have hle : count ≤ p.maxRetries := by
      have := countFailure?_eq_some hcount
      rw [UInt32.le_iff_toNat_le]
      omega
    clear hq
    cases h
    constructor <;> simp_all

theorem Budgeted.requeue (h : p.Budgeted) (hq : p.requeue now = .ok q) : q.Budgeted := by
  obtain ⟨hstatus, rfl⟩ := requeue_eq_ok hq
  clear hq
  cases h
  constructor <;> simp_all

theorem Budgeted.resetForRetry {defaultMaxRetries : UInt32} (h : p.Budgeted)
    (hq : p.resetForRetry defaultMaxRetries now = .ok q) : q.Budgeted := by
  obtain ⟨hstatus, rfl⟩ := resetForRetry_eq_ok hq
  have hbudget := zero_lt_or_eq_zero defaultMaxRetries
  clear hq
  cases h
  constructor <;> simp_all

end Disburse.Payout
