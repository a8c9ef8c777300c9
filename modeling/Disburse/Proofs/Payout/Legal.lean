import Disburse.Proofs.Payout.Transition

namespace Disburse

namespace Payout

/-- The fields of a record agree with its state. -/
structure Legal (p : Payout) : Prop where
  retryCount_le : p.retryCount ≤ p.maxRetries
  transactionRef_isSome : p.transactionRef.isSome ↔ p.status = .completed
  ledgerRef_isSome : p.ledgerRef.isSome ↔ p.status = .completed
  processedAt_isSome : p.processedAt.isSome ↔ p.status = .completed
  claimedAt_eq_none : p.claimedAt = none ↔ p.status = .pending
  nextRetryAt_isSome : p.nextRetryAt.isSome ↔ p.status = .retryScheduled
  pending : p.status = .pending → p.retryCount = 0
  retryScheduled : p.status = .retryScheduled → p.retryCount < p.maxRetries
  submittedHash : p.submittedHash.isSome → p.status = .processing
  failed : p.status = .failed → p.retryCount = p.maxRetries
  failureReason_isSome :
    p.status = .failed ∨ p.status = .retryScheduled → p.failureReason.isSome
  failureReason_eq_none :
    p.status = .completed ∨ p.status = .pending → p.failureReason = none
  /-- A processing record has an attempt left, or never had any. -/
  processing : p.status = .processing → p.retryCount < p.maxRetries ∨ p.maxRetries = 0

variable {p q : Payout}

theorem Legal.submittedHash_eq_none (h : p.Legal) (hstatus : p.status ≠ .processing) :
    p.submittedHash = none := by
  cases hhash : p.submittedHash with
  | none => rfl
  | some hash => exact absurd (h.submittedHash (by rw [hhash]; rfl)) hstatus

theorem Legal.nextRetryAt_eq_none (h : p.Legal) (hstatus : p.status ≠ .retryScheduled) :
    p.nextRetryAt = none := by
  rw [← Option.not_isSome_iff_eq_none, h.nextRetryAt_isSome]
  exact hstatus

theorem legal_ofNew (new : NewPayout) (id : PayoutId) (defaultMaxRetries : UInt32)
    (now : Instant) : (ofNew new id defaultMaxRetries now).Legal := by
  constructor <;> simp [ofNew]

theorem zero_lt_or_eq_zero (n : UInt32) : 0 < n ∨ n = 0 := by
  rcases n.toNat.eq_zero_or_pos with h | h
  · exact .inr (UInt32.toNat_inj.mp h)
  · exact .inl (UInt32.lt_iff_toNat_lt.mpr h)

theorem Legal.markClaimed {now : Instant} (h : p.Legal) (hq : p.markClaimed now = .ok q) :
    q.Legal := by
  obtain ⟨hstatus, rfl⟩ := markClaimed_eq_ok hq
  have hbudget := zero_lt_or_eq_zero p.maxRetries
  clear hq
  cases h
  constructor <;> simp_all

theorem Legal.markSubmitted {now : Instant} {hash : String} (h : p.Legal)
    (hstatus : p.status = .processing) : (p.markSubmitted hash now).Legal := by
  cases h
  constructor <;> simp_all [Payout.markSubmitted]

theorem Legal.markCompleted {now : Instant} {transactionRef : String} {ledgerRef : Int64}
    (h : p.Legal) (hstatus : p.status ≠ .pending) :
    (p.markCompleted transactionRef ledgerRef now).Legal := by
  cases h
  constructor <;> simp_all [Payout.markCompleted]

theorem Legal.recordFailure? {now : Instant} {reason : String} {policy : RetryPolicy}
    (h : p.Legal) (hstatus : p.status = .processing)
    (hq : p.recordFailure? reason policy now = some q) : q.Legal := by
  obtain ⟨count, hcount, ⟨hlt, due, rfl⟩ | ⟨hlt, rfl⟩⟩ := recordFailure?_eq_some hq
  · have hle := UInt32.le_of_lt hlt
    clear hq
    cases h
    constructor <;> simp_all
  · have heq : count = p.maxRetries := by
      have := countFailure?_eq_some hcount
      rw [UInt32.lt_iff_toNat_lt] at hlt
      apply UInt32.toNat_inj.mp
      omega
    clear hq
    cases h
    constructor <;> simp_all

theorem Legal.requeue {now : Instant} (h : p.Legal) (hq : p.requeue now = .ok q) : q.Legal := by
  obtain ⟨hstatus, rfl⟩ := requeue_eq_ok hq
  clear hq
  cases h
  constructor <;> simp_all

theorem Legal.resetForRetry {defaultMaxRetries : UInt32} {now : Instant} (h : p.Legal)
    (hq : p.resetForRetry defaultMaxRetries now = .ok q) : q.Legal := by
  obtain ⟨hstatus, rfl⟩ := resetForRetry_eq_ok hq
  have hbudget := zero_lt_or_eq_zero defaultMaxRetries
  clear hq
  cases h
  constructor <;> simp_all

end Payout

theorem Transition.legal_apply {T : Transition} {p q : Payout} (h : p.Legal)
    (hfrom : T.StartsFrom p.status) (hq : T.apply p = some q) : q.Legal := by
  cases T with
  | claim now => exact h.markClaimed (Transition.eq_ok_of_toOption hq)
  | submission hash now => exact Option.some.inj hq ▸ h.markSubmitted hfrom
  | completion transactionRef ledgerRef now =>
      refine Option.some.inj hq ▸ h.markCompleted ?_
      rcases hfrom with hstatus | hstatus | hstatus <;> simp [hstatus]
  | failure reason policy now => exact h.recordFailure? hfrom hq
  | requeue now => exact h.requeue (Transition.eq_ok_of_toOption hq)
  | reset defaultMaxRetries now => exact h.resetForRetry (Transition.eq_ok_of_toOption hq)

end Disburse
