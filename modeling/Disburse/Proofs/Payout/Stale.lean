import Disburse.Proofs.Payout.History

/-!
Transitions of a stale copy. What a transition makes of an earlier version of a record is what it
would make of the version in store, if the two agree on what the transition reads.
-/

namespace Disburse

namespace Payout

/-- Two versions of a record have the same attempts behind them and the same ones to come. -/
structure SameAttempts (p q : Payout) : Prop where
  retryCount : q.retryCount = p.retryCount
  maxRetries : q.maxRetries = p.maxRetries

variable {p q : Payout}

theorem LeadsTo.eq_with (h : p.LeadsTo q) (hp : p.Legal) (hq : q.Legal)
    (hstatus : q.status = p.status) :
    q = { p with
      submittedHash := q.submittedHash
      failureReason := q.failureReason
      retryCount := q.retryCount
      maxRetries := q.maxRetries
      nextRetryAt := q.nextRetryAt
      updatedAt := q.updatedAt } := by
  by_cases hpending : p.status = .pending
  · rw [h.pending (hstatus.trans hpending)]
  by_cases hcompleted : p.status = .completed
  · rw [h.completed hcompleted]
  have hclaimed : q.claimedAt = p.claimedAt := by
    refine h.claimedAt (Option.isSome_iff_ne_none.mpr fun hnone => ?_)
    exact hpending (hp.claimedAt_eq_none.mp hnone)
  -- What only a completed record has, neither of them has.
  have hnone : ∀ r : Payout, r.Legal → r.status = p.status →
      r.transactionRef = none ∧ r.ledgerRef = none ∧ r.processedAt = none := by
    intro r hr hr'
    have hr'' : r.status ≠ .completed := hr' ▸ hcompleted
    refine ⟨?_, ?_, ?_⟩
    · simpa [hr''] using hr.transactionRef_isSome
    · simpa [hr''] using hr.ledgerRef_isSome
    · simpa [hr''] using hr.processedAt_isSome
  obtain ⟨htransaction, hledger, hprocessed⟩ := hnone p hp rfl
  obtain ⟨htransaction', hledger', hprocessed'⟩ := hnone q hq hstatus
  obtain ⟨hid, hrecipient, hamount, hasset, hkind, hquest, hsubmission, hcreated⟩ := h.origin
  cases p
  cases q
  simp_all

theorem retryCount_eq_of_countFailure? {count : UInt32} (hp : p.Legal) (hq : q.Legal)
    (hstatus : p.status = .processing) (hstatus' : q.status = .processing)
    (hmax : q.maxRetries = p.maxRetries) (hcount : p.countFailure? = some count)
    (hcount' : q.countFailure? = some count) : q.retryCount = p.retryCount := by
  have heq := (countFailure?_eq_some hcount).symm.trans (countFailure?_eq_some hcount')
  -- Below the maximum a failure adds one. A record at the maximum never had any attempt.
  have hle := UInt32.le_iff_toNat_le.mp hp.retryCount_le
  have hle' := UInt32.le_iff_toNat_le.mp hq.retryCount_le
  rw [hmax] at heq hle'
  apply UInt32.toNat_inj.mp
  rcases hp.processing hstatus with hlt | hzero
  · rcases hq.processing hstatus' with hlt' | hzero'
    · rw [hmax] at hlt'
      rw [UInt32.lt_iff_toNat_lt] at hlt hlt'
      omega
    · rw [hmax] at hzero'
      rw [UInt32.lt_iff_toNat_lt, hzero'] at hlt
      exact absurd hlt (Nat.not_lt_zero _)
  · rw [hzero, UInt32.toNat_zero] at hle hle'
    omega

end Payout

namespace Transition

/-- Two versions of a record agree on what a transition reads of them. -/
def Agrees : Transition → Payout → Payout → Prop
  | .claim _, _, _ => True
  | .submission .., p, q => p.SameAttempts q ∧ q.failureReason = p.failureReason
  | .completion .., p, q => p.SameAttempts q
  | .failure .., p, q => p.SameAttempts q
  | .requeue _, p, q => p.SameAttempts q ∧ q.failureReason = p.failureReason
  | .reset .., _, _ => True

variable {p row q : Payout}

theorem apply_submission_stale_iff {hash : String} {now : Instant} (hp : p.Legal)
    (hrow : row.Legal) (hlead : p.LeadsTo row) (hstatus : row.status = p.status)
    (hprocessing : p.status = .processing) :
    (submission hash now).apply row = (submission hash now).apply p ↔
      (submission hash now).Agrees p row := by
  have hdue := hp.nextRetryAt_eq_none (by simp [hprocessing])
  have hdue' := hrow.nextRetryAt_eq_none (by simp [hstatus, hprocessing])
  have heq := hlead.eq_with hp hrow hstatus
  simp only [apply, Payout.markSubmitted, Option.some.injEq]
  constructor
  · intro h
    have hcount := congrArg Payout.retryCount h
    have hmax := congrArg Payout.maxRetries h
    have hreason := congrArg Payout.failureReason h
    exact ⟨⟨hcount, hmax⟩, hreason⟩
  · rintro ⟨⟨hcount, hmax⟩, hreason⟩
    rw [heq, hcount, hmax, hreason, hdue', ← hdue]

theorem apply_completion_stale_iff {transactionRef : String} {ledgerRef : Int64} {now : Instant}
    (hp : p.Legal) (hrow : row.Legal) (hlead : p.LeadsTo row) (hstatus : row.status = p.status) :
    (completion transactionRef ledgerRef now).apply row =
        (completion transactionRef ledgerRef now).apply p ↔
      (completion transactionRef ledgerRef now).Agrees p row := by
  have heq := hlead.eq_with hp hrow hstatus
  simp only [apply, Payout.markCompleted, Option.some.injEq]
  constructor
  · intro h
    have hcount := congrArg Payout.retryCount h
    have hmax := congrArg Payout.maxRetries h
    exact ⟨hcount, hmax⟩
  · rintro ⟨hcount, hmax⟩
    rw [heq, hcount, hmax]

theorem apply_failure_stale_iff {reason : String} {policy : RetryPolicy} {now : Instant}
    (hp : p.Legal) (hrow : row.Legal) (hlead : p.LeadsTo row) (hstatus : row.status = p.status)
    (hprocessing : p.status = .processing)
    (hq : (failure reason policy now).apply p = some q) :
    (failure reason policy now).apply row = some q ↔
      (failure reason policy now).Agrees p row := by
  have heq := hlead.eq_with hp hrow hstatus
  constructor
  · intro hq'
    have hread : ∀ r : Payout, r.recordFailure? reason policy now = some q →
        r.countFailure? = some q.retryCount ∧ q.maxRetries = r.maxRetries := by
      intro r hr
      obtain ⟨count, hcount, ⟨-, due, rfl⟩ | ⟨-, rfl⟩⟩ := Payout.recordFailure?_eq_some hr
      all_goals exact ⟨hcount, rfl⟩
    obtain ⟨hcount, hmax⟩ := hread p hq
    obtain ⟨hcount', hmax'⟩ := hread row hq'
    have hmaxEq := hmax'.symm.trans hmax
    exact ⟨Payout.retryCount_eq_of_countFailure? hp hrow hprocessing (hstatus.trans hprocessing)
      hmaxEq hcount hcount', hmaxEq⟩
  · rintro ⟨hcount, hmax⟩
    rw [heq, hcount, hmax]
    exact hq

theorem apply_requeue_stale_iff {now : Instant} (hp : p.Legal) (hrow : row.Legal)
    (hlead : p.LeadsTo row) (hstatus : row.status = p.status)
    (hscheduled : p.status = .retryScheduled) :
    (requeue now).apply row = (requeue now).apply p ↔ (requeue now).Agrees p row := by
  have hhash := hp.submittedHash_eq_none (by simp [hscheduled])
  have hhash' := hrow.submittedHash_eq_none (by simp [hstatus, hscheduled])
  have heq := hlead.eq_with hp hrow hstatus
  simp only [apply, Payout.requeue, hstatus.trans hscheduled, hscheduled, if_true, Except.toOption,
    Option.some.injEq]
  constructor
  · intro h
    have hcount := congrArg Payout.retryCount h
    have hmax := congrArg Payout.maxRetries h
    have hreason := congrArg Payout.failureReason h
    exact ⟨⟨hcount, hmax⟩, hreason⟩
  · rintro ⟨⟨hcount, hmax⟩, hreason⟩
    rw [heq, hcount, hmax, hreason, hhash', ← hhash]

theorem apply_reset_stale {defaultMaxRetries : UInt32} {now : Instant} (hp : p.Legal)
    (hrow : row.Legal) (hlead : p.LeadsTo row) (hstatus : row.status = p.status)
    (hfailed : p.status = .failed) :
    (reset defaultMaxRetries now).apply row = (reset defaultMaxRetries now).apply p := by
  have hhash := hp.submittedHash_eq_none (by simp [hfailed])
  have hhash' := hrow.submittedHash_eq_none (by simp [hstatus, hfailed])
  have heq := hlead.eq_with hp hrow hstatus
  simp only [apply, Payout.resetForRetry, hstatus.trans hfailed, hfailed, if_true,
    Except.toOption, Option.some.injEq]
  rw [heq, hhash', ← hhash]

/-- What a transition makes of an earlier version of a record, in the same state, is what it makes
of the record itself exactly if the two agree on what it reads. -/
theorem apply_stale_iff {T : Transition} (hp : p.Legal) (hrow : row.Legal)
    (hlead : p.LeadsTo row) (hstatus : row.status = p.status) (hfrom : T.StartsFrom p.status)
    (hq : T.apply p = some q) : T.apply row = some q ↔ T.Agrees p row := by
  cases T with
  | claim now =>
      obtain rfl := hlead.pending (hstatus.trans hfrom)
      exact iff_of_true hq trivial
  | submission hash now =>
      rw [← hq]
      exact apply_submission_stale_iff hp hrow hlead hstatus hfrom
  | completion transactionRef ledgerRef now =>
      rw [← hq]
      exact apply_completion_stale_iff hp hrow hlead hstatus
  | failure reason policy now =>
      exact apply_failure_stale_iff hp hrow hlead hstatus hfrom hq
  | requeue now =>
      rw [← hq]
      exact apply_requeue_stale_iff hp hrow hlead hstatus hfrom
  | reset defaultMaxRetries now =>
      rw [← hq]
      exact iff_of_true (apply_reset_stale hp hrow hlead hstatus hfrom) trivial

theorem retryCount_apply {T : Transition} (hq : T.apply p = some q)
    (hp : p.status = .retryScheduled) (hq' : q.status = .processing) :
    q.retryCount = p.retryCount := by
  cases makes_of_apply hq with
  | claim | submission | requeue => rfl
  | completion | retry | failure => cases hq'
  | reset hfailed => exact absurd (hp.symm.trans hfailed) (by decide)

end Transition

end Disburse
