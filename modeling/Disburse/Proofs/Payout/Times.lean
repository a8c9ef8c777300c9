import Disburse.Payout.Basic
import Disburse.Proofs.Time.Instant

namespace Disburse.Payout

/-- The times that change along the way of a payout. -/
def stateTimes (p : Payout) : List Instant :=
  p.nextRetryAt.toList ++ p.processedAt.toList ++ p.claimedAt.toList ++ [p.updatedAt]

/-- All instants of a payout. -/
def times (p : Payout) : List Instant :=
  p.createdAt :: p.stateTimes

variable {P : Instant → Prop} {p : Payout}

theorem forall_stateTimes : (∀ t ∈ p.stateTimes, P t) ↔
    (∀ t ∈ p.nextRetryAt, P t) ∧ (∀ t ∈ p.processedAt, P t) ∧ (∀ t ∈ p.claimedAt, P t) ∧
      P p.updatedAt := by
  simp only [stateTimes, List.mem_append, Option.mem_toList, List.mem_singleton]
  constructor
  · intro h
    exact ⟨fun t ht => h t (.inl (.inl (.inl ht))), fun t ht => h t (.inl (.inl (.inr ht))),
      fun t ht => h t (.inl (.inr ht)), h _ (.inr rfl)⟩
  · rintro ⟨hnext, hprocessed, hclaimed, hupdated⟩ t (((ht | ht) | ht) | rfl)
    · exact hnext t ht
    · exact hprocessed t ht
    · exact hclaimed t ht
    · exact hupdated

theorem forall_times :
    (∀ t ∈ p.times, P t) ↔ P p.createdAt ∧ ∀ t ∈ p.stateTimes, P t :=
  List.forall_mem_cons

/-- A payout whose names need escapes, and with times from the year 0 to the year 9999. -/
def sampleFailed : Payout where
  id := .ofDraw 7
  recipient := "G\"D\\EST\n"
  amount := ⟨false, 500, 4, by decide, by decide⟩
  asset := "λ😀"
  status := .failed
  kind := .referral
  questRef := none
  submissionRef := some "sub/1"
  submittedHash := none
  transactionRef := none
  ledgerRef := some (-9223372036854775808)
  failureReason := some "Transaction execution failed: \t"
  retryCount := 4294967295
  maxRetries := 4294967295
  nextRetryAt := none
  processedAt := none
  claimedAt := some ⟨951782399, 120000, by decide, by decide, by decide, by decide⟩
  createdAt := ⟨-62167219200, 999999999, by decide, by decide, by decide, by decide⟩
  updatedAt := ⟨253402300799, 500000000, by decide, by decide, by decide, by decide⟩

end Disburse.Payout
