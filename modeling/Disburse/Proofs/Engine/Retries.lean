import Disburse.Proofs.Engine.Undisturbed

namespace Disburse.Engine

open Disburse.Machine Disburse.Machine.Discipline

variable {policy : RetryPolicy} {before segment : List Entry} {id : PayoutId} {p q : Payout}

/-- How a payout fares in a chapter of the log. -/
structure Course (policy : RetryPolicy) (id : PayoutId) (log : List Entry) (p opened : Payout)
    (s : MemoryStore) (segment : List Entry) : Prop where
  anew : opened.retryCount = 0
  claimed : p.status = .pending → opened.maxRetries = p.maxRetries
  reset : p.status = .failed → opened.maxRetries = policy.defaultMaxRetries
  booked : ∀ k (change : Payout × Payout), (failuresFrom id s segment)[k]? = some change →
    change.2.Booked policy opened.maxRetries.toNat (k + 1) ∧ ReadAt log change.2.updatedAt
  requeued : ∀ change ∈ changes id s segment, change.1.status = .retryScheduled →
    change.2.status = .processing → Requeued log change
  processing : ∀ e ∈ segment, e.Submits id →
    ∃ p, e.store.find? id = some p ∧ p.status = .processing
  given_up : ∀ front e rest, segment = front ++ e :: rest → ∀ q, e.store.find? id = some q →
    q.status = .failed → ∀ x ∈ rest, x.store.find? id = some q ∧ ¬ x.Submits id
  attempts : (submissions id segment).length ≤ (failuresFrom id s segment).length + 1
  bounded : (submissions id segment).length ≤ max 1 opened.maxRetries.toNat

theorem Orderly.course {opening : Entry} {opened : Payout}
    (h : Orderly policy (before ++ opening :: segment))
    (hchange : change? id (storeAfter .empty before) opening.store = some (p, opened))
    (hopens : Opens (p, opened))
    (hsegment : ∀ change ∈ changes id opening.store segment, ¬ Opens change) :
    Course policy id (before ++ opening :: segment) p opened opening.store segment := by
  obtain ⟨hanew, hclaimed, hreset, -⟩ := Chapter.start (h.happens id) hchange hopens
  have hchapter := h.chapter hchange hopens hsegment
  obtain ⟨last, -, -, hstands⟩ := hchapter.standing
  refine ⟨hanew, hclaimed, hreset, hchapter.booked, hchapter.requeued, fun e he hsubmits => ?_,
    ?_, hstands.sent_le, hstands.sent_le_max⟩
  · obtain ⟨front, rest, rfl⟩ := List.append_of_mem he
    rw [← List.cons_append, ← List.append_assoc] at h
    exact h.processing_of_submits hsubmits
  · rintro front e rest rfl q hq hfailed
    have hlog : before ++ opening :: (front ++ e :: rest) =
        before ++ opening :: (front ++ [e]) ++ rest := by simp
    have hstore : storeAfter .empty (before ++ opening :: (front ++ [e])) = e.store := by
      rw [storeAfter_append_cons, storeAfter_append]
    rw [hlog] at h
    refine h.failed_stays (hstore ▸ hq) hfailed fun change hmem => hsegment change ?_
    rw [hstore] at hmem
    rw [changes_append_cons]
    exact List.mem_append_right _ hmem

end Disburse.Engine
