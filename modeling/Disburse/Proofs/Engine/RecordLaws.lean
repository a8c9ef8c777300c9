import Disburse.Proofs.Engine.Transitions

namespace Disburse.Engine

open Disburse.Machine Disburse.Machine.Discipline

variable {policy : RetryPolicy} {moves : List (concurrent policy).Move} {id : PayoutId}
  {p : Payout}

theorem legal_of_mem_run (h : p ∈ ((concurrent policy).run moves).state.store.rows) :
    p.Legal := by
  obtain ⟨reserved, hsound⟩ := (copies.adequate policy).holds_run moves
  exact Sound.legal hsound p h

theorem legal_sampleClaimed :
    sampleClaimed none ∈
        ((concurrent samplePolicy).run (sampleClaim none)).state.store.rows ∧
      (sampleClaimed none).Legal := by
  have hmem : sampleClaimed none ∈
      ((concurrent samplePolicy).run (sampleClaim none)).state.store.rows := by
    decide +kernel
  exact ⟨hmem, legal_of_mem_run hmem⟩

/-- A payout recorded without any attempts is processing all the same once it is claimed. -/
theorem processing_without_attempts :
    ¬ ∀ (policy : RetryPolicy) (moves : List (concurrent policy).Move),
      ∀ p ∈ ((concurrent policy).run moves).state.store.rows,
        p.status = .processing → p.retryCount < p.maxRetries := by
  intro h
  have hmem : sampleClaimed (some 0) ∈
      ((concurrent samplePolicy).run (sampleClaim (some 0))).state.store.rows := by
    decide +kernel
  have hlt := h samplePolicy (sampleClaim (some 0)) _ hmem rfl
  exact absurd hlt (by decide)

/-- A move leaves a stored record as it is, or puts a version in its place that may follow it. -/
theorem followedBy_step (h : ((concurrent policy).run moves).state.store.find? id = some p)
    (move : (concurrent policy).Move) :
    ∃ q, (((concurrent policy).run moves).step move).state.store.find? id = some q ∧
      (q = p ∨ p.FollowedBy q) := by
  have hlater := (copies.adequate policy).later_run moves [move]
  rw [run_append_singleton] at hlater
  obtain ⟨q, hq, -⟩ : ∃ q,
      (((concurrent policy).run moves).step move).state.store.find? id = some q ∧ _ :=
    hlater id p h
  refine ⟨q, hq, ?_⟩
  rcases (copies.adequate policy).permits_step moves move with hstate | ⟨past, r, a, hadvances, -⟩
  · rw [hstate, h] at hq
    exact .inl (Option.some.inj hq).symm
  · exact hadvances id p q h hq

/-- Each version of a record may follow the one before it, and whatever happens later, the record
stays a later version of what it is now. -/
theorem history_of_stored (h : ((concurrent policy).run moves).state.store.find? id = some p) :
    (∀ move, ∃ q, ((concurrent policy).run (moves ++ [move])).state.store.find? id = some q ∧
      (q = p ∨ p.FollowedBy q)) ∧
    ∀ more, ∃ q, ((concurrent policy).run (moves ++ more)).state.store.find? id = some q ∧
      p.LeadsTo q := by
  refine ⟨fun move => ?_, fun more => (copies.adequate policy).later_run moves more id p h⟩
  rw [run_append_singleton]
  exact followedBy_step h move

theorem history_of_sampleClaimed :
    ((concurrent samplePolicy).run (sampleClaim none)).state.store.find? sampleId =
        some (sampleClaimed none) ∧
      ∀ more, ∃ q, ((concurrent samplePolicy).run (sampleClaim none ++ more)).state.store.find?
        sampleId = some q ∧ (sampleClaimed none).LeadsTo q := by
  have hfind : ((concurrent samplePolicy).run (sampleClaim none)).state.store.find? sampleId =
      some (sampleClaimed none) := by
    decide +kernel
  exact ⟨hfind, (history_of_stored hfind).2⟩

end Disburse.Engine
