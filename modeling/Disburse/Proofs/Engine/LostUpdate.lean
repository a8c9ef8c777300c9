import Disburse.Proofs.Engine.Transitions
import Disburse.Proofs.Payout.Stale

/-!
Whether a swap that is won makes of the record in its place what the transition was meant to make
of it. The store compares states only, and a record may leave a state and come back to it.
-/

namespace Disburse.Engine

open Disburse.Machine Disburse.Machine.Discipline

/-- The swap that a thread asks for next. -/
def pendingSwap {policy : RetryPolicy} (t : (concurrent policy).Thread) :
    Option (Payout × Status) :=
  match t.rest with
  | .ask (.store (.saveIf p expected)) _ => some (p, expected)
  | _ => none

theorem pendingSwap_eq_some {policy : RetryPolicy} {t : (concurrent policy).Thread} {p : Payout}
    {expected : Status} (h : pendingSwap t = some (p, expected)) :
    ∃ op past next, t = ⟨op, past, .ask (.store (.saveIf p expected)) next⟩ := by
  obtain ⟨op, past, rest⟩ := t
  unfold pendingSwap at h
  split at h
  · rename_i q status next hrest
    obtain ⟨rfl, rfl⟩ := Prod.mk.inj (Option.some.inj h)
    change rest = _ at hrest
    rw [hrest]
    exact ⟨op, past, next, rfl⟩
  · cases h

/-- A swap that is won writes a transition of the copy that its thread read last. That is the same
transition of the record that it replaces exactly if the two agree on what it reads. -/
theorem won_swap_applies_iff {policy : RetryPolicy} {moves : List (concurrent policy).Move}
    {t : (concurrent policy).Thread} {p : Payout} {expected : Status}
    (ht : t ∈ ((concurrent policy).run moves).threads)
    (hswap : pendingSwap t = some (p, expected))
    (hwon : (((concurrent policy).run moves).state.store.saveIf p expected).1 = .ok true) :
    ∃ row, ∃ T : Transition, ∃ copy,
      ((concurrent policy).run moves).state.store.find? p.id = some row ∧
      lastRead t.past p.id = some copy ∧ T.StartsFrom expected ∧ T.apply copy = some p ∧
      (T.apply row = some p ↔ T.Agrees copy row) := by
  obtain ⟨op, past, next, rfl⟩ := pendingSwap_eq_some hswap
  obtain ⟨reserved, hsound⟩ := (copies.adequate policy).holds_run moves
  obtain ⟨-, hpermitted⟩ := (copies.adequate policy).permits_of_mem .plain ht rfl
  obtain ⟨T, copy, hread, ⟨hlegal, row, hrow, hlead⟩, hexpected, hfrom, happly⟩ :=
    hpermitted p expected rfl
  rw [← (Transition.sameOrigin_apply happly).id] at hrow
  obtain ⟨row', hrow', hstatus, -⟩ | ⟨-, hlost⟩ :=
    ((concurrent policy).run moves).state.store.saveIf_cases p expected
  · rw [hrow] at hrow'
    obtain rfl := Option.some.inj hrow'
    refine ⟨row, T, copy, hrow, hread, hfrom, happly, ?_⟩
    exact Transition.apply_stale_iff hlegal (Sound.legal hsound row (MemoryStore.mem_of_find? hrow))
      hlead (hstatus.trans hexpected.symm) (hexpected ▸ hfrom) happly
  · exact absurd hwon hlost

section Sample

variable {policy : RetryPolicy} {distinct : Bool} {opens : Operation → Bool → Bool}

/-- An execution whose submission is refused, up to its event. -/
def sampleRefusal (thread : Nat) : List (machine policy distinct opens).Move :=
  [.resume thread .plain,
    .resume thread (.submitted (.error (.error (.executionFailed "no route to ledger")))),
    .resume thread (.clock .epoch), .resume thread .plain, .resume thread .plain]

/-- The record after some refused attempts, while the next retry is due. -/
def sampleScheduled (refusals : UInt32) : Payout :=
  { sampleClaimed none with
    status := .retryScheduled
    failureReason := some (Error.executionFailed "no route to ledger").message
    retryCount := refusals
    nextRetryAt := some .epoch }

def sampleRequeued (refusals : UInt32) : Payout :=
  { sampleScheduled refusals with status := .processing, nextRetryAt := none }

/-- A payout that was refused once is about to be requeued by a sweep. -/
def sampleDue : List (machine policy distinct opens).Move :=
  sampleClaim none ++ sampleRefusal 2 ++ sampleSweep 3

/-- In between, another sweep has requeued it, and it was refused again. -/
def sampleOvertaken : List (machine policy distinct opens).Move :=
  sampleDue ++ sampleSweep 4 ++ [.resume 4 .plain, .resume 4 .plain] ++ sampleRefusal 5

end Sample

theorem won_swap_applies_sampleDue :
    ∃ t ∈ ((concurrent samplePolicy).run sampleDue).threads,
      pendingSwap t = some (sampleRequeued 1, .retryScheduled) ∧
      ∃ row, ∃ T : Transition, ∃ copy,
        ((concurrent samplePolicy).run sampleDue).state.store.find? sampleId = some row ∧
        lastRead t.past sampleId = some copy ∧ T.StartsFrom .retryScheduled ∧
        T.apply copy = some (sampleRequeued 1) ∧
        (T.apply row = some (sampleRequeued 1) ↔ T.Agrees copy row) := by
  let t := ((concurrent samplePolicy).run sampleDue).threads.get ⟨3, by decide +kernel⟩
  have ht : t ∈ ((concurrent samplePolicy).run sampleDue).threads := List.get_mem ..
  have hswap : pendingSwap t = some (sampleRequeued 1, .retryScheduled) := by decide +kernel
  exact ⟨t, ht, hswap, won_swap_applies_iff ht hswap (by decide +kernel)⟩

/-- A requeue that was overtaken by another one and its failure is won all the same, and takes
that failure back: no transition of the record in store leads to what is written. -/
theorem overtaken_requeue_loses_failure :
    ∃ t ∈ ((concurrent samplePolicy).run sampleOvertaken).threads,
      pendingSwap t = some (sampleRequeued 1, .retryScheduled) ∧
      (((concurrent samplePolicy).run sampleOvertaken).state.store.saveIf
        (sampleRequeued 1) .retryScheduled).1 = .ok true ∧
      ∃ row, ((concurrent samplePolicy).run sampleOvertaken).state.store.find? sampleId =
          some row ∧
        (sampleRequeued 1).retryCount < row.retryCount ∧
        ∀ T : Transition, T.apply row ≠ some (sampleRequeued 1) := by
  let t := ((concurrent samplePolicy).run sampleOvertaken).threads.get ⟨3, by decide +kernel⟩
  have ht : t ∈ ((concurrent samplePolicy).run sampleOvertaken).threads := List.get_mem ..
  have hswap : pendingSwap t = some (sampleRequeued 1, .retryScheduled) := by decide +kernel
  refine ⟨t, ht, hswap, by decide +kernel, sampleScheduled 2, by decide +kernel, by decide, ?_⟩
  intro T hT
  have hcount : (1 : UInt32) = 2 := Transition.retryCount_apply hT rfl rfl
  exact absurd hcount (by decide)

end Disburse.Engine
