import Disburse.Engine.Interface
import Disburse.Proofs.Concurrency.Conduct

namespace Disburse.Ledger

/-- The network took an envelope under a hash. -/
def accepted (envelope : Envelope) (hash : String) : Exchange interface :=
  ⟨.call (.submit envelope), .ok (.pending hash)⟩

/-- A status request that found a transfer confirmed. -/
def succeeded (hash : String) (ledger : Int64) : Exchange interface :=
  ⟨.call (.transactionStatus hash), .ok (.success ledger)⟩

end Disburse.Ledger

namespace Disburse.Executor

open Disburse.Code
open Disburse.Ledger (accepted succeeded)

variable {executor : Executor} {request : TransferRequest} {hash : String}
  {past xs : List (Exchange Ledger.interface)}

theorem heeds_call (c : Ledger.Call) :
    (free Ledger.interface).Heeds (Ledger.call c) (fun o past' => ⟨.call c, o⟩ ∈ past') past := by
  constructor
  · exact trivial
  · intro _ _
    exact List.mem_append_right past (List.mem_singleton_self _)

theorem heeds_submit :
    (free Ledger.interface).Heeds (executor.submit request) (fun o past' =>
      ∀ hash, o = .ok hash → ∃ sequence now,
        accepted ((build executor.config request sequence now).sign executor.signer) hash ∈ past')
      past := by
  refine Heeds.bind obeys_free (fun last _ _ => ?_) fun _ _ _ _ h => nomatch h
  refine Heeds.bind obeys_free (fun sequence _ _ => ?_) fun _ _ _ _ h => nomatch h
  refine Heeds.bind obeys_free (fun now past' _ => ?_) fun _ _ _ _ h => nomatch h
  extract_lets transfer handIn
  have hhandIn : ∀ past, (free Ledger.interface).Heeds (handIn ()) (fun o past' =>
      ∀ hash, o = .ok hash → ∃ sequence now,
        accepted ((build executor.config request sequence now).sign executor.signer) hash ∈ past')
      past := by
    intro past
    refine Heeds.bind (heeds_call _) ?_ fun _ _ _ _ h => nomatch h
    rintro (hash | ⟨_, reason⟩) past' hmem _ ho
    · cases ho
      exact ⟨sequence, now, hmem⟩
    · cases ho
  by_cases hsimulates : executor.config.simulates = true
  · rw [if_pos hsimulates]
    refine Heeds.bind obeys_free ?_ fun _ _ _ _ h => nomatch h
    rintro (_ | reason) past' -
    · exact hhandIn past'
    · exact fun _ h => nomatch h
  · rw [if_neg hsimulates]
    exact hhandIn past'

theorem heeds_poll {polls : Nat} :
    (free Ledger.interface).Heeds (executor.poll hash polls) (fun o past' =>
      ∀ receipt, o = .ok receipt →
        receipt.transactionRef = hash ∧ succeeded hash receipt.ledgerRef ∈ past') past := by
  induction polls generalizing past with
  | zero => exact fun _ h => nomatch h
  | succ polls ih =>
      refine Heeds.bind obeys_free (fun _ _ _ => ?_) fun _ _ _ _ h => nomatch h
      refine Heeds.bind
        (R := fun o past' => ∀ ledger, o = .ok (.ok (.success ledger)) →
          succeeded hash ledger ∈ past')
        (heeds_attempt.mpr ((heeds_call _).imp ?_)) ?_ fun _ _ _ _ h => nomatch h
      · rintro ((e | _) | status) past' hmem
        · exact fun _ h => nomatch h
        · exact fun _ h => nomatch h
        · rintro ledger h
          cases h
          exact hmem
      · rintro (e | ledger | result | _) past' hmem
        · exact ih
        · rintro receipt h
          cases h
          exact ⟨rfl, hmem ledger rfl⟩
        · exact fun _ h => nomatch h
        · exact ih

theorem mem_of_call {c : Ledger.Call} {o : Outcome c.Value}
    (h : (Ledger.call c).outcome.Reaches xs (.done o)) : ⟨.call c, o⟩ ∈ xs := by
  have hcall : (free Ledger.interface).Heeds (Ledger.call c)
      (fun o past => ⟨.call c, o⟩ ∈ past) [] := heeds_call c
  have hmem := of_reaches_done hcall h
  exact hmem

/-- A hash was given for the signed transfer of the request. -/
theorem accepted_of_submit (h : (executor.submit request).outcome.Reaches xs (.done (.ok hash))) :
    ∃ sequence now,
      accepted ((build executor.config request sequence now).sign executor.signer) hash ∈ xs :=
  of_reaches_done heeds_submit h hash rfl

theorem succeeded_of_awaitConfirmation {receipt : TransferReceipt}
    (h : (executor.awaitConfirmation hash).outcome.Reaches xs (.done (.ok receipt))) :
    receipt.transactionRef = hash ∧ succeeded hash receipt.ledgerRef ∈ xs :=
  of_reaches_done heeds_poll h receipt rfl

theorem succeeded_of_lookup {ledger : Int64}
    (h : (lookup hash).outcome.Reaches xs (.done (.ok (.success ledger)))) :
    succeeded hash ledger ∈ xs :=
  mem_of_call h

end Disburse.Executor
