import Disburse.Proofs.Engine.Calm
import Disburse.Proofs.Engine.Transitions

/-!
Recovery after a crash. Wherever an execution was cut off, what the store then holds decides what
a recovery does: it asks the ledger at most about the hash of the record, sends nothing, and
settles the record unless the ledger cannot be asked.
-/

namespace Disburse.Engine

open Disburse.Machine Disburse.Task

variable {σ : Type} {answer : Surroundings interface σ} {view : σ → MemoryStore} {u : σ}
  {policy : RetryPolicy} {moves : List (concurrent policy).Move} {p : Payout} {id : PayoutId}

/-- A recovery that finds nothing to do. -/
structure Idles (s : MemoryStore) (o : Outcome (Option Status)) (s' : MemoryStore)
    (past : List (Exchange interface)) : Prop where
  outcome : o = .ok none
  stored : s' = s
  events : events past = []
  calls : calls past = []

/-- A recovery that books the attempt of a record as failed. -/
def Interrupts (policy : RetryPolicy) (reason : String) (p : Payout) (s : MemoryStore)
    (o : Outcome (Option Status)) (s' : MemoryStore) (past : List (Exchange interface)) : Prop :=
  ∃ failed, Books policy reason p failed ∧ o = .ok (some failed.status) ∧
    s' = s.overwrite failed ∧ events past = [.failed p.id p.recipient reason]

/-- A recovery that completes a record. -/
def Completes (receipt : TransferReceipt) (p : Payout) (s : MemoryStore)
    (o : Outcome (Option Status)) (s' : MemoryStore) (past : List (Exchange interface)) : Prop :=
  ∃ done, Lands receipt p done ∧ o = .ok (some .completed) ∧ s' = s.overwrite done ∧
    events past = [.processed p.id p.recipient p.amount receipt.transactionRef]

/-- What a recovery does with what it was told about the hash of a record. -/
def Settles (policy : RetryPolicy) (hash : String) :
    Outcome Ledger.TxStatus → (p : Payout) → (s : MemoryStore) → (o : Outcome (Option Status)) →
      (s' : MemoryStore) → (past : List (Exchange interface)) → Prop
  | .ok (.success ledger) => Completes ⟨hash, ledger⟩
  | .ok (.failed result) => Interrupts policy (Executor.failureText hash result)
  | .ok .notFound => Interrupts policy "execution interrupted"
  | .error e => fun _ s o s' past => o = .error e ∧ s' = s ∧ events past = []

/-- What a recovery of the stored record `p` does. -/
structure Recovers (policy : RetryPolicy) (p : Payout) (s : MemoryStore)
    (o : Outcome (Option Status)) (s' : MemoryStore) (past : List (Exchange interface)) :
    Prop where
  unsent : ∀ x ∈ past, isSubmission x = false
  settled : p.status ≠ .processing → Idles s o s' past
  unsubmitted : p.status = .processing → p.submittedHash = none →
    calls past = [] ∧ Interrupts policy "execution interrupted" p s o s' past
  submitted : ∀ hash, p.status = .processing → p.submittedHash = some hash →
    ∃ found, calls past = [⟨.transfer (.lookup hash), found⟩] ∧
      Settles policy hash found p s o s' past
  /-- Only a look-up that fails leaves the record in processing. -/
  left : (∀ e, o ≠ .error e) → ∃ q, s'.find? p.id = some q ∧ q.status ≠ .processing

theorem find?_overwrite_next {s : MemoryStore} {q : Payout} (hfound : s.find? p.id = some p)
    (horigin : p.SameOrigin q) : (s.overwrite q).find? p.id = some q := by
  rw [← horigin.id] at hfound ⊢
  exact MemoryStore.find?_overwrite_self hfound

theorem Interrupts.left {reason : String} {s s' : MemoryStore} {o : Outcome (Option Status)}
    {past : List (Exchange interface)} (h : Interrupts policy reason p s o s' past)
    (hfound : s.find? p.id = some p) : ∃ q, s'.find? p.id = some q ∧ q.status ≠ .processing := by
  obtain ⟨failed, hbooks, -, rfl, -⟩ := h
  refine ⟨failed, find?_overwrite_next hfound hbooks.origin, ?_⟩
  rcases hbooks.status with hstatus | hstatus <;> simp [hstatus]

theorem Completes.left {receipt : TransferReceipt} {s s' : MemoryStore}
    {o : Outcome (Option Status)} {past : List (Exchange interface)}
    (h : Completes receipt p s o s' past) (hfound : s.find? p.id = some p) :
    ∃ q, s'.find? p.id = some q ∧ q.status ≠ .processing := by
  obtain ⟨done, hlands, -, rfl, -⟩ := h
  exact ⟨done, find?_overwrite_next hfound hlands.origin, by simp [hlands.status]⟩

theorem Settles.left {hash : String} {found : Outcome Ledger.TxStatus} {s s' : MemoryStore}
    {o : Outcome (Option Status)} {past : List (Exchange interface)}
    (h : Settles policy hash found p s o s' past) (hfound : s.find? p.id = some p)
    (ho : ∀ e, o ≠ .error e) : ∃ q, s'.find? p.id = some q ∧ q.status ≠ .processing := by
  rcases found with e | ledger | result | _
  · exact absurd h.1 (ho e)
  · exact Completes.left h hfound
  · exact Interrupts.left h hfound
  · exact Interrupts.left h hfound

theorem isSubmission_eq_false_of_calls {past : List (Exchange interface)}
    (h : ∀ x ∈ calls past, isSubmission x = false) : ∀ x ∈ past, isSubmission x = false := by
  intro x hx
  by_cases htransfer : isTransfer x = true
  · exact h x (List.mem_filter.mpr ⟨hx, htransfer⟩)
  · unfold isTransfer at htransfer
    unfold isSubmission
    split at htransfer
    · exact absurd rfl htransfer
    · rename_i hne
      split
      · rename_i hsubmit
        exact absurd hsubmit (hne _)
      · rfl

namespace Calm

variable (calm : Calm answer view)

include calm

theorem ends_recover_settled (hfound : (view u).find? id = some p)
    (hstatus : p.status ≠ .processing) :
    (recover policy id).Ends answer (fun o u' past => Idles (view u) o (view u') past) u [] := by
  unfold recover
  rw [ends_bind]
  refine calm.ends_load hfound fun u' _ hu' => ?_
  simp only [hstatus, if_true, ne_eq, not_false_eq_true]
  exact ends_pure.mpr ⟨rfl, hu', rfl, rfl⟩

theorem ends_interrupts {reason : String} {u₁ : σ} {past : List (Exchange interface)}
    (hu₁ : view u₁ = view u) (hevents : events past = []) (hfound : (view u).find? p.id = some p)
    (hlegal : p.Legal) (hstatus : p.status = .processing)
    (hrange : ∀ u, policy.Schedules p.maxRetries (answer .now u).1) :
    (bookFailure policy p reason).Ends answer (fun o u' past' =>
      calls past' = calls past ∧ Interrupts policy reason p (view u) o (view u') past') u₁
      past := by
  refine (calm.ends_bookFailure (by rwa [hu₁]) hlegal.budgeted hstatus hrange).imp ?_
  rintro o u' past' ⟨failed, hbooks, rfl, hu', now, rfl⟩
  refine ⟨by simp [calls, isTransfer, wonSwap], failed, hbooks, rfl, by rw [hu', hu₁], ?_⟩
  rw [events_append, hevents]
  rfl

theorem ends_recover_unsubmitted (hfound : (view u).find? p.id = some p) (hlegal : p.Legal)
    (hstatus : p.status = .processing) (hhash : p.submittedHash = none)
    (hrange : ∀ u, policy.Schedules p.maxRetries (answer .now u).1) :
    (recover policy p.id).Ends answer (fun o u' past =>
      calls past = [] ∧ Interrupts policy "execution interrupted" p (view u) o (view u') past)
      u [] := by
  unfold recover
  rw [ends_bind]
  refine calm.ends_load hfound fun u₁ _ hu₁ => ?_
  simp only [hstatus, ne_eq, not_true_eq_false, if_false, hhash]
  exact calm.ends_interrupts hu₁ rfl hfound hlegal hstatus hrange

/-- One look-up of the stored hash decides. -/
theorem ends_recover_submitted {hash : String} (hfound : (view u).find? p.id = some p)
    (hlegal : p.Legal) (hstatus : p.status = .processing) (hhash : p.submittedHash = some hash)
    (hrange : ∀ u, policy.Schedules p.maxRetries (answer .now u).1) :
    (recover policy p.id).Ends answer (fun o u' past =>
      ∃ found, calls past = [⟨.transfer (.lookup hash), found⟩] ∧
        Settles policy hash found p (view u) o (view u') past) u [] := by
  unfold recover
  rw [ends_bind]
  refine calm.ends_load hfound fun u₁ _ hu₁ => ?_
  simp only [hstatus, ne_eq, not_true_eq_false, if_false, hhash]
  rw [ends_bind, ends_transfer]
  have hu₂ : view (answer (.transfer (.lookup hash)) u₁).2 = view u := by
    rw [calm.kept_transfer, hu₁]
  generalize (answer (.transfer (.lookup hash)) u₁).2 = u₂ at hu₂ ⊢
  generalize (answer (.transfer (.lookup hash)) u₁).1 = found
  rcases found with e | ledger | result | _
  · exact ⟨.error e, rfl, rfl, hu₂, rfl⟩
  · dsimp only
    rw [ends_bind]
    refine (calm.ends_complete (p := p) (by rwa [hu₂]) hstatus).imp ?_
    rintro o u' past ⟨done, hdone, rfl, hu', rfl⟩
    have hlands : Lands ⟨hash, ledger⟩ p done := hdone ▸ lands_markCompleted _ p _
    exact ends_pure.mpr ⟨_, rfl, done, hlands, rfl, by rw [hu', hu₂], rfl⟩
  · refine (calm.ends_interrupts hu₂ rfl hfound hlegal hstatus hrange).imp ?_
    exact fun o u' past ⟨hcalls, hinterrupts⟩ => ⟨_, hcalls, hinterrupts⟩
  · refine (calm.ends_interrupts hu₂ rfl hfound hlegal hstatus hrange).imp ?_
    exact fun o u' past ⟨hcalls, hinterrupts⟩ => ⟨_, hcalls, hinterrupts⟩

/-- What a recovery of a record does, whatever the ledger and the clock say. -/
theorem ends_recover (hfound : (view u).find? p.id = some p) (hlegal : p.Legal)
    (hrange : ∀ u, policy.Schedules p.maxRetries (answer .now u).1) :
    (recover policy p.id).Ends answer
      (fun o u' past => Recovers policy p (view u) o (view u') past) u [] := by
  by_cases hstatus : p.status = .processing
  · cases hhash : p.submittedHash with
    | none =>
        refine (calm.ends_recover_unsubmitted hfound hlegal hstatus hhash hrange).imp ?_
        rintro o u' past ⟨hcalls, hinterrupts⟩
        exact {
          unsent := isSubmission_eq_false_of_calls (by simp [hcalls])
          settled := fun h => absurd hstatus h
          unsubmitted := fun _ _ => ⟨hcalls, hinterrupts⟩
          submitted := fun hash _ h => by rw [hhash] at h; cases h
          left := fun _ => hinterrupts.left hfound }
    | some hash =>
        refine (calm.ends_recover_submitted hfound hlegal hstatus hhash hrange).imp ?_
        rintro o u' past ⟨found, hcalls, hsettles⟩
        exact {
          unsent := isSubmission_eq_false_of_calls (by simp [hcalls, isSubmission])
          settled := fun h => absurd hstatus h
          unsubmitted := fun _ h => by rw [hhash] at h; cases h
          submitted := fun hash' _ h => by
            obtain rfl := Option.some.inj (hhash.symm.trans h)
            exact ⟨found, hcalls, hsettles⟩
          left := hsettles.left hfound }
  · refine (calm.ends_recover_settled hfound hstatus).imp ?_
    intro o u' past hidles
    exact {
      unsent := isSubmission_eq_false_of_calls (by simp [hidles.calls])
      settled := fun _ => hidles
      unsubmitted := fun h => absurd h hstatus
      submitted := fun _ h => absurd h hstatus
      left := fun _ => ⟨p, hidles.stored ▸ hfound, hstatus⟩ }

end Calm

/-- The store that is left when an execution is started behind some moves and cut off behind the
requests that are answered by `cut`. -/
def storeAtCut (policy : RetryPolicy) (moves : List (concurrent policy).Move) (id : PayoutId)
    (cut : List Behaviour) : MemoryStore :=
  let thread := ((concurrent policy).run moves).threads.length
  let before : List (concurrent policy).Move := cut.map fun b => .resume thread b
  ((concurrent policy).run (moves ++ .start (.execute id) :: before)).state.store

/-- An execution of a stored payout may be cut off anywhere: in calm surroundings with the store
that it left, a recovery does what the record then calls for, and unless it returns an error
another one finds nothing left to do. -/
theorem recovery_after_cut (hfound : ((concurrent policy).run moves).state.store.find? id = some p)
    (cut : List Behaviour) :
    ∃ row, (storeAtCut policy moves id cut).find? id = some row ∧ p.LeadsTo row ∧
      ∀ (σ : Type) (answer : Surroundings interface σ) (view : σ → MemoryStore) (u : σ),
        Calm answer view → view u = storeAtCut policy moves id cut →
        (∀ u, policy.Schedules row.maxRetries (answer .now u).1) →
        (recover policy id).Ends answer (fun o u' past =>
          Recovers policy row (view u) o (view u') past ∧
            ((∀ e, o ≠ .error e) → (recover policy id).Ends answer
              (fun o' u'' past' => Idles (view u') o' (view u'') past') u' [])) u [] := by
  obtain ⟨row, hrow, hlead⟩ := copies.exists_later hfound _
  refine ⟨row, hrow, hlead, fun σ answer view u calm hu hrange => ?_⟩
  have hlegal := copies.legal_of_find? hrow
  obtain rfl := MemoryStore.find?_id hrow
  have hrow' : (view u).find? row.id = some row := hu ▸ hrow
  refine (calm.ends_recover hrow' hlegal hrange).imp fun o u' past hrecovers => ?_
  refine ⟨hrecovers, fun ho => ?_⟩
  obtain ⟨q, hq, hstatus⟩ := hrecovers.left ho
  exact calm.ends_recover_settled hq hstatus

/-- Calm surroundings in which time stands still and the ledger always says the same. -/
def sampleSurroundings (found : Outcome Ledger.TxStatus) : Surroundings interface MemoryStore
  | .store c, s => s.answer c
  | .transfer (.submit _), s => (.error .crash, s)
  | .transfer (.awaitConfirmation _), s => (.error .crash, s)
  | .transfer (.lookup _), s => (found, s)
  | .now, s => (.epoch, s)
  | .freshId, s => (sampleId, s)
  | .publish _, s => ((), s)
  | .dispatch _, s => ((), s)
  | .pause _, s => ((), s)

theorem calm_sampleSurroundings (found : Outcome Ledger.TxStatus) :
    Calm (sampleSurroundings found) fun s => s where
  answered _ _ := rfl
  stored _ _ := rfl
  kept r u hr := by
    cases r with
    | store c => exact absurd rfl (hr c)
    | transfer c => cases c <;> rfl
    | now | freshId | publish _ | dispatch _ | pause _ => rfl
  clock _ := Int.le_refl 0

/-- Behind the checkpoint of its only submission. -/
def sampleCut : List Behaviour :=
  [.plain, .submitted (.ok "hash"), .clock .epoch, .plain]

/-- The ledger tells the recovery that the transfer has landed. -/
theorem recovery_of_sampleClaimed :
    ((concurrent samplePolicy).run (sampleClaim none)).state.store.find? sampleId =
        some (sampleClaimed none) ∧
      ∃ row, row.submittedHash = some "hash" ∧
        (recover samplePolicy sampleId).Ends (sampleSurroundings (.ok (.success 7)))
          (fun o s past => Recovers samplePolicy row
            (storeAtCut samplePolicy (sampleClaim none) sampleId sampleCut) o s past)
          (storeAtCut samplePolicy (sampleClaim none) sampleId sampleCut) [] := by
  have hfound : ((concurrent samplePolicy).run (sampleClaim none)).state.store.find? sampleId =
      some (sampleClaimed none) := by
    decide +kernel
  have hcut : (storeAtCut samplePolicy (sampleClaim none) sampleId sampleCut).find?
      sampleId = some ((sampleClaimed none).markSubmitted "hash" .epoch) := by
    decide +kernel
  obtain ⟨row, hrow, -, hrecovery⟩ := recovery_after_cut hfound sampleCut
  obtain rfl := Option.some.inj (hcut.symm.trans hrow)
  exact ⟨hfound, _, rfl, (hrecovery _ _ (fun s => s) _ (calm_sampleSurroundings _) rfl
    fun _ => schedules_samplePolicy _).imp fun _ _ _ h => h.1⟩

end Disburse.Engine
