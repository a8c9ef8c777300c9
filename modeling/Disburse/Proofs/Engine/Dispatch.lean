import Disburse.Proofs.Engine.Budget
import Disburse.Proofs.Engine.Recovery

/-!
Dispatched executions in calm surroundings. Whatever the transfer executor answers, and wherever
it crashes, an execution and its supervisor together make one attempt at the transfer and leave
its record completed or its failure booked.
-/

namespace Disburse.Engine

open Disburse.Machine Disburse.Task

variable {σ : Type} {answer : Surroundings interface σ} {view : σ → MemoryStore} {u : σ}
  {policy : RetryPolicy} {p q row : Payout} {s s' : MemoryStore}

/-- The reason that is booked for an attempt without a receipt. -/
def abortReason : Abort → String
  | .error e => e.message
  | .crash => "execution task panicked"

/-- The executor calls of one attempt, and what came of it: a receipt, or the reason of the
failure. -/
inductive Attempts (request : TransferRequest) :
    List (Exchange interface) → Except String TransferReceipt → Prop where
  | refused (e : Abort) :
      Attempts request [⟨.transfer (.submit request), .error e⟩] (.error (abortReason e))
  | unconfirmed (hash : String) (e : Abort) :
      Attempts request
        [submission request hash, ⟨.transfer (.awaitConfirmation hash), .error e⟩]
        (.error (abortReason e))
  | confirmed (hash : String) (receipt : TransferReceipt) :
      Attempts request [submission request hash, confirmation hash receipt] (.ok receipt)

/-- What an attempt leaves behind: the one record that it wrote, and the one event that it
published. -/
def Closes (policy : RetryPolicy) (p : Payout) (s s' : MemoryStore) (told : List Event) :
    Except String TransferReceipt → Prop
  | .ok receipt => ∃ done, Lands receipt p done ∧ s' = s.overwrite done ∧
      told = [.processed p.id p.recipient p.amount receipt.transactionRef]
  | .error reason => ∃ failed, Books policy reason p failed ∧ s' = s.overwrite failed ∧
      told = [.failed p.id p.recipient reason]

/-- What a dispatched execution of the stored record `p` does. -/
structure Attends (policy : RetryPolicy) (p : Payout) (s : MemoryStore) (o : Outcome Unit)
    (s' : MemoryStore) (past : List (Exchange interface)) : Prop where
  outcome : o = .ok ()
  idle : p.status ≠ .processing → s' = s ∧ past = [⟨.store (.get p.id), .ok (some p)⟩]
  attempted : p.status = .processing →
    ∃ result, Attempts (requestOf p) (calls past) result ∧
      Closes policy p s s' (events past) result
  completed_iff : p.status = .processing →
    ((∃ done, s'.find? p.id = some done ∧ done.status = .completed) ↔
      ∃ hash receipt, submission (requestOf p) hash ∈ past ∧ confirmation hash receipt ∈ past)
  left : ∃ row, s'.find? p.id = some row ∧ row.status ≠ .processing

/-- The versions of a record while it is executed: the record itself, and its checkpoints. -/
inductive Version (p : Payout) : Payout → Prop where
  | itself : Version p p
  | checkpoint (hash : String) (now : Instant) : Version p (p.markSubmitted hash now)

namespace Version

theorem sameOrigin (h : Version p q) : p.SameOrigin q := by
  cases h <;> constructor <;> rfl

theorem maxRetries (h : Version p q) : q.maxRetries = p.maxRetries := by
  cases h <;> rfl

theorem status (h : Version p q) : q.status = p.status := by
  cases h <;> rfl

theorem markCompleted {transactionRef : String} {ledgerRef : Int64} {now : Instant}
    (h : Version p q) :
    q.markCompleted transactionRef ledgerRef now =
      p.markCompleted transactionRef ledgerRef now := by
  cases h <;> rfl

theorem books {reason : String} {failed : Payout} (h : Version p q)
    (hbooks : Books policy reason q failed) : Books policy reason p failed := by
  have horigin := h.sameOrigin.trans hbooks.origin
  cases h with
  | itself => exact hbooks
  | checkpoint hash now => exact { hbooks with origin := horigin }

theorem lands {receipt : TransferReceipt} {done : Payout} (h : Version p q)
    (hlands : Lands receipt q done) : Lands receipt p done := by
  have horigin := h.sameOrigin.trans hlands.origin
  cases h with
  | itself => exact hlands
  | checkpoint hash now => exact { hlands with origin := horigin }

end Version

/-- The row of a record while it is executed. -/
structure Underway (p : Payout) (s : MemoryStore) (row : Payout) (s' : MemoryStore) : Prop where
  version : Version p row
  found : s'.find? row.id = some row
  stored : s' = s ∨ s' = s.overwrite row

namespace Underway

theorem refl (hfound : s.find? p.id = some p) : Underway p s p s :=
  ⟨.itself, hfound, .inl rfl⟩

theorem budgeted (h : Underway p s row s') (hbudget : p.Budgeted)
    (hstatus : p.status = .processing) : row.Budgeted := by
  cases h.version with
  | itself => exact hbudget
  | checkpoint hash now => exact hbudget.markSubmitted hstatus

theorem overwrite (h : Underway p s row s') (hid : q.id = row.id) :
    s'.overwrite q = s.overwrite q := by
  rcases h.stored with rfl | rfl
  · rfl
  · exact MemoryStore.overwrite_overwrite hid

theorem next (h : Underway p s row s') (hversion : Version p q) :
    Underway p s q (s'.overwrite q) := by
  have hid : q.id = row.id := hversion.sameOrigin.id.trans h.version.sameOrigin.id.symm
  exact ⟨hversion, MemoryStore.find?_overwrite_self (hid ▸ h.found), .inr (h.overwrite hid)⟩

end Underway

namespace Calm

variable (calm : Calm answer view)

include calm

theorem ends_underway_failure {reason : String} {past : List (Exchange interface)}
    (hunderway : Underway p s row (view u)) (hevents : events past = []) (hbudget : p.Budgeted)
    (hstatus : p.status = .processing)
    (hrange : ∀ u, policy.Schedules p.maxRetries (answer .now u).1) :
    (bookFailure policy row reason).Ends answer (fun o u' past' =>
      (∃ status, o = .ok status) ∧ calls past' = calls past ∧
        Closes policy p s (view u') (events past') (.error reason)) u past := by
  refine (calm.ends_bookFailure hunderway.found (hunderway.budgeted hbudget hstatus)
    (hunderway.version.status.trans hstatus) (by rwa [hunderway.version.maxRetries])).imp ?_
  rintro o u' past' ⟨failed, hbooks, rfl, hu', now, rfl⟩
  refine ⟨⟨_, rfl⟩, by simp [calls, isTransfer, wonSwap], failed,
    hunderway.version.books hbooks, ?_, ?_⟩
  · rw [hu', hunderway.overwrite hbooks.origin.id]
  · have horigin := hunderway.version.sameOrigin
    rw [events_append, hevents, horigin.id, horigin.recipient]
    rfl

theorem ends_underway_failAttempt {e : Error} {past : List (Exchange interface)}
    (hunderway : Underway p s row (view u)) (hevents : events past = []) (hbudget : p.Budgeted)
    (hstatus : p.status = .processing)
    (hrange : ∀ u, policy.Schedules p.maxRetries (answer .now u).1) :
    (failAttempt policy row e).Ends answer (fun o u' past' =>
      o = .ok () ∧ calls past' = calls past ∧
        Closes policy p s (view u') (events past') (.error e.message)) u past := by
  unfold failAttempt
  rw [ends_bind]
  refine (calm.ends_underway_failure hunderway hevents hbudget hstatus hrange).imp ?_
  rintro o u' past' ⟨⟨status, rfl⟩, hclosed⟩
  exact ends_pure.mpr ⟨rfl, hclosed⟩

theorem ends_underway_success (policy : RetryPolicy) {receipt : TransferReceipt}
    {past : List (Exchange interface)}
    (hunderway : Underway p s row (view u)) (hevents : events past = [])
    (hstatus : p.status = .processing) :
    (complete row receipt).Ends answer (fun o u' past' =>
      (∃ won, o = .ok won) ∧ calls past' = calls past ∧
        Closes policy p s (view u') (events past') (.ok receipt)) u past := by
  refine (calm.ends_complete hunderway.found (hunderway.version.status.trans hstatus)).imp ?_
  rintro o u' past' ⟨done, hdone, rfl, hu', rfl⟩
  have hlands : Lands receipt row done := hdone ▸ lands_markCompleted receipt row _
  refine ⟨⟨_, rfl⟩, by simp [calls, isTransfer, wonSwap], done,
    hunderway.version.lands hlands, ?_, ?_⟩
  · rw [hu', hunderway.overwrite hlands.origin.id]
  · have horigin := hunderway.version.sameOrigin
    rw [events_append, hevents, horigin.id, horigin.recipient, horigin.amount]
    rfl

/-- An execution of a record that is processing closes its attempt, unless the executor crashes:
then the record is still under way. -/
theorem ends_execute (hfound : (view u).find? p.id = some p) (hbudget : p.Budgeted)
    (hstatus : p.status = .processing)
    (hrange : ∀ u, policy.Schedules p.maxRetries (answer .now u).1) :
    (execute policy p.id).Ends answer (fun o u' past =>
      ∃ result, Attempts (requestOf p) (calls past) result ∧
        (o = .ok () ∧ Closes policy p (view u) (view u') (events past) result ∨
          o = .error .crash ∧ result = .error (abortReason .crash) ∧ events past = [] ∧
            ∃ row, Underway p (view u) row (view u'))) u [] := by
  unfold execute
  rw [ends_bind]
  refine calm.ends_load hfound fun u₁ _ hu₁ => ?_
  obtain ⟨attempt, hattempt⟩ := hbudget.exists_attempt? hstatus
  dsimp only
  rw [if_neg (by simp [hstatus]), hattempt]
  rw [ends_bind, ends_ofOutcome, ends_bind, ends_attempt, ends_transfer]
  have hu₂ : view (answer (.transfer (.submit (requestOf p))) u₁).2 = view u := by
    rw [calm.kept_transfer, hu₁]
  generalize (answer (.transfer (.submit (requestOf p))) u₁).2 = u₂ at hu₂ ⊢
  generalize (answer (.transfer (.submit (requestOf p))) u₁).1 = submitted
  have hunderway : Underway p (view u) p (view u₂) := by
    rw [hu₂]
    exact .refl hfound
  rcases submitted with (e | _) | hash
  · refine (calm.ends_underway_failAttempt hunderway rfl hbudget hstatus hrange).imp ?_
    rintro o u' past ⟨rfl, hcalls, hcloses⟩
    exact ⟨_, hcalls ▸ .refused (.error e), .inl ⟨rfl, hcloses⟩⟩
  · exact ⟨_, .refused .crash, .inr ⟨rfl, rfl, rfl, p, hunderway⟩⟩
  dsimp only
  rw [ends_bind]
  refine (calm.ends_recordSubmission hunderway.found hstatus).imp ?_
  rintro o u₃ past₃ ⟨now, rfl, hu₃, rfl⟩
  dsimp only
  rw [ends_bind, ends_attempt, ends_transfer]
  -- The checkpoint has changed the record; waiting leaves the store alone.
  have hu₄ : view (answer (.transfer (.awaitConfirmation hash)) u₃).2 =
      (view u).overwrite (p.markSubmitted hash now) := by
    rw [calm.kept_transfer, hu₃, hu₂]
  generalize (answer (.transfer (.awaitConfirmation hash)) u₃).2 = u₄ at hu₄ ⊢
  generalize (answer (.transfer (.awaitConfirmation hash)) u₃).1 = confirmed
  have hunderway : Underway p (view u) (p.markSubmitted hash now) (view u₄) :=
    ⟨.checkpoint hash now, hu₄ ▸ MemoryStore.find?_overwrite_self hfound, .inr hu₄⟩
  rcases confirmed with (e | _) | receipt
  · refine (calm.ends_underway_failAttempt hunderway rfl hbudget hstatus hrange).imp ?_
    rintro o u' past ⟨rfl, hcalls, hcloses⟩
    exact ⟨_, hcalls ▸ .unconfirmed hash (.error e), .inl ⟨rfl, hcloses⟩⟩
  · exact ⟨_, .unconfirmed hash .crash, .inr ⟨rfl, rfl, rfl, _, hunderway⟩⟩
  · dsimp only
    rw [ends_bind]
    refine (calm.ends_underway_success policy hunderway rfl hstatus).imp ?_
    rintro o u' past ⟨⟨won, rfl⟩, hcalls, hcloses⟩
    exact ends_pure.mpr ⟨_, hcalls ▸ .confirmed hash receipt, .inl ⟨rfl, hcloses⟩⟩

theorem ends_supervise (hfound : (view u).find? p.id = some p) (hbudget : p.Budgeted)
    (hstatus : p.status = .processing)
    (hrange : ∀ u, policy.Schedules p.maxRetries (answer .now u).1) :
    (supervise policy p.id).Ends answer (fun o u' past =>
      o = .ok () ∧ ∃ result, Attempts (requestOf p) (calls past) result ∧
        Closes policy p (view u) (view u') (events past) result) u [] := by
  rw [ends_supervise_iff]
  refine (calm.ends_execute hfound hbudget hstatus hrange).imp ?_
  rintro o u₁ past₁
    ⟨result, hattempts, ⟨rfl, hcloses⟩ | ⟨rfl, rfl, hevents, row, hunderway⟩⟩
  · exact ⟨rfl, result, hattempts, hcloses⟩
  have hrow : (view u₁).find? p.id = some row := hunderway.version.sameOrigin.id ▸ hunderway.found
  unfold recordFailure
  dsimp only
  rw [ends_bind]
  refine calm.ends_load hrow fun u₂ _ hu₂ => ?_
  dsimp only
  rw [if_pos (hunderway.version.status.trans hstatus)]
  rw [← hu₂] at hunderway
  refine (calm.ends_underway_failure hunderway (by rw [events_append, hevents]; rfl) hbudget
    hstatus hrange).imp ?_
  rintro o u' past' ⟨⟨status, rfl⟩, hcalls, hcloses⟩
  refine ⟨rfl, _, ?_, hcloses⟩
  rw [hcalls]
  have hcalls' : calls (past₁ ++ [⟨.store (.get p.id), .ok (some row)⟩]) = calls past₁ := by
    simp [calls, isTransfer]
  rwa [hcalls']

end Calm

theorem Attempts.exists_receipt_iff {request : TransferRequest} {xs : List (Exchange interface)}
    {result : Except String TransferReceipt} (h : Attempts request xs result) :
    (∃ receipt, result = .ok receipt) ↔
      ∃ hash receipt, submission request hash ∈ xs ∧ confirmation hash receipt ∈ xs := by
  cases h with
  | refused e => simp [submission, confirmation]
  | unconfirmed hash e => simp [submission, confirmation]
  | confirmed hash receipt => exact ⟨fun _ => ⟨hash, receipt, by simp⟩, fun _ => ⟨receipt, rfl⟩⟩

theorem Closes.exists_row {told : List Event} {result : Except String TransferReceipt}
    (h : Closes policy p s s' told result) (hfound : s.find? p.id = some p) :
    ∃ row, s'.find? p.id = some row ∧ row.status ≠ .processing ∧
      (row.status = .completed ↔ ∃ receipt, result = .ok receipt) := by
  rcases result with reason | receipt
  · obtain ⟨failed, hbooks, rfl, -⟩ := h
    refine ⟨failed, find?_overwrite_next hfound hbooks.origin, ?_⟩
    rcases hbooks.status with hstatus | hstatus <;> simp [hstatus]
  · obtain ⟨done, hlands, rfl, -⟩ := h
    exact ⟨done, find?_overwrite_next hfound hlands.origin, by simp [hlands.status]⟩

/-- A dispatched execution leaves a record alone that is not processing, and otherwise closes one
attempt, whatever the executor answers and wherever it crashes. -/
theorem attends_of_stored {distinct : Bool} {opens : Operation → Bool → Bool}
    {moves : List (machine policy distinct opens).Move}
    (hstored : ((machine policy distinct opens).run moves).state.store.find? p.id = some p)
    (calm : Calm answer view)
    (hstore : view u = ((machine policy distinct opens).run moves).state.store)
    (hrange : ∀ u, policy.Schedules p.maxRetries (answer .now u).1) :
    (supervise policy p.id).Ends answer
      (fun o u' past => Attends policy p (view u) o (view u') past) u [] := by
  have hfound : (view u).find? p.id = some p := hstore ▸ hstored
  have hbudget := budgeted_of_mem_run (MemoryStore.mem_of_find? hstored)
  by_cases hstatus : p.status = .processing
  · refine (calm.ends_supervise hfound hbudget hstatus hrange).imp ?_
    rintro o u' past ⟨rfl, result, hattempts, hcloses⟩
    obtain ⟨row, hrow, hleft, hcompleted⟩ := hcloses.exists_row hfound
    refine ⟨rfl, fun h => absurd hstatus h, fun _ => ⟨result, hattempts, hcloses⟩, fun _ => ?_,
      row, hrow, hleft⟩
    have hcalls : (∃ hash receipt, submission (requestOf p) hash ∈ past ∧
        confirmation hash receipt ∈ past) ↔ ∃ receipt, result = .ok receipt := by
      rw [hattempts.exists_receipt_iff]
      simp [calls, List.mem_filter, isTransfer, submission, confirmation]
    rw [hcalls, ← hcompleted, hrow]
    simp
  · rw [ends_supervise_iff]
    unfold execute
    rw [ends_bind]
    refine calm.ends_load hfound fun u₁ _ hu₁ => ?_
    simp only [hstatus, ne_eq, not_false_eq_true, if_true, ends_pure]
    exact ⟨rfl, fun _ => ⟨hu₁, rfl⟩, fun h => absurd h hstatus, fun h => absurd h hstatus,
      p, hu₁.symm ▸ hfound, hstatus⟩

/-- The submission crashes, and the failure is booked with a retry. -/
theorem attends_sampleClaimed :
    ((concurrent samplePolicy).run (sampleClaim none)).state.store.find? sampleId =
        some (sampleClaimed none) ∧
      (supervise samplePolicy sampleId).Ends (sampleSurroundings (.error .crash))
        (fun o s past => Attends samplePolicy (sampleClaimed none)
          ((concurrent samplePolicy).run (sampleClaim none)).state.store o s past)
        ((concurrent samplePolicy).run (sampleClaim none)).state.store [] := by
  have hstored : ((concurrent samplePolicy).run (sampleClaim none)).state.store.find? sampleId =
      some (sampleClaimed none) := by
    decide +kernel
  exact ⟨hstored, attends_of_stored (p := sampleClaimed none) hstored
    (calm_sampleSurroundings _) rfl fun _ => schedules_samplePolicy _⟩

end Disburse.Engine
