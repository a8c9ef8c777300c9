import Disburse.Proofs.Engine.Calm
import Disburse.Proofs.Engine.Wiring
import Disburse.Proofs.Ledger.Envelope
import Disburse.Proofs.Ledger.Executor

namespace Disburse.Engine

open Disburse.Task

variable {σ : Type} {answer : Surroundings wiredInterface σ} {executor : Executor}
  {policy : RetryPolicy} {u : σ}

/-- The surroundings of the engine that an executor makes out of those of a ledger. -/
def serve (executor : Executor) (answer : Surroundings wiredInterface σ) :
    Surroundings interface σ :=
  fun r u => (wire executor r).run answer u

def ledgerOf (answer : Surroundings wiredInterface σ) : Surroundings Ledger.interface σ :=
  fun r u => answer (.ledger r) u

theorem serve_transfer (c : TransferCall) (u : σ) :
    serve executor answer (.transfer c) u =
      (executor.answer c).outcome.run (ledgerOf answer) u :=
  Program.run_supply _ u

/-- What can be seen of the surroundings. -/
structure Scene (σ : Type) where
  store : σ → MemoryStore
  /-- The envelopes that the ledger has taken, with their hashes. -/
  sent : σ → List (Ledger.Envelope × String)
  /-- The identifiers that were drawn. -/
  drawn : σ → List PayoutId

/-- A store without errors, and a ledger that takes every envelope under a fresh hash and answers
for every hash that it gave that the transfer has succeeded. -/
structure Perfect (answer : Surroundings wiredInterface σ) (scene : Scene σ) : Prop where
  answered : ∀ c u, (answer (.engine (.store c)) u).1 = ((scene.store u).answer c).1
  stored : ∀ c u, scene.store (answer (.engine (.store c)) u).2 = ((scene.store u).answer c).2
  clock : ∀ u, 0 ≤ (answer (.engine .now) u).1.seconds
  ledgerClock : ∀ u, 0 ≤ (answer (.ledger .now) u).1.seconds
  sequence : ∀ account u, ∃ n, (answer (.ledger (.call (.accountSequence account))) u).1 = .ok n ∧
    n ≠ Int64.maxValue
  simulates : ∀ t u, (answer (.ledger (.call (.simulate t))) u).1 = .ok .valid
  takes : ∀ e u, ∃ hash, (answer (.ledger (.call (.submit e))) u).1 = .ok (.pending hash) ∧
    (∀ x ∈ scene.sent u, x.2 ≠ hash) ∧
    scene.sent (answer (.ledger (.call (.submit e))) u).2 = scene.sent u ++ [(e, hash)]
  confirms : ∀ u, ∀ x ∈ scene.sent u, ∃ ledger,
    (answer (.ledger (.call (.transactionStatus x.2))) u).1 = .ok (.success ledger)
  draws : ∀ u, scene.drawn (answer (.engine .freshId) u).2 =
    scene.drawn u ++ [(answer (.engine .freshId) u).1]
  store_kept : ∀ r u, (∀ c, r ≠ .engine (.store c)) → scene.store (answer r u).2 = scene.store u
  sent_kept : ∀ r u, (∀ e, r ≠ .ledger (.call (.submit e))) →
    scene.sent (answer r u).2 = scene.sent u
  drawn_kept : ∀ r u, r ≠ .engine .freshId → scene.drawn (answer r u).2 = scene.drawn u

theorem ends_call {c : Ledger.Call} {past : List (Exchange Ledger.interface)}
    {Q : Outcome c.Value → σ → List (Exchange Ledger.interface) → Prop} :
    Task.Ends (ledgerOf answer) (Ledger.call c) Q u past ↔
      Q (answer (.ledger (.call c)) u).1 (answer (.ledger (.call c)) u).2
        (past ++ [⟨.call c, (answer (.ledger (.call c)) u).1⟩]) :=
  Iff.rfl

theorem ends_ledger_now_of_nonneg {past : List (Exchange Ledger.interface)}
    {Q : Outcome Instant → σ → List (Exchange Ledger.interface) → Prop}
    (hclock : 0 ≤ (answer (.ledger .now) u).1.seconds)
    (h : Q (.ok (answer (.ledger .now) u).1) (answer (.ledger .now) u).2
      (past ++ [⟨.now, (answer (.ledger .now) u).1⟩])) :
    Task.Ends (ledgerOf answer) Ledger.now Q u past := by
  rw [← Outcome.ofInRange, ← Instant.reading?_of_nonneg hclock] at h
  exact h

theorem serve_awaitConfirmation_unpolled {hash : String} (hpolls : executor.config.maxPolls = 0)
    (u : σ) :
    serve executor answer (.transfer (.awaitConfirmation hash)) u =
      (.error (.error (.confirmationTimeout hash 0)), u) := by
  rw [serve_transfer]
  show (executor.awaitConfirmation hash).outcome.run (ledgerOf answer) u = _
  rw [Executor.awaitConfirmation, hpolls]
  show (Task.fail (.confirmationTimeout hash executor.config.maxPolls)).outcome.run _ u = _
  rw [hpolls]
  rfl

theorem trace_awaitConfirmation_unpolled {hash : String} (hpolls : executor.config.maxPolls = 0)
    (u : σ) : (executor.awaitConfirmation hash).outcome.trace (ledgerOf answer) u = [] := by
  rw [Executor.awaitConfirmation, hpolls]
  rfl

namespace Scene

variable {scene : Scene σ} {u' u'' : σ} {memo hash : String}

/-- The same was sent and drawn. -/
structure Same (scene : Scene σ) (u u' : σ) : Prop where
  sent : scene.sent u' = scene.sent u
  drawn : scene.drawn u' = scene.drawn u

/-- One more envelope was sent. -/
structure Sends (scene : Scene σ) (memo hash : String) (u u' : σ) : Prop where
  sent : ∃ (envelope : Ledger.Envelope) (t : Ledger.Transfer), envelope.transfer? = some t ∧
    t.memo = memo ∧ scene.sent u' = scene.sent u ++ [(envelope, hash)]
  drawn : scene.drawn u' = scene.drawn u

theorem Same.refl (u : σ) : scene.Same u u := by
  constructor
  · exact rfl
  · exact rfl

theorem Same.trans (h : scene.Same u u') (h' : scene.Same u' u'') : scene.Same u u'' := by
  constructor
  · exact h'.sent.trans h.sent
  · exact h'.drawn.trans h.drawn

theorem Sends.of_same (h : scene.Sends memo hash u' u'') (h' : scene.Same u u') :
    scene.Sends memo hash u u'' := by
  constructor
  · exact h'.sent ▸ h.sent
  · exact h.drawn.trans h'.drawn

theorem Sends.same (h : scene.Sends memo hash u u') (h' : scene.Same u' u'') :
    scene.Sends memo hash u u'' := by
  constructor
  · exact h'.sent ▸ h.sent
  · exact h'.drawn.trans h.drawn

end Scene

namespace Perfect

variable {scene : Scene σ} (perfect : Perfect answer scene)

include perfect

theorem calm (executor : Executor) : Calm (serve executor answer) scene.store where
  answered := perfect.answered
  stored := perfect.stored
  kept r u hr := by
    cases r with
    | store c => exact absurd rfl (hr c)
    | transfer c =>
        rw [serve_transfer]
        exact Program.run_related (R := fun u u' => scene.store u' = scene.store u)
          (fun _ => rfl) (fun h h' => h'.trans h)
          (fun r u => perfect.store_kept (.ledger r) u (by simp)) _ u
    | now | freshId | publish _ | dispatch _ | pause _ => exact perfect.store_kept _ u (by simp)
  clock := perfect.clock

theorem same_ledger {r : Ledger.Request} (hr : ∀ e, r ≠ .call (.submit e)) :
    scene.Same u (answer (.ledger r) u).2 := by
  constructor
  · exact perfect.sent_kept _ u (by simpa using hr)
  · exact perfect.drawn_kept _ u (by simp)

theorem ends_quiet_call {c : Ledger.Call} {past : List (Exchange Ledger.interface)}
    {Q : Outcome c.Value → σ → List (Exchange Ledger.interface) → Prop}
    (hc : ∀ e, c ≠ .submit e)
    (h : ∀ u' past', scene.Same u u' → Q (answer (.ledger (.call c)) u).1 u' past') :
    Task.Ends (ledgerOf answer) (Ledger.call c) Q u past := by
  rw [ends_call]
  exact h _ _ (perfect.same_ledger (by simpa using hc))

theorem ends_ledger_now {past : List (Exchange Ledger.interface)}
    {Q : Outcome Instant → σ → List (Exchange Ledger.interface) → Prop}
    (h : ∀ now u' past', scene.Same u u' → Q (.ok now) u' past') :
    Task.Ends (ledgerOf answer) Ledger.now Q u past := by
  refine ends_ledger_now_of_nonneg (perfect.ledgerClock u) ?_
  exact h _ _ _ (perfect.same_ledger (r := .now) (by simp))

theorem ends_ledger_pause {n : Nat} {past : List (Exchange Ledger.interface)}
    {Q : Outcome Unit → σ → List (Exchange Ledger.interface) → Prop}
    (h : ∀ u' past', scene.Same u u' → Q (.ok ()) u' past') :
    Task.Ends (ledgerOf answer) (Ledger.pause n) Q u past :=
  h _ _ (perfect.same_ledger (r := .pause n) (by simp))

theorem ends_submit {request : TransferRequest} {past : List (Exchange Ledger.interface)}
    (hpositive : request.amount.IsPositive) :
    (executor.submit request).Ends (ledgerOf answer) (fun o u' _ =>
      ∃ hash, o = .ok hash ∧ scene.Sends request.memo hash u u') u past := by
  obtain ⟨n, hn, hmax⟩ := perfect.sequence executor.config.sourceAccount u
  have hsequence : Executor.nextSequence? n = some (n + 1) := if_neg hmax
  unfold Executor.submit
  rw [ends_bind]
  refine perfect.ends_quiet_call (by simp) fun u₁ _ h₁ => ?_
  rw [hn]
  refine ends_bind.mpr ?_
  rw [hsequence, ends_ofOutcome]
  refine ends_bind.mpr (perfect.ends_ledger_now fun now u₂ _ h₂ => ?_)
  show Task.Ends (ledgerOf answer) _ _ u₂ _
  extract_lets transfer handIn
  have hexact : transfer.payment.IsExact := Ledger.Payment.isExact_of_isPositive hpositive
  have hhandIn : ∀ {u₃ past'}, scene.Same u₂ u₃ → (handIn ()).Ends (ledgerOf answer)
      (fun o u' _ => ∃ hash, o = .ok hash ∧ scene.Sends request.memo hash u u') u₃ past' := by
    intro u₃ past' h₃
    obtain ⟨hash, hanswer, -, hsent⟩ := perfect.takes (transfer.sign executor.signer) u₃
    rw [ends_bind, ends_call]
    rw [hanswer]
    dsimp only
    rw [ends_pure]
    refine ⟨hash, rfl, Scene.Sends.of_same ⟨?_, ?_⟩ ((h₁.trans h₂).trans h₃)⟩
    · exact ⟨_, transfer, Ledger.Transfer.transfer?_sign _ hexact, rfl, hsent⟩
    · exact perfect.drawn_kept _ u₃ (by simp)
  by_cases hsimulates : executor.config.simulates = true
  · rw [if_pos hsimulates]
    rw [ends_bind]
    refine perfect.ends_quiet_call (by simp) fun u₃ _ h₃ => ?_
    rw [perfect.simulates]
    exact hhandIn h₃
  · rw [if_neg hsimulates]
    exact hhandIn (.refl u₂)

theorem ends_awaitConfirmation {hash : String} {past : List (Exchange Ledger.interface)}
    (hpolls : 0 < executor.config.maxPolls) (hsent : ∃ x ∈ scene.sent u, x.2 = hash) :
    (executor.awaitConfirmation hash).Ends (ledgerOf answer) (fun o u' _ =>
      ∃ ledger, o = .ok ⟨hash, ledger⟩ ∧ scene.Same u u') u past := by
  obtain ⟨polls, hpolls⟩ : ∃ polls, executor.config.maxPolls.toNat = polls + 1 := by
    rw [UInt32.lt_iff_toNat_lt] at hpolls
    exact Nat.exists_eq_succ_of_ne_zero (Nat.ne_of_gt hpolls)
  unfold Executor.awaitConfirmation
  rw [hpolls]
  unfold Executor.poll
  rw [ends_bind]
  refine perfect.ends_ledger_pause fun u₁ _ h₁ => ?_
  dsimp only
  rw [ends_bind, ends_attempt]
  refine perfect.ends_quiet_call (by simp) fun u₂ _ h₂ => ?_
  obtain ⟨x, hx, rfl⟩ := hsent
  obtain ⟨ledger, hledger⟩ := perfect.confirms u₁ x (h₁.sent ▸ hx)
  rw [hledger]
  exact ends_pure.mpr ⟨ledger, rfl, h₁.trans h₂⟩

theorem serve_submit {request : TransferRequest} (executor : Executor) (u : σ)
    (hpositive : request.amount.IsPositive) :
    ∃ hash, (serve executor answer (.transfer (.submit request)) u).1 = .ok hash ∧
      scene.Sends request.memo hash u
        (serve executor answer (.transfer (.submit request)) u).2 := by
  rw [serve_transfer]
  have h : (executor.submit request).Ends (ledgerOf answer) _ u [] := perfect.ends_submit hpositive
  exact h

theorem serve_awaitConfirmation {hash : String} (hpolls : 0 < executor.config.maxPolls)
    (hsent : ∃ x ∈ scene.sent u, x.2 = hash) :
    ∃ ledger, (serve executor answer (.transfer (.awaitConfirmation hash)) u).1 =
        .ok ⟨hash, ledger⟩ ∧
      scene.Same u (serve executor answer (.transfer (.awaitConfirmation hash)) u).2 := by
  rw [serve_transfer]
  have h : (executor.awaitConfirmation hash).Ends (ledgerOf answer) _ u [] :=
    perfect.ends_awaitConfirmation hpolls hsent
  exact h

theorem same_engine {r : Request} (hr : r ≠ .freshId) (htransfer : ∀ c, r ≠ .transfer c) :
    scene.Same u (serve executor answer r u).2 := by
  cases r with
  | freshId => exact absurd rfl hr
  | transfer c => exact absurd rfl (htransfer c)
  | store _ | now | publish _ | dispatch _ | pause _ =>
      exact ⟨perfect.sent_kept _ u (by simp), perfect.drawn_kept _ u (by simp)⟩

end Perfect

end Disburse.Engine
