import Disburse.Config
import Disburse.Proofs.Engine.PerfectServices

/-!
Payouts over a perfect ledger: each is paid once. Services are taken one after the other, each of
them until its executions have ended, and then the books are balanced again.
-/

namespace Disburse.Engine

open Disburse.Task

variable {σ : Type}

section Services

variable (answer : Surroundings interface σ) (policy : RetryPolicy)

/-- Executions one after the other, each to its end. -/
def executeAll : List PayoutId → σ → σ
  | [], u => u
  | id :: ids, u => executeAll ids ((supervise policy id).outcome.run answer u).2

/-- An operation and the executions that it starts. -/
def perform (op : Operation) (u : σ) : σ :=
  let work := (op.work policy).outcome
  executeAll answer policy (dispatched (work.trace answer u)) (work.run answer u).2

def performAll (ops : List Operation) (u : σ) : σ :=
  ops.foldl (fun u op => perform answer policy op u) u

end Services

section Ledger

variable {answer : Surroundings wiredInterface σ} {executor : Executor} {policy : RetryPolicy}
  {scene : Scene σ} {u u' : σ} {p : Payout}

/-- What a service leaves behind: balanced books, and what was completed. -/
structure Serves (scene : Scene σ) (u u' : σ) : Prop where
  balanced : Balanced scene u'
  kept : ∀ p ∈ (scene.store u).rows, p.status = .completed → p ∈ (scene.store u').rows

theorem Serves.trans {u'' : σ} (h : Serves scene u u') (h' : Serves scene u' u'') :
    Serves scene u u'' where
  balanced := h'.balanced
  kept p hp hstatus := h'.kept p (h.kept p hp hstatus) hstatus

theorem Idle.serves {past : List (Exchange interface)}
    (h : Idle scene u u' past) (hbalanced : Balanced scene u) : Serves scene u u' where
  balanced := {
    rows := by
      rw [h.store, h.same.sent]
      exact hbalanced.rows
    drawn := by
      rw [h.store, h.same.drawn]
      exact hbalanced.drawn
    sent := by
      rw [h.same.sent, h.same.drawn]
      exact hbalanced.sent }
  kept p hp _ := h.store ▸ hp

theorem Creates.serves {past : List (Exchange interface)}
    (h : Creates scene u u' past) (hbalanced : Balanced scene u)
    (hnodup : (scene.drawn u').Nodup) : Serves scene u u' := by
  obtain ⟨p, hpositive, hstatus, hcount, -, hsent, hdrawn, hstore⟩ := h
  have hnew : p.id ∉ scene.drawn u := by
    rw [hdrawn] at hnodup
    exact fun hmem => List.disjoint_of_nodup_append hnodup hmem (List.mem_singleton_self _)
  have hother : ∀ q ∈ (scene.store u).rows, q.id ≠ p.id := fun q hq hid =>
    hnew (hid ▸ hbalanced.drawn q hq)
  have hmem : ∀ q ∈ (scene.store u').rows, q ∈ (scene.store u).rows ∨ q = p := by
    intro q hq
    rcases hstore with hstore | hstore
    · exact .inl (hstore ▸ hq)
    · rw [hstore, MemoryStore.mem_insert] at hq
      exact hq.imp_left And.left
  constructor
  · constructor
    · intro q hq
      rw [hsent]
      rcases hmem q hq with hq | rfl
      · exact hbalanced.rows q hq
      · exact ⟨hpositive, .inl ⟨hstatus, hcount, hbalanced.sent _ hnew⟩⟩
    · intro q hq
      rw [hdrawn, List.mem_append, List.mem_singleton]
      exact (hmem q hq).imp (hbalanced.drawn q) (congrArg Payout.id)
    · intro id hid
      rw [hdrawn, List.mem_append, not_or] at hid
      rw [hsent]
      exact hbalanced.sent id hid.1
  · intro q hq _
    rcases hstore with hstore | hstore
    · exact hstore ▸ hq
    · rw [hstore, MemoryStore.mem_insert]
      exact .inl ⟨hq, hother q hq⟩

theorem Pays.changes {u₁ : σ} {row : Payout} (h : Pays scene p u₁ u')
    (hrow : row ∈ (scene.store u).rows) (horigin : row.SameOrigin p) (hsame : scene.Same u u₁)
    (hstore : scene.store u₁ = (scene.store u).overwrite p) :
    ∃ done envelope hash, p.SameOrigin done ∧ done.status = .completed ∧
      done.transactionRef = some hash ∧ scene.drawn u' = scene.drawn u ∧
      (∀ id, payments id (scene.sent u') =
        payments id (scene.sent u) ++ if id = p.id then [(envelope, hash)] else []) ∧
      ∀ q, q ∈ (scene.store u').rows ↔ (q ∈ (scene.store u).rows ∧ q.id ≠ p.id) ∨ q = done := by
  obtain ⟨hash, done, ⟨⟨envelope, t, htransfer, hmemo, hsent⟩, hdrawn⟩, hdone, hstatus, href,
    hstore'⟩ := h
  refine ⟨done, envelope, hash, hdone, hstatus, href, hdrawn.trans hsame.drawn, fun id => ?_,
    fun q => ?_⟩
  · rw [hsent, hsame.sent]
    exact payments_append htransfer hmemo
  · rw [hstore', hstore, MemoryStore.overwrite_overwrite hdone.id, MemoryStore.mem_overwrite,
      hdone.id, and_iff_left (List.mem_map.mpr ⟨row, hrow, horigin.id.symm⟩)]

/-- If it was pending before, the books are balanced again. -/
theorem Pays.serves {u₁ : σ} {row : Payout} (h : Pays scene p u₁ u')
    (hbalanced : Balanced scene u) (hrow : row ∈ (scene.store u).rows)
    (hpending : row.status = .pending) (horigin : row.SameOrigin p) (hsame : scene.Same u u₁)
    (hstore : scene.store u₁ = (scene.store u).overwrite p) :
    Serves scene u u' ∧ ∃ done ∈ (scene.store u').rows, done.id = p.id ∧
      Paid (scene.sent u') done := by
  obtain ⟨done, envelope, hash, hdone, hstatus, href, hdrawn, hpayments, hmem⟩ :=
    h.changes hrow horigin hsame hstore
  obtain ⟨hpositive, ⟨-, -, hunpaid⟩ | ⟨hcompleted, -⟩⟩ := hbalanced.rows row hrow
  swap
  · rw [hpending] at hcompleted
    cases hcompleted
  have hid : done.id = p.id := hdone.id
  have hpaid : Paid (scene.sent u') done := by
    refine ⟨hstatus, envelope, hash, href, ?_⟩
    rw [hpayments, hid, if_pos rfl, horigin.id, hunpaid]
    rfl
  refine ⟨⟨⟨?_, ?_, ?_⟩, ?_⟩, done, (hmem done).mpr (.inr rfl), hid, hpaid⟩
  · intro q hq
    rcases (hmem q).mp hq with ⟨hq, hne⟩ | rfl
    · have hsame' : payments q.id (scene.sent u') = payments q.id (scene.sent u) := by
        rw [hpayments, if_neg hne, List.append_nil]
      unfold Unpaid Paid
      rw [hsame']
      exact hbalanced.rows q hq
    · refine ⟨?_, .inr hpaid⟩
      rw [hdone.amount, horigin.amount]
      exact hpositive
  · intro q hq
    rw [hdrawn]
    rcases (hmem q).mp hq with ⟨hq, -⟩ | rfl
    · exact hbalanced.drawn q hq
    · rw [hid, horigin.id]
      exact hbalanced.drawn row hrow
  · intro id hfresh
    rw [hdrawn] at hfresh
    have hne : id ≠ p.id := by
      rintro rfl
      exact hfresh (horigin.id ▸ hbalanced.drawn row hrow)
    rw [hpayments, if_neg hne, List.append_nil]
    exact hbalanced.sent id hfresh
  · intro q hq hcompleted
    refine (hmem q).mpr (.inl ⟨hq, fun hne => ?_⟩)
    -- The claimed record was pending, and so is not one of those that were completed.
    have hqrow : q = row := Option.some.inj <|
      (MemoryStore.find?_of_mem hq).symm.trans
        ((hne.trans horigin.id) ▸ MemoryStore.find?_of_mem hrow)
    rw [hqrow, hpending] at hcompleted
    cases hcompleted

theorem Paid.of_serves (h : Serves scene u u') (hmem : p ∈ (scene.store u).rows)
    (hpaid : Paid (scene.sent u) p) : p ∈ (scene.store u').rows ∧ Paid (scene.sent u') p := by
  have hmem' := h.kept p hmem hpaid.1
  obtain ⟨-, ⟨hpending, -⟩ | hpaid'⟩ := h.balanced.rows p hmem'
  · rw [hpaid.1] at hpending
    cases hpending
  · exact ⟨hmem', hpaid'⟩

theorem of_ends_work {answer : Surroundings interface σ} (op : Operation)
    {Q : Outcome op.Value → σ → List (Exchange interface) → Prop}
    {R : Outcome op.Value → σ → Prop} (h : (op.work policy).Ends answer Q u [])
    (himp : ∀ o u' past, Q o u' past → R o (executeAll answer policy (dispatched past) u')) :
    R ((op.work policy).outcome.run answer u).1 (perform answer policy op u) :=
  himp _ _ _ h

theorem find?_of_claim {row : Payout} {now : Instant} (hrow : row ∈ (scene.store u).rows)
    (hclaim : row.markClaimed now = .ok p) (hstore : scene.store u' = (scene.store u).overwrite p) :
    (scene.store u').find? p.id = some p := by
  rw [hstore]
  refine MemoryStore.find?_overwrite_self (q := row) ?_
  rw [(Transition.sameOrigin_of_markClaimed hclaim).id]
  exact MemoryStore.find?_of_mem hrow

namespace Perfect

variable (perfect : Perfect answer scene)

include perfect

theorem drawn_run {α : Type} (t : Program interface α) (u : σ) :
    scene.drawn u <+: scene.drawn (t.run (serve executor answer) u).2 := by
  refine Program.run_related (R := fun u u' => scene.drawn u <+: scene.drawn u')
    (fun _ => List.prefix_rfl) List.IsPrefix.trans (fun r u => ?_) t u
  by_cases hdraw : r = .freshId
  · subst hdraw
    exact ⟨_, (perfect.draws u).symm⟩
  by_cases htransfer : ∃ c, r = .transfer c
  · obtain ⟨c, rfl⟩ := htransfer
    rw [serve_transfer]
    refine Program.run_related (R := fun u u' => scene.drawn u <+: scene.drawn u')
      (fun _ => List.prefix_rfl) List.IsPrefix.trans (fun r u => ?_) _ u
    exact (perfect.drawn_kept (.ledger r) u (by simp)) ▸ List.prefix_rfl
  · have hsame : scene.Same u (serve executor answer r u).2 :=
      perfect.same_engine hdraw fun c hc => htransfer ⟨c, hc⟩
    exact hsame.drawn ▸ List.prefix_rfl

theorem drawn_executeAll (ids : List PayoutId) (u : σ) :
    scene.drawn u <+: scene.drawn (executeAll (serve executor answer) policy ids u) := by
  induction ids generalizing u with
  | nil => exact List.prefix_rfl
  | cons id ids ih => exact (perfect.drawn_run _ u).trans (ih _)

theorem drawn_perform (op : Operation) (u : σ) :
    scene.drawn u <+: scene.drawn (perform (serve executor answer) policy op u) :=
  (perfect.drawn_run _ u).trans (perfect.drawn_executeAll _ _)

theorem drawn_performAll (ops : List Operation) (u : σ) :
    scene.drawn u <+: scene.drawn (performAll (serve executor answer) policy ops u) := by
  induction ops generalizing u with
  | nil => exact List.prefix_rfl
  | cons op ops ih => exact (perfect.drawn_perform op u).trans (ih _)

theorem serves_claim (policy : RetryPolicy) (hpolls : 0 < executor.config.maxPolls)
    (hbalanced : Balanced scene u) (submissionRef recipient : String) :
    let u' := perform (serve executor answer) policy (.claim submissionRef recipient) u
    Serves scene u u' ∧
      ∀ p, ((claimPayout submissionRef recipient).outcome.run (serve executor answer) u).1 = .ok p →
        ∃ done ∈ (scene.store u').rows, done.id = p.id ∧ Paid (scene.sent u') done := by
  refine of_ends_work (.claim submissionRef recipient)
    (R := fun o u' => Serves scene u u' ∧ ∀ p, o = .ok p →
      ∃ done ∈ (scene.store u').rows, done.id = p.id ∧ Paid (scene.sent u') done)
    perfect.ends_claimPayout ?_
  rintro o u' past
    (⟨hidle, hrefused⟩ | ⟨row, p, now, rfl, hrow, hclaim, hdispatched, hsame, hstore⟩)
  · rw [hidle.dispatched]
    exact ⟨hidle.serves hbalanced, fun p hp => absurd hp (hrefused p)⟩
  rw [hdispatched]
  have horigin := Transition.sameOrigin_of_markClaimed hclaim
  obtain ⟨hpending, hclaimed⟩ := Payout.markClaimed_eq_ok hclaim
  have hstatus : p.status = .processing := by rw [hclaimed]
  have hcount : p.retryCount = row.retryCount := by rw [hclaimed]
  have hfound := find?_of_claim hrow hclaim hstore
  obtain ⟨hpositive, hrow'⟩ := hbalanced.rows row hrow
  have hzero : p.retryCount = 0 := by
    rcases hrow' with ⟨-, hunpaid⟩ | ⟨hcompleted, -⟩
    · exact hcount.trans hunpaid.1
    · rw [hpending] at hcompleted
      cases hcompleted
  have hpays := perfect.pays_supervise policy hpolls hfound hstatus hzero
    (horigin.amount ▸ hpositive)
  obtain ⟨hserves, hpaid⟩ := hpays.serves hbalanced hrow hpending horigin hsame hstore
  exact ⟨hserves, fun q hq => by cases hq; exact hpaid⟩

theorem timesOut_claim (hpolls : executor.config.maxPolls = 0) {submissionRef recipient : String}
    (hrows : ∀ row ∈ (scene.store u).rows, row.Budgeted ∧ row.amount.IsPositive)
    (hrange : ∀ v, policy.Schedules p.maxRetries (answer (.engine .now) v).1)
    (hclaim : ((claimPayout submissionRef recipient).outcome.run (serve executor answer) u).1 =
      .ok p) :
    TimesOut policy scene p u
      (perform (serve executor answer) policy (.claim submissionRef recipient) u) := by
  refine of_ends_work (.claim submissionRef recipient)
    (R := fun o u' => o = .ok p → TimesOut policy scene p u u') perfect.ends_claimPayout ?_ hclaim
  rintro o u' past
    (⟨-, hrefused⟩ | ⟨row, p, now, rfl, hrow, hclaimed, hdispatched, hsame, hstore⟩) ho
  · exact absurd ho (hrefused p)
  obtain rfl := Except.ok.inj ho
  rw [hdispatched]
  have horigin := Transition.sameOrigin_of_markClaimed hclaimed
  obtain ⟨hbudget, hpositive⟩ := hrows row hrow
  have hstatus : p.status = .processing := by
    obtain ⟨-, rfl⟩ := Payout.markClaimed_eq_ok hclaimed
    rfl
  have hfound := find?_of_claim hrow hclaimed hstore
  rw [← horigin.amount] at hpositive
  obtain ⟨hash, failed, hsends, hbooks, hstore'⟩ := perfect.timesOut_supervise hpolls hfound
    hstatus (hbudget.markClaimed hclaimed) hpositive hrange
  refine ⟨hash, failed, hsends.of_same hsame, hbooks, ?_⟩
  rw [hstore, MemoryStore.overwrite_overwrite hbooks.origin.id] at hstore'
  exact hstore'

theorem serves_perform {op : Operation} (hpolls : 0 < executor.config.maxPolls)
    (hbalanced : Balanced scene u) (hservice : op.isService = true)
    (hnodup : (scene.drawn (perform (serve executor answer) policy op u)).Nodup) :
    Serves scene u (perform (serve executor answer) policy op u) := by
  cases op with
  | create new =>
      refine of_ends_work (.create new)
        (R := fun _ u' => (scene.drawn u').Nodup → Serves scene u u') perfect.ends_createPayout ?_
        hnodup
      rintro o u' past (hidle | hcreates) hnodup
      · rw [hidle.dispatched]
        exact hidle.serves hbalanced
      · have hdispatched : dispatched past = [] := by
          obtain ⟨-, -, -, -, hdispatched, -⟩ := hcreates
          exact hdispatched
        rw [hdispatched] at hnodup ⊢
        exact hcreates.serves hbalanced hnodup
  | claim submissionRef recipient => exact (perfect.serves_claim policy hpolls hbalanced _ _).1
  | retry id =>
      refine of_ends_work (.retry id) (R := fun _ u' => Serves scene u u')
        (perfect.ends_retryPayout hbalanced) ?_
      intro o u' past hidle
      rw [hidle.dispatched]
      exact hidle.serves hbalanced
  | sweep config =>
      refine of_ends_work (.sweep config) (R := fun _ u' => Serves scene u u')
        (perfect.ends_sweep hbalanced) ?_
      intro o u' past hidle
      rw [hidle.dispatched]
      exact hidle.serves hbalanced
  | execute _ | dispatch _ | recover _ | recordFailure _ _ => cases hservice

theorem serves_performAll (policy : RetryPolicy) {ops : List Operation}
    (hpolls : 0 < executor.config.maxPolls)
    (hbalanced : Balanced scene u) (hservices : ∀ op ∈ ops, op.isService = true)
    (hnodup : (scene.drawn (performAll (serve executor answer) policy ops u)).Nodup) :
    Serves scene u (performAll (serve executor answer) policy ops u) := by
  induction ops generalizing u with
  | nil => exact ⟨hbalanced, fun _ hp _ => hp⟩
  | cons op ops ih =>
      obtain ⟨hop, hops⟩ := List.forall_mem_cons.mp hservices
      have hserves := perfect.serves_perform hpolls hbalanced hop
        (hnodup.sublist (perfect.drawn_performAll ops _).sublist)
      exact hserves.trans (ih hserves.balanced hops hnodup)

end Perfect

theorem Balanced.start (hstore : scene.store u = .empty) (hsent : scene.sent u = []) :
    Balanced scene u where
  rows p hp := by
    rw [hstore] at hp
    exact absurd hp List.not_mem_nil
  drawn p hp := by
    rw [hstore] at hp
    exact absurd hp List.not_mem_nil
  sent id _ := by
    rw [hsent]
    rfl

/-- The engine as the settings wire it to a ledger. -/
def wiring (config : Config) (signer : Ledger.Signer)
    (answer : Surroundings wiredInterface σ) : Surroundings interface σ :=
  serve ⟨signer, config.executor⟩ answer

theorem performAll_append {answer : Surroundings interface σ} (before after : List Operation)
    (u : σ) : performAll answer policy (before ++ after) u =
      performAll answer policy after (performAll answer policy before u) :=
  List.foldl_append

/-- With at least one poll, a payout that was claimed is completed when its execution has ended,
and whatever services follow, one envelope pays it, under the hash on its record. Without polls no
status is asked for: the execution ends in a timeout, which is booked as a failed attempt. -/
theorem exactly_one_transfer {config : Config} {signer : Ledger.Signer}
    {submissionRef recipient : String} (perfect : Perfect answer scene) :
    (0 < config.confirmMaxAttempts → ∀ before after : List Operation,
      scene.store u = .empty → scene.sent u = [] →
      (∀ op ∈ before ++ after, op.isService = true) →
      ((claimPayout submissionRef recipient).outcome.run (wiring config signer answer)
        (performAll (wiring config signer answer) policy before u)).1 = .ok p →
      let u' := performAll (wiring config signer answer) policy
        (before ++ .claim submissionRef recipient :: after) u
      (scene.drawn u').Nodup →
      ∃ row envelope hash, (scene.store u').find? p.id = some row ∧ row.status = .completed ∧
        row.transactionRef = some hash ∧ payments p.id (scene.sent u') = [(envelope, hash)]) ∧
    (config.confirmMaxAttempts = 0 →
      (∀ row ∈ (scene.store u).rows, row.Budgeted ∧ row.amount.IsPositive) →
      (∀ v, policy.Schedules p.maxRetries (answer (.engine .now) v).1) →
      ((claimPayout submissionRef recipient).outcome.run (wiring config signer answer) u).1 =
        .ok p →
      TimesOut policy scene p u
        (perform (wiring config signer answer) policy (.claim submissionRef recipient) u) ∧
      ∀ hash u, (Executor.awaitConfirmation ⟨signer, config.executor⟩ hash).outcome.trace
        (ledgerOf answer) u = []) := by
  constructor
  · intro hpolls before after hstore hsent hservices hclaim u' hdrawn
    obtain ⟨hbefore, hafter⟩ := List.forall_mem_append.mp hservices
    have hu' : u' = performAll (wiring config signer answer) policy
        (.claim submissionRef recipient :: after)
        (performAll (wiring config signer answer) policy before u) :=
      performAll_append _ _ u
    rw [hu'] at hdrawn ⊢
    have hpolls : 0 < (⟨signer, config.executor⟩ : Executor).config.maxPolls := hpolls
    have hserves₁ := perfect.serves_performAll policy hpolls (.start hstore hsent) hbefore
      (hdrawn.sublist (perfect.drawn_performAll _ _).sublist)
    obtain ⟨hserves₂, hpaid⟩ :=
      perfect.serves_claim policy hpolls hserves₁.balanced submissionRef recipient
    have hserves₃ := perfect.serves_performAll policy hpolls hserves₂.balanced hafter hdrawn
    obtain ⟨done, hdone, hid, hpaid⟩ := hpaid p hclaim
    obtain ⟨hdone, hstatus, envelope, hash, href, hpayments⟩ := hpaid.of_serves hserves₃ hdone
    refine ⟨done, envelope, hash, ?_, hstatus, href, hid ▸ hpayments⟩
    exact MemoryStore.find?_eq_some_iff.mpr ⟨hdone, hid⟩
  · intro hpolls hrows hrange hclaim
    have hunpolled : (⟨signer, config.executor⟩ : Executor).config.maxPolls = 0 := hpolls
    refine ⟨perfect.timesOut_claim hunpolled hrows hrange hclaim, fun hash v => ?_⟩
    exact trace_awaitConfirmation_unpolled hunpolled v

end Ledger

/-- A store, the envelopes that were taken with their hashes, and the identifiers drawn. -/
structure SampleState where
  store : MemoryStore
  sent : List (Ledger.Envelope × String)
  drawn : List PayoutId

namespace SampleState

/-- Nothing recorded, drawn or sent yet. -/
def start : SampleState :=
  ⟨.empty, [], []⟩

/-- Longer than every given hash. -/
def freshHash (sent : List (Ledger.Envelope × String)) : String :=
  sent.foldr (fun x hash => x.2 ++ hash) "h"

theorem length_freshHash_pos (sent : List (Ledger.Envelope × String)) :
    0 < (freshHash sent).length := by
  induction sent with
  | nil => decide
  | cons x sent ih =>
      rw [freshHash, List.foldr_cons, String.length_append]
      exact Nat.add_pos_right _ ih

theorem length_lt_freshHash {sent : List (Ledger.Envelope × String)} :
    ∀ x ∈ sent, x.2.length < (freshHash sent).length := by
  induction sent with
  | nil => simp
  | cons y sent ih =>
      intro x hx
      rw [freshHash, List.foldr_cons, String.length_append]
      rcases List.mem_cons.mp hx with rfl | hx
      · exact Nat.lt_add_of_pos_right (length_freshHash_pos sent)
      · exact Nat.lt_add_left _ (ih x hx)

/-- Time stands still, and every transfer is applied in ledger 7. -/
def answer : Surroundings wiredInterface SampleState
  | .engine (.store c), u => ((u.store.answer c).1, { u with store := (u.store.answer c).2 })
  | .engine (.transfer _), u => (.error .crash, u)
  | .engine .now, u => (.epoch, u)
  | .engine .freshId, u =>
    let id := PayoutId.ofNat (u.drawn.length + 1)
    (id, { u with drawn := u.drawn ++ [id] })
  | .engine (.publish _), u => ((), u)
  | .engine (.dispatch _), u => ((), u)
  | .engine (.pause _), u => ((), u)
  | .ledger (.call (.accountSequence _)), u => (.ok 41, u)
  | .ledger (.call (.simulate _)), u => (.ok .valid, u)
  | .ledger (.call (.submit e)), u =>
    (.ok (.pending (freshHash u.sent)), { u with sent := u.sent ++ [(e, freshHash u.sent)] })
  | .ledger (.call (.transactionStatus _)), u => (.ok (.success 7), u)
  | .ledger .now, u => (.epoch, u)
  | .ledger (.pause _), u => ((), u)

/-- The three parts of a sample state. -/
def scene : Scene SampleState :=
  ⟨store, sent, drawn⟩

theorem perfect : Perfect answer scene where
  answered _ _ := rfl
  stored _ _ := rfl
  clock _ := Int.le_refl 0
  ledgerClock _ := Int.le_refl 0
  sequence _ _ :=
    have below : (41 : Int64) ≠ Int64.maxValue := by decide
    ⟨41, rfl, below⟩
  simulates _ _ := rfl
  takes _ u := ⟨_, rfl, fun x hx h => Nat.ne_of_lt (length_lt_freshHash x hx) (congrArg _ h), rfl⟩
  confirms _ _ _ := ⟨7, rfl⟩
  draws _ := rfl
  store_kept r u hr := by
    rcases r with (c | _ | _ | _ | _ | _ | _) | (c | _ | _)
    · exact absurd rfl (hr c)
    all_goals first
      | rfl
      | cases c <;> rfl
  sent_kept r u hr := by
    rcases r with (_ | _ | _ | _ | _ | _ | _) | ((_ | _ | e | _) | _ | _)
    all_goals first
      | rfl
      | exact absurd rfl (hr e)
  drawn_kept r u hr := by
    rcases r with (_ | _ | _ | _ | _ | _ | _) | ((_ | _ | _ | _) | _ | _)
    all_goals first
      | rfl
      | exact absurd rfl hr

end SampleState

/-- Settings with a number of polls, by which retries are due at once. -/
def sampleConfig (maxPolls : UInt32) : Config where
  rpcUrl := "https://soroban-testnet.stellar.org"
  horizonUrl := "https://horizon-testnet.stellar.org"
  networkPassphrase := "Test SDF Network ; September 2015"
  signerSecret := "00"
  sourceAccount := "GPAY"
  databaseUrl := "sqlite:./payouts.db"
  apiPort := 3002
  baseFee := 100
  txTimeoutSecs := 30
  confirmPollIntervalMs := 2000
  confirmMaxAttempts := maxPolls
  simulateBeforeSubmit := false
  httpTimeoutSecs := 30
  retryBaseSecs := 0
  defaultMaxRetries := 3
  schedulerIntervalSecs := 300
  schedulerBatchSize := 10
  stuckAfterSecs := 1800

/-- Sweeps for records that were left alone for half an hour. -/
def sampleScheduler : SchedulerConfig :=
  ⟨300, 10, ⟨1800000000000⟩⟩

/-- A service over sample surroundings. -/
def sampleWiring (maxPolls : UInt32) : Surroundings interface SampleState :=
  wiring (sampleConfig maxPolls) ⟨List.replicate 32 (.ofNat 0), rfl⟩ SampleState.answer

/-- A payout is recorded and claimed, and two sweeps follow; without polls, its execution times
out. -/
theorem exactly_one_sampleTransfer :
    let u := performAll (sampleWiring 1) samplePolicy [.create (samplePayout none),
      .claim "sub-1" "GDEST", .sweep sampleScheduler, .sweep sampleScheduler] .start
    let v := performAll (sampleWiring 0) samplePolicy [.create (samplePayout none)] .start
    (sampleConfig 1).validate = .ok () ∧ (∃ row envelope hash,
      u.store.find? sampleId = some row ∧ row.status = .completed ∧
      row.transactionRef = some hash ∧ payments sampleId u.sent = [(envelope, hash)]) ∧
      TimesOut samplePolicy SampleState.scene (sampleClaimed none) v
        (perform (sampleWiring 0) samplePolicy (.claim "sub-1" "GDEST") v) := by
  intro u v
  have hclaim : ((claimPayout "sub-1" "GDEST").outcome.run (sampleWiring 1)
      (performAll (sampleWiring 1) samplePolicy [.create (samplePayout none)] .start)).1 =
      .ok (sampleClaimed none) := by
    decide +kernel
  have hclaim' : ((claimPayout "sub-1" "GDEST").outcome.run (sampleWiring 0) v).1 =
      .ok (sampleClaimed none) := by
    decide +kernel
  have hservices : ∀ op ∈ [.create (samplePayout none)] ++
      [Operation.sweep sampleScheduler, .sweep sampleScheduler], op.isService = true := by
    decide
  have hrows : ∀ row ∈ v.store.rows, row.Budgeted ∧ row.amount.IsPositive := by
    have hstored : v.store.rows =
        [.ofNew (samplePayout none) sampleId samplePolicy.defaultMaxRetries .epoch] := by
      rfl
    rw [hstored]
    refine List.forall_mem_singleton.mpr ⟨(Payout.legal_ofNew _ _ _ _).budgeted, ?_⟩
    decide
  refine ⟨by decide +kernel, ?_, ?_⟩
  · exact (exactly_one_transfer SampleState.perfect).1 (by decide) _ _ rfl rfl hservices hclaim
      (by decide +kernel)
  · exact ((exactly_one_transfer (u := v) SampleState.perfect).2 rfl hrows
      (fun _ => schedules_samplePolicy _) hclaim').1

/-- Settings without a poll are accepted. With them the record of a claimed payout waits for a
retry when its execution has ended, and the next sweep has a second envelope sent. -/
theorem sent_twice_without_polls :
    let u₁ := performAll (sampleWiring 0) samplePolicy [.create (samplePayout none)] .start
    let u₂ := perform (sampleWiring 0) samplePolicy (.claim "sub-1" "GDEST") u₁
    (sampleConfig 0).validate = .ok () ∧ (sampleConfig 0).retryPolicy? = some samplePolicy ∧
      (sampleConfig 0).scheduler? = some sampleScheduler ∧
      Perfect SampleState.answer SampleState.scene ∧
      ((claimPayout "sub-1" "GDEST").outcome.run (sampleWiring 0) u₁).1 =
        .ok (sampleClaimed none) ∧
      (u₂.store.find? sampleId).map Payout.status = some .retryScheduled ∧ u₂.sent.length = 1 ∧
      (perform (sampleWiring 0) samplePolicy (.sweep sampleScheduler) u₂).sent.length = 2 := by
  refine ⟨?_, rfl, rfl, SampleState.perfect, ?_, ?_, ?_, ?_⟩ <;> decide +kernel

end Disburse.Engine
