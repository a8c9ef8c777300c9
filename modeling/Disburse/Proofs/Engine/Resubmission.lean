import Disburse.Proofs.Engine.Checkpoint

/-!
Operations that come one after the other never send a stored submission again before it is
settled, unless waiting for its confirmation has crashed: the supervisor books that crash without
asking the ledger.
-/

namespace Disburse.Engine

open Disburse.Machine Disburse.Machine.Discipline

namespace checkpoints

variable {policy : RetryPolicy} {v v' v'' : View (sequential policy) (Option PayoutId)}
  {p : Payout} {id : PayoutId} {hash : String}

theorem Kept.refl (v : View (sequential policy) (Option PayoutId)) : Kept v v where
  own := rfl
  fewer _ _ _ houtstanding := houtstanding

theorem Kept.trans (h : Kept v v') (h' : Kept v' v'') : Kept v v'' where
  own := h'.own.trans h.own
  fewer := h.fewer.trans (h.own ▸ h'.fewer)

theorem Kept.owns (h : Kept v v') (hown : Owns v.own id) : Owns v'.own id := by
  rwa [h.own]

theorem Kept.clear (h : Kept v v') (hown : Owns v.own id) (hclear : Clear v.state id) :
    Clear v'.state id :=
  h.fewer.clear hown hclear

theorem Heard.kept {r : Request} {a : interface.Answer r} {s' : Shared}
    {past : List (Exchange interface)} (h : Heard v r a s') : Kept v ⟨s', v.own, past⟩ where
  own := rfl
  fewer := h.fewer

/-- An outcome in a later view of the same thread. It is no crash, but for one with which nothing
is outstanding any more. -/
structure Returns {α : Type} (v : View (sequential policy) (Option PayoutId)) (o : Outcome α)
    (v' : View (sequential policy) (Option PayoutId)) : Prop where
  kept : Kept v v'
  cleared : o = .error .crash → ∀ id, Owns v'.own id → Clear v'.state id

theorem Returns.ok {α : Type} {a : α} (v : View (sequential policy) (Option PayoutId)) :
    Returns v (.ok a) v := by
  constructor
  · exact .refl v
  · simp

theorem Returns.error {α : Type} {e : Error} (v : View (sequential policy) (Option PayoutId)) :
    Returns (α := α) v (.error (.error e)) v := by
  constructor
  · exact .refl v
  · simp

theorem works_bind_returns {α β : Type} {t : Work β} {f : β → Work α}
    (ht : (checkpoints policy).Works t (Returns v) v)
    (hf : ∀ b v', (checkpoints policy).Works (f b) (Returns v') v') :
    (checkpoints policy).Works (t >>= f) (Returns v) v := by
  refine Works.bind ht ?_ fun e v' _ h => ⟨h.kept, fun hcrash => h.cleared ?_⟩
  · exact fun b v' _ h => (hf b v').imp fun o v'' h' => ⟨h.kept.trans h'.kept, h'.cleared⟩
  · exact congrArg Except.error (Except.error.inj hcrash)

theorem works_bind_kept {α β : Type} {t : Work β} {f : β → Work α}
    {R : Outcome β → View (sequential policy) (Option PayoutId) → Prop}
    (ht : (checkpoints policy).Works t R v) (hkept : ∀ o v', R o v' → Kept v v')
    (hf : ∀ b v', R (.ok b) v' → (checkpoints policy).Works (f b) (fun _ => Kept v') v') :
    (checkpoints policy).Works (t >>= f) (fun _ => Kept v) v :=
  ht.bind (fun b v' _ h => (hf b v' h).imp fun _ _ h' => (hkept _ v' h).trans h')
    fun _ v' _ h => hkept _ v' h

/-- No other hash is outstanding for a payout. -/
def Only (s : Shared) (id : PayoutId) (hash : String) : Prop :=
  ∀ hash', Outstanding s.log id hash' → hash' = hash

theorem Only.kept (h : Only v.state id hash) (hkept : Kept v v') (hown : Owns v.own id) :
    Only v'.state id hash := by
  intro hash' houtstanding
  exact h hash' (hkept.fewer id hown hash' houtstanding)

theorem works_kept_now : (checkpoints policy).Works now (Returns v) v := by
  rw [works_now]
  refine asks_quiet rfl fun (t : Instant) s' h => ⟨h.kept, fun hcrash => ?_⟩
  obtain ⟨hnone, -⟩ := Outcome.ofInRange_eq_error_iff.mp hcrash
  have hearly : t.seconds < 0 := Instant.reading?_eq_none_iff.mp hnone
  intro id hown hash houtstanding
  exact (h.settled id hown hash houtstanding).2 (.inr (.inr (.inr hearly)))

theorem works_kept_publish {e : Event} : (checkpoints policy).Works (publish e) (Returns v) v := by
  rw [works_publish]
  exact asks_quiet rfl fun _ _ h => ⟨h.kept, by simp⟩

theorem works_saveIf {expected : Status} (hhash : p.submittedHash = none)
    (hcovers : p.status = .completed ∨ (Owns v.own p.id ∧ Clear v.state p.id) ∨
      (expected ≠ .processing ∧ expected ≠ .completed)) :
    (checkpoints policy).Works (store (.saveIf p expected)) (fun o v' => Returns v o v' ∧
      (o = .ok true → expected ≠ .processing → expected ≠ .completed →
        Clear v'.state p.id)) v := by
  rw [works_store]
  refine asks_saveIf hhash hcovers ?_
  rintro (e | won) v' hkept hwon
  · exact ⟨⟨hkept, by simp [Outcome.ofExcept]⟩, fun h => nomatch h⟩
  · exact ⟨⟨hkept, by simp [Outcome.ofExcept]⟩,
      fun h => hwon (congrArg Except.ok (Except.ok.inj h))⟩

/-- A record that was read accounts for what is outstanding, and a hash is on it only while it is
processing. -/
structure Loaded (s : Shared) (id : PayoutId) (p : Payout) : Prop where
  id_eq : p.id = id
  covers : ∀ hash, Outstanding s.log id hash → p.Covers hash
  processing : p.submittedHash.isSome → p.status = .processing

theorem Loaded.clear (h : Loaded v.state id p) (hstatus : p.status = .processing)
    (hhash : p.submittedHash = none) : Clear v.state id := by
  intro hash houtstanding
  rcases h.covers hash houtstanding with hcompleted | ⟨-, hsome⟩
  · rw [hstatus] at hcompleted
    cases hcompleted
  · rw [hhash] at hsome
    cases hsome

theorem Loaded.only (h : Loaded v.state id p) (hstatus : p.status = .processing)
    (hhash : p.submittedHash = some hash) : Only v.state id hash := by
  intro hash' houtstanding
  rcases h.covers hash' houtstanding with hcompleted | ⟨-, hsome⟩
  · rw [hstatus] at hcompleted
    cases hcompleted
  · exact Option.some.inj (hsome.symm.trans hhash)

theorem Loaded.submittedHash_eq_none {s : Shared} (h : Loaded s id p)
    (hstatus : p.status ≠ .processing) : p.submittedHash = none := by
  rw [← Option.not_isSome_iff_eq_none]
  exact mt h.processing hstatus

theorem loaded_of_find? {s : Shared} {tokens : Multiset (Option PayoutId)} (h : Safe s tokens)
    (hp : s.store.find? id = some p) : Loaded s id p where
  id_eq := MemoryStore.find?_id hp
  covers hash houtstanding := by
    obtain ⟨row, hrow, hcovers⟩ := h.covered id hash houtstanding
    rw [hp] at hrow
    exact Option.some.inj hrow ▸ hcovers
  processing := h.processing p (MemoryStore.mem_of_find? hp)

theorem works_load : (checkpoints policy).Works (load id) (fun o v' => Returns v o v' ∧
    ∀ p, o = .ok p → Loaded v'.state id p) v := by
  unfold load
  refine Works.bind (R := fun (o : Outcome (Option Payout)) v' => Returns v o v' ∧
    ∀ p, o = .ok (some p) → Loaded v'.state id p) (works_store.mpr (asks_quiet rfl ?_)) ?_ ?_
  · intro (a : Except Error (Option Payout)) s' h
    obtain ⟨b, hanswered⟩ := h.answered
    obtain ⟨tokens, hsafe⟩ := h.safe
    obtain ⟨-, rfl | ⟨e, rfl⟩⟩ := Behaviour.answer_lookup rfl rfl hanswered
    · refine ⟨⟨h.kept, by rintro ⟨⟩⟩, fun p hp => loaded_of_find? hsafe (Except.ok.inj hp)⟩
    · exact ⟨⟨h.kept, by rintro ⟨⟩⟩, fun p hp => nomatch hp⟩
  · rintro (_ | p) v' - ⟨hreturns, hp⟩
    · exact works_fail.mpr ⟨⟨hreturns.kept, by simp⟩, fun p hp => nomatch hp⟩
    · exact works_pure.mpr ⟨⟨hreturns.kept, by simp⟩, fun q hq => Except.ok.inj hq ▸ hp p rfl⟩
  · rintro e v' - ⟨hreturns, -⟩
    refine ⟨⟨hreturns.kept, fun h => hreturns.cleared ?_⟩, fun p hp => nomatch hp⟩
    exact congrArg Except.error (Except.error.inj h)

theorem works_bookFailure {reason : String} (hown : Owns v.own p.id)
    (hclear : Clear v.state p.id) :
    (checkpoints policy).Works (bookFailure policy p reason) (fun _ => Kept v) v := by
  unfold bookFailure
  refine works_bind_kept works_kept_now (fun _ _ h => h.kept) fun t v₁ hv₁ => ?_
  refine works_bind_kept works_ofInRange (fun _ _ h => h.1 ▸ .refl v₁) ?_
  rintro failed v₂ ⟨rfl, hfailed⟩
  obtain ⟨hid, hhash⟩ : failed.id = p.id ∧ failed.submittedHash = none := by
    obtain ⟨count, -, ⟨-, due, rfl⟩ | ⟨-, rfl⟩⟩ :=
      Payout.recordFailure?_eq_some (hfailed failed rfl)
    all_goals exact ⟨rfl, rfl⟩
  rw [← hid] at hown hclear
  have hcovers : Owns v₂.own failed.id ∧ Clear v₂.state failed.id :=
    ⟨hv₁.kept.owns hown, hv₁.kept.clear hown hclear⟩
  refine works_bind_kept (works_saveIf hhash (.inr (.inl hcovers))) (fun _ _ h => h.1.kept) ?_
  rintro (_ | _) v₃ -
  · exact works_pure.mpr (.refl v₃)
  · exact works_bind_kept works_kept_publish (fun _ _ h => h.kept)
      fun _ v₄ _ => works_pure.mpr (.refl v₄)

theorem works_recordFailure {reason : String} (hown : Owns v.own id) (hclear : Clear v.state id) :
    (checkpoints policy).Works (recordFailure policy id reason) (fun _ => Kept v) v := by
  unfold recordFailure
  refine works_bind_kept works_load (fun _ _ h => h.1.kept) ?_
  rintro p v₁ ⟨hv₁, hp⟩
  split
  · obtain rfl := (hp p rfl).id_eq
    exact works_bookFailure (hv₁.kept.owns hown) (hv₁.kept.clear hown hclear)
  · exact works_pure.mpr (.refl v₁)

theorem works_failAttempt {e : Error} (hown : Owns v.own p.id) (hclear : Clear v.state p.id) :
    (checkpoints policy).Works (failAttempt policy p e) (fun _ => Kept v) v := by
  unfold failAttempt
  exact works_bind_kept (works_bookFailure hown hclear) (fun _ _ h => h)
    fun _ v₁ _ => works_pure.mpr (.refl v₁)

theorem works_writeCompletion {receipt : TransferReceipt} {tries : Nat} :
    (checkpoints policy).Works (writeCompletion id receipt p tries) (Returns v) v := by
  induction tries generalizing p v with
  | zero => exact works_fail.mpr (.error v)
  | succ tries ih =>
      unfold writeCompletion
      split
      · exact works_pure.mpr (.ok v)
      refine works_bind_returns works_kept_now fun t v₁ => ?_
      refine works_bind_returns ((works_saveIf rfl (.inl rfl)).imp fun _ _ => And.left) ?_
      rintro (_ | _) v₂
      · exact works_bind_returns (works_load.imp fun _ _ => And.left) fun current v₃ => ih
      · exact works_pure.mpr (.ok v₂)

theorem works_complete {receipt : TransferReceipt} :
    (checkpoints policy).Works (complete p receipt) (Returns v) v := by
  unfold complete
  refine works_bind_returns ?_ ?_
  · refine works_persist (fun _ v' => Kept v v') (fun _ v' => Kept v v') ?_ ?_ _ 0 (.refl v)
    · intro n v₁ hv₁
      have htry : (checkpoints policy).Works
          (do writeCompletion p.id receipt (← if n = 0 then pure p else load p.id) writeAttempts)
          (Returns v₁) v₁ := by
        split
        · exact works_writeCompletion
        · exact works_bind_returns (works_load.imp fun _ _ => And.left)
            fun _ _ => works_writeCompletion
      exact htry.imp fun _ _ h => ⟨⟨hv₁.trans h.kept, h.cleared⟩, fun _ _ => hv₁.trans h.kept⟩
    · intro n k v₁ hv₁
      exact asks_quiet rfl fun _ _ h => hv₁.trans h.kept
  · rintro (_ | done) v₁
    · exact works_pure.mpr (.ok v₁)
    · exact works_bind_returns works_kept_publish fun _ v₂ => works_pure.mpr (.ok v₂)

/-- The view of an execution for whose payout only this hash may be outstanding. -/
structure Submitted (v : View (sequential policy) (Option PayoutId)) (id : PayoutId)
    (hash : String) : Prop where
  own_eq : v.own = {some id}
  only : Only v.state id hash

/-- The view of an execution for whose payout nothing is outstanding. -/
structure Ready (v : View (sequential policy) (Option PayoutId)) (id : PayoutId) : Prop where
  own_eq : v.own = {some id}
  clear : Clear v.state id

theorem Submitted.mem_own (h : Submitted v id hash) : some id ∈ v.own :=
  h.own_eq ▸ Multiset.mem_singleton_self _

theorem Submitted.kept (h : Submitted v id hash) (hkept : Kept v v') : Submitted v' id hash where
  own_eq := hkept.own.trans h.own_eq
  only := h.only.kept hkept (.inr h.mem_own)

theorem Ready.submitted (h : Ready v id) (hash : String) : Submitted v id hash where
  own_eq := h.own_eq
  only hash' houtstanding := absurd houtstanding (h.clear hash')

theorem Ready.mem_own (h : Ready v id) : some id ∈ v.own :=
  h.own_eq ▸ Multiset.mem_singleton_self _

theorem Ready.kept (h : Ready v id) (hkept : Kept v v') : Ready v' id where
  own_eq := hkept.own.trans h.own_eq
  clear := hkept.clear (.inr h.mem_own) h.clear

theorem works_persist_checkpoint (h : Submitted v p.id hash) (hstatus : p.status = .processing)
    (hhash : p.submittedHash = some hash) :
    (checkpoints policy).Works (persistently fun _ => store (.saveIf p .processing))
      (fun o v' => o ≠ .error .crash ∧ Submitted v' p.id hash) v := by
  refine works_persist (fun _ v' => Submitted v' p.id hash) (fun _ v' => Submitted v' p.id hash)
    ?_ ?_ _ 0 h
  · intro n v₁ hv₁
    rw [works_store]
    refine asks_checkpoint hv₁.mem_own hstatus hhash hv₁.only ?_
    intro a v₂ hown₂ honly₂
    have hv₂ : Submitted v₂ p.id hash := ⟨hown₂.trans hv₁.own_eq, honly₂⟩
    cases a with
    | error e => exact ⟨⟨by rintro ⟨⟩, hv₂⟩, fun _ _ => hv₂⟩
    | ok won => exact ⟨⟨by rintro ⟨⟩, hv₂⟩, fun _ _ => hv₂⟩
  · intro n k v₁ hv₁
    exact asks_quiet rfl fun _ _ h' => hv₁.kept h'.kept

theorem works_recordSubmission (h : Ready v p.id) (hstatus : p.status = .processing) :
    (checkpoints policy).Works (recordSubmission p hash) (fun o v' =>
      (o = .error .crash → Ready v' p.id) ∧
      ∀ q, o = .ok q → q.id = p.id ∧ Submitted v' q.id hash) v := by
  unfold recordSubmission
  refine Works.bind works_kept_now ?_ ?_
  · intro t v₁ _ hv₁
    have hsubmitted := (h.kept hv₁.kept).submitted hash
    refine Works.bind (R := fun o v₂ => o ≠ .error .crash ∧ Submitted v₂ p.id hash)
      (works_attempt.mpr ((works_persist_checkpoint (p := p.markSubmitted hash t) hsubmitted hstatus
        rfl).imp ?_)) ?_ ?_
    · rintro ((e | _) | won) v₂ ⟨hcrash, hv₂⟩
      · exact ⟨by simp, hv₂⟩
      · exact absurd rfl hcrash
      · exact ⟨by simp, hv₂⟩
    · rintro r v₂ - ⟨-, hv₂⟩
      rw [works_pure]
      refine ⟨by simp, fun q hq => ?_⟩
      obtain rfl := Except.ok.inj hq
      exact ⟨rfl, hv₂⟩
    · rintro e v₂ - ⟨hcrash, -⟩
      exact ⟨fun h => absurd (by simpa using h) hcrash, fun q hq => nomatch hq⟩
  · rintro e v₁ - hv₁
    exact ⟨fun _ => h.kept hv₁.kept, fun q hq => nomatch hq⟩

theorem works_awaitConfirmation (h : Submitted v id hash) :
    (checkpoints policy).Works (transfer (.awaitConfirmation hash))
      (fun o v' => v'.own = v.own ∧ ∀ e, o = .error e → Ready v' id) v := by
  rw [works_transfer]
  refine asks_quiet rfl fun o s' hheard => ⟨rfl, ?_⟩
  rintro e rfl
  refine ⟨h.own_eq, fun hash' houtstanding => ?_⟩
  obtain ⟨hbefore, hcleared⟩ := hheard.settled id (.inr h.mem_own) hash' houtstanding
  obtain rfl := h.only hash' hbefore
  refine hcleared ?_
  cases e with
  | error e => exact .inl rfl
  | crash => exact .inr (.inl rfl)

theorem works_lookup :
    (checkpoints policy).Works (transfer (.lookup hash)) (fun o v' => Kept v v' ∧
      ∀ status, o = .ok status → (∀ ledger, status ≠ .success ledger) →
        ∀ id, Owns v.own id → ¬ Outstanding v'.state.log id hash) v := by
  rw [works_transfer]
  refine asks_quiet rfl fun a s' h => ⟨h.kept, ?_⟩
  rintro status rfl hstatus id hown houtstanding
  refine (h.settled id hown hash houtstanding).2 (.inl ?_)
  cases status with
  | success ledger => exact absurd rfl (hstatus ledger)
  | failed result => rfl
  | notFound => rfl

/-- An execution starts with nothing outstanding, and if it crashes, nothing is then either. -/
theorem works_execute (h : Ready v id) :
    (checkpoints policy).Works (execute policy id) (fun o v' => o = .error .crash → Ready v' id)
      v := by
  unfold execute
  refine Works.bind works_load ?_ fun _ _ _ hv₁ _ => h.kept hv₁.1.kept
  rintro p v₁ - ⟨hv₁, hp⟩
  obtain rfl := (hp p rfl).id_eq
  split
  · exact works_pure.mpr fun h₁ => nomatch h₁
  rename_i hstatus
  rw [not_not] at hstatus
  refine Works.bind (R := fun _ v₂ => Ready v₂ p.id) (works_ofOutcome.mpr (h.kept hv₁.kept)) ?_
    fun _ _ _ hready _ => hready
  intro request v₂ _ hready₂
  have hsubmit : (checkpoints policy).Works (transfer (.submit (requestOf p)))
      (fun _ v₃ => Ready v₃ p.id) v₂ :=
    works_transfer.mpr (asks_submit (.inr hready₂.mem_own) hready₂.clear rfl
      fun _ _ hkept => hready₂.kept hkept)
  refine Works.bind hsubmit.attempt ?_ fun _ _ _ hready _ => hready
  rintro (e | hash) v₃ - hready₃
  · exact (works_failAttempt (.inr hready₃.mem_own) hready₃.clear).imp
      fun _ _ hkept _ => hready₃.kept hkept
  refine Works.bind (works_recordSubmission hready₃ hstatus) ?_
    fun e v₄ _ h₄ hcrash => h₄.1 (by simpa using hcrash)
  rintro submitted v₄ - ⟨-, hsubmitted⟩
  obtain ⟨hid, hv₄⟩ := hsubmitted submitted rfl
  rw [← hid]
  -- Now the hash is outstanding, until waiting for its confirmation fails.
  refine Works.bind (R := fun o v₅ => v₅.own = v₄.own ∧
    ((∀ receipt, o ≠ .ok (.ok receipt)) → Ready v₅ submitted.id))
    (works_attempt.mpr ((works_awaitConfirmation hv₄).imp ?_)) ?_
    fun e v₅ _ h₅ _ => h₅.2 (by simp)
  · rintro ((e | _) | receipt) v₅ ⟨hown₅, hready⟩
    · exact ⟨hown₅, fun _ => hready _ rfl⟩
    · exact ⟨hown₅, fun _ => hready _ rfl⟩
    · exact ⟨hown₅, fun h₅ => absurd rfl (h₅ receipt)⟩
  rintro (e | receipt) v₅ - ⟨hown₅, hready₅⟩
  · have hready₅ := hready₅ (by simp)
    exact (works_failAttempt (.inr hready₅.mem_own) hready₅.clear).imp
      fun _ _ hkept _ => hready₅.kept hkept
  · refine Works.bind works_complete (fun _ _ _ _ => works_pure.mpr fun h₆ => nomatch h₆) ?_
    intro e v₆ _ h₆ hcrash
    have hown₆ : v₆.own = {some submitted.id} := h₆.kept.own.trans (hown₅.trans hv₄.own_eq)
    have howns : Owns v₆.own submitted.id := .inr (hown₆ ▸ Multiset.mem_singleton_self _)
    exact ⟨hown₆, h₆.cleared (by simpa using hcrash) submitted.id howns⟩

theorem works_supervise (h : Ready v id) :
    (checkpoints policy).Works (supervise policy id) (fun _ _ => True) v := by
  rw [works_supervise_iff]
  refine (works_execute h).imp ?_
  rintro ((e | _) | _) v₁ hcrash
  · exact trivial
  · have hready := hcrash rfl
    refine (works_recordFailure (.inr hready.mem_own) hready.clear).imp ?_
    rintro ((e | _) | _) v₂ -
    all_goals exact trivial
  · exact trivial

theorem works_recover (hown : Owns v.own id) :
    (checkpoints policy).Works (recover policy id) (fun _ => Kept v) v := by
  unfold recover
  refine works_bind_kept works_load (fun _ _ h => h.1.kept) ?_
  rintro p v₁ ⟨hv₁, hp⟩
  have hloaded := hp p rfl
  obtain rfl := hloaded.id_eq
  have hown₁ := hv₁.kept.owns hown
  split
  · exact works_pure.mpr (.refl v₁)
  rename_i hstatus
  rw [not_not] at hstatus
  split
  · rename_i hhash
    exact works_bookFailure hown₁ (hloaded.clear hstatus hhash)
  rename_i hash hhash
  refine works_bind_kept works_lookup (fun _ _ h => h.1) ?_
  rintro status v₂ ⟨hv₂, hcleared⟩
  -- Only the hash on the record can be outstanding, and the ledger has just been asked about it.
  have hclear : (∀ ledger, status ≠ .success ledger) → Clear v₂.state p.id := by
    intro hstatus' hash' houtstanding
    obtain rfl := (hloaded.only hstatus hhash).kept hv₂ hown₁ hash' houtstanding
    exact hcleared status rfl hstatus' p.id hown₁ houtstanding
  cases status with
  | success ledger =>
      exact works_bind_kept works_complete (fun _ _ h => h.kept)
        fun _ v₃ _ => works_pure.mpr (.refl v₃)
  | failed result => exact works_bookFailure (hv₂.owns hown₁) (hclear (by simp))
  | notFound => exact works_bookFailure (hv₂.owns hown₁) (hclear (by simp))

theorem works_createPayout {new : NewPayout} :
    (checkpoints policy).Works (createPayout policy new) (fun _ _ => True) v := by
  unfold createPayout
  refine Works.andThen (R := fun _ _ => True) (works_ofOutcome.mpr trivial) ?_
  intro _ v₁ _ _
  refine Works.andThen (R := fun _ _ => True)
    (works_freshId.mpr (asks_quiet rfl fun _ _ _ => trivial)) ?_
  intro id v₂ _ _
  refine Works.andThen works_kept_now ?_
  intro t v₃ _ _
  exact Works.andThen (R := fun _ _ => True)
    (works_store.mpr (asks_create rfl fun _ _ _ => trivial)) fun _ _ _ _ => trivial

theorem works_reopen {α : Type} {expected : Status} {won lost : Work α} (hown : v.own = {none})
    (hhash : p.submittedHash = none) (hprocessing : expected ≠ .processing)
    (hcompleted : expected ≠ .completed)
    (hwon : ∀ v', v'.own = {none} → Clear v'.state p.id →
      (checkpoints policy).Works won (fun _ _ => True) v')
    (hlost : ∀ v', (checkpoints policy).Works lost (fun _ _ => True) v') :
    (checkpoints policy).Works
      (do if ← store (.saveIf p expected) then won else lost) (fun _ _ => True) v := by
  refine Works.andThen (works_saveIf hhash (.inr (.inr ⟨hprocessing, hcompleted⟩))) ?_
  rintro (_ | _) v₁ - ⟨hv₁, hclear⟩
  · exact hlost v₁
  · exact hwon v₁ (hv₁.kept.own.trans hown) (hclear rfl hprocessing hcompleted)

theorem works_dispatch {rest : Multiset (Option PayoutId)} {token : Option PayoutId}
    (hown : v.own = token ::ₘ rest) (htoken : token = none ∨ token = some id)
    (hclear : Clear v.state id) :
    (checkpoints policy).Works (dispatch id) (fun _ v' => v'.own = rest) v := by
  rw [Engine.works_dispatch]
  exact asks_dispatch hown htoken hclear fun _ h => h

theorem works_claimPayout {submissionRef recipient : String} (hown : v.own = {none}) :
    (checkpoints policy).Works (claimPayout submissionRef recipient) (fun _ _ => True) v := by
  unfold claimPayout
  refine Works.andThen (R := fun (o : Outcome (Option Payout)) v₁ => v₁.own = {none} ∧
    ∀ p, o = .ok (some p) → p.submittedHash.isSome → p.status = .processing)
    (works_store.mpr (asks_quiet rfl ?_)) ?_
  · intro (a : Except Error (Option Payout)) s' h
    obtain ⟨b, hanswered⟩ := h.answered
    obtain ⟨tokens, hsafe⟩ := h.safe
    refine ⟨h.kept.own.trans hown, fun p hp => ?_⟩
    obtain ⟨-, rfl | ⟨e, rfl⟩⟩ := Behaviour.answer_lookup rfl rfl hanswered
    · have hfound : s'.store.findSubmission? submissionRef = some p := Except.ok.inj hp
      exact hsafe.processing p (MemoryStore.mem_of_findSubmission? hfound)
    · cases hp
  rintro (_ | p) v₁ - ⟨hown₁, hp⟩
  · exact trivial
  dsimp only
  split
  · exact trivial
  split
  · exact trivial
  refine Works.andThen works_kept_now ?_
  intro t v₂ _ hv₂
  refine Works.andThen works_ofExcept ?_
  rintro claimed v₃ - ⟨rfl, hclaimed⟩
  obtain ⟨hstatus, rfl⟩ := Payout.markClaimed_eq_ok (hclaimed claimed rfl)
  have hhash : p.submittedHash = none := by
    rw [← Option.not_isSome_iff_eq_none]
    exact mt (hp p rfl) (by simp [hstatus])
  refine works_reopen (hv₂.kept.own.trans hown₁) hhash (by simp) (by simp) ?_ fun _ => trivial
  intro v₄ hown₄ hclear
  exact Works.andThen (works_dispatch hown₄ (.inl rfl) hclear) fun _ _ _ _ => trivial

theorem works_retryPayout (hown : v.own = {none}) :
    (checkpoints policy).Works (retryPayout policy id) (fun _ _ => True) v := by
  unfold retryPayout
  refine Works.andThen works_load ?_
  rintro p v₁ - ⟨hv₁, hp⟩
  have hloaded := hp p rfl
  obtain rfl := hloaded.id_eq
  refine Works.andThen works_kept_now ?_
  intro t v₂ _ hv₂
  refine Works.andThen works_ofExcept ?_
  rintro reset v₃ - ⟨rfl, hreset⟩
  obtain ⟨hstatus, rfl⟩ := Payout.resetForRetry_eq_ok (hreset reset rfl)
  have hhash := hloaded.submittedHash_eq_none (by simp [hstatus])
  refine works_reopen ((hv₁.kept.trans hv₂.kept).own.trans hown) hhash (by simp) (by simp) ?_ ?_
  · intro v₄ hown₄ hclear
    exact Works.andThen (works_dispatch hown₄ (.inl rfl) hclear) fun _ _ _ _ => trivial
  · exact fun v₄ => Works.andThen works_load fun _ _ _ _ => trivial

theorem works_recoverEach {ps : List Payout} (hown : v.own = {none}) :
    (checkpoints policy).Works (recoverEach policy ps) (fun _ v' => v'.own = {none}) v := by
  induction ps generalizing v with
  | nil => exact works_pure.mpr hown
  | cons p ps ih =>
      unfold recoverEach
      have howns : Owns v.own p.id := .inl (hown ▸ Multiset.mem_singleton_self _)
      refine Works.bind (works_recover howns).attempt ?_ fun _ _ _ hv₁ => hv₁.own.trans hown
      intro settled v₁ _ hv₁
      have hown₁ : v₁.own = {none} := hv₁.own.trans hown
      refine Works.bind (ih hown₁) ?_ fun _ _ _ h => h
      intro count v₂ _ hown₂
      split
      all_goals exact works_pure.mpr hown₂

theorem works_recoverStuck {config : SchedulerConfig} {t : Instant} (hown : v.own = {none}) :
    (checkpoints policy).Works (recoverStuck policy config t) (fun _ v' => v'.own = {none}) v := by
  unfold recoverStuck
  refine Works.bind (R := fun _ v₁ => v₁.own = {none}) (works_ofOutcome.mpr hown) ?_
    fun _ _ _ h => h
  intro before v₁ _ hown₁
  refine Works.bind (R := fun _ v₂ => v₂.own = {none})
    (works_store.mpr (asks_quiet rfl fun _ _ h => h.kept.own.trans hown₁)) ?_ fun _ _ _ h => h
  exact fun ps v₂ _ hown₂ => works_recoverEach hown₂

/-- The token of a payout that is due goes to its execution, or stays with the sweep. -/
theorem works_requeueOne {t : Instant} {report : SweepReport}
    {rest : Multiset (Option PayoutId)} (hown : v.own = some p.id ::ₘ rest)
    (hhash : p.submittedHash = none) :
    (checkpoints policy).Works (requeueOne t p report)
      (fun _ v' => v'.own = rest ∨ v'.own = some p.id ::ₘ rest) v := by
  unfold requeueOne
  split
  · exact works_pure.mpr (.inr hown)
  rename_i requeued hrequeue
  obtain ⟨hid, hhash'⟩ : requeued.id = p.id ∧ requeued.submittedHash = none := by
    obtain ⟨-, rfl⟩ := Payout.requeue_eq_ok hrequeue
    exact ⟨rfl, hhash⟩
  have hscheduled : Status.retryScheduled ≠ .processing ∧ Status.retryScheduled ≠ .completed := by
    simp
  refine Works.bind (R := fun o v₁ => v₁.own = some p.id ::ₘ rest ∧
    (o = .ok (.ok true) → Clear v₁.state p.id))
    (works_attempt.mpr ((works_saveIf hhash' (.inr (.inr hscheduled))).imp ?_)) ?_
    fun _ _ _ h => .inr h.1
  · rintro ((e | _) | won) v₁ ⟨hv₁, hclear⟩
    · exact ⟨hv₁.kept.own.trans hown, by simp⟩
    · exact ⟨hv₁.kept.own.trans hown, by simp⟩
    · rw [← hid]
      exact ⟨by rw [hv₁.kept.own, hown, hid],
        fun h => hclear (by simpa using h) (by simp) (by simp)⟩
  rintro (e | _ | _) v₁ - ⟨hown₁, hclear⟩
  · exact works_pure.mpr (.inr hown₁)
  · exact works_pure.mpr (.inr hown₁)
  · exact Works.bind (works_dispatch hown₁ (.inr rfl) (hclear rfl))
      (fun _ _ _ h => works_pure.mpr (.inl h)) fun _ _ _ h => .inl h

/-- The tokens of payouts that are due, and some that are left over. -/
def batch (ps : List Payout) (left : Multiset (Option PayoutId)) : Multiset (Option PayoutId) :=
  ↑(ps.map fun p => some p.id) + left

/-- What a sweep owns that was answered its batch: the tokens of the payouts in it, or the sweep's
own one if there are none. -/
def batchTokens : Except Error (List Payout) → Multiset (Option PayoutId)
  | .ok ps => batch ps 0
  | .error _ => {none}

theorem batch_cons {ps : List Payout} {left : Multiset (Option PayoutId)} :
    batch (p :: ps) left = some p.id ::ₘ batch ps left := by
  rw [batch, batch, List.map_cons, ← Multiset.cons_coe, Multiset.cons_add]

theorem mem_batch {ps : List Payout} {left : Multiset (Option PayoutId)} (hp : p ∈ ps) :
    some p.id ∈ batch ps left := by
  apply Multiset.mem_add.mpr
  exact .inl (Multiset.mem_coe.mpr (List.mem_map.mpr ⟨p, hp, rfl⟩))

theorem exclusive_batch {ps : List Payout} (h : (ps.map Payout.id).Nodup) :
    Exclusive (batch ps 0) := by
  rw [batch, add_zero]
  refine ⟨Multiset.coe_nodup.mpr ?_, fun hmem => ?_⟩
  · simpa [Function.comp_def] using h.map (Option.some_injective PayoutId)
  · simp at hmem

theorem works_requeueEach {t : Instant} {ps : List Payout} {report : SweepReport}
    {left : Multiset (Option PayoutId)} (hown : v.own = batch ps left)
    (hhash : ∀ p ∈ ps, p.submittedHash = none) :
    (checkpoints policy).Works (requeueEach t ps report) (fun _ _ => True) v := by
  induction ps generalizing v report left with
  | nil => exact trivial
  | cons p ps ih =>
      unfold requeueEach
      refine Works.andThen (works_requeueOne (hown.trans batch_cons)
        (hhash p List.mem_cons_self)) ?_
      have hrest : ∀ q ∈ ps, q.submittedHash = none :=
        fun q hq => hhash q (List.mem_cons_of_mem p hq)
      rintro report' v₁ - (hown₁ | hown₁)
      · exact ih hown₁ hrest
      · have hkept : v₁.own = batch ps (some p.id ::ₘ left) := by
          rw [hown₁, batch, batch, Multiset.add_cons]
        exact ih hkept hrest

theorem works_findDue {t : Instant} {limit : UInt32} (hown : v.own = {none}) :
    (checkpoints policy).Works (store (.findDue .retryScheduled t limit))
      (fun o v' => ∀ ps, o = .ok ps →
        v'.own = batch ps 0 ∧ ∀ p ∈ ps, p.submittedHash = none) v := by
  rw [works_store]
  refine asks_heard batchTokens rfl ?_ ?_
  · intro others (a : Except Error (List Payout)) s' h hexclusive
    rw [hown] at hexclusive
    obtain rfl := hexclusive.eq_zero
    obtain ⟨b, hanswered⟩ := h.answered
    obtain ⟨-, ⟨kept, hkept, rfl⟩ | ⟨e, rfl⟩⟩ := Behaviour.answer_read rfl hanswered
    · rw [add_zero]
      exact exclusive_batch MemoryStore.findDue_ids_nodup
    · exact hexclusive
  · intro (a : Except Error (List Payout)) s' h ps hps
    obtain ⟨b, hanswered⟩ := h.answered
    obtain ⟨tokens, hsafe⟩ := h.safe
    obtain ⟨-, ⟨kept, hkept, rfl⟩ | ⟨e, rfl⟩⟩ := Behaviour.answer_read rfl hanswered
    · obtain rfl : kept.findDue .retryScheduled t limit = ps := Except.ok.inj hps
      refine ⟨rfl, fun p hp => ?_⟩
      obtain ⟨hmem, hstatus⟩ := MemoryStore.mem_findDue hp
      rw [← Option.not_isSome_iff_eq_none]
      exact mt (hsafe.processing p (hkept.mem_iff.mp hmem)) (by simp [hstatus])
    · cases hps

theorem works_sweep {config : SchedulerConfig} (hown : v.own = {none}) :
    (checkpoints policy).Works (sweep policy config) (fun _ _ => True) v := by
  unfold sweep
  refine Works.andThen works_kept_now ?_
  intro t v₁ _ hv₁
  refine Works.andThen (works_recoverStuck (hv₁.kept.own.trans hown)) ?_
  intro recovered v₂ _ hown₂
  refine Works.andThen (works_findDue hown₂) ?_
  intro due v₃ _ h
  obtain ⟨hown₃, hhash⟩ := h due rfl
  exact works_requeueEach hown₃ hhash

theorem adequate (policy : RetryPolicy) : (checkpoints policy).Adequate where
  initial := ⟨by simp [Shared.empty, MemoryStore.empty],
    fun id hash h => absurd h not_outstanding_nil,
    sent_nil, by simp [Exclusive]⟩
  opens := by
    intro op idle s total hopens hidle hholds
    rw [Bool.and_eq_true] at hopens
    obtain rfl := hidle hopens.2
    exact ⟨{none}, .inl ⟨hopens.1, rfl⟩, hholds.processing, hholds.covered, hholds.sent,
      by simp [Exclusive]⟩
  secure := by
    rintro op s own (⟨hservice, rfl⟩ | ⟨id, rfl, rfl, hclear⟩)
    · refine Secure.imp (Q := fun _ _ => True) ?_ fun _ _ _ => trivial
      cases op with
      | create new => exact works_createPayout
      | claim submissionRef recipient => exact works_claimPayout rfl
      | retry id => exact works_retryPayout rfl
      | sweep config => exact works_sweep rfl
      | execute _ | dispatch _ | recover _ | recordFailure _ _ => cases hservice
    · exact Secure.imp (works_supervise ⟨rfl, hclear⟩) fun _ _ _ => trivial

end checkpoints

/-- After a hash was stored on a payout's record, nothing is submitted for that payout before the
submission is settled, as long as waiting for its confirmation does not crash. -/
theorem settled_before_resubmission {policy : RetryPolicy}
    {moves : List (sequential policy).Move} {before mid after : List Entry} {w sub : Entry}
    {id : PayoutId} {hash : String}
    (hlog : ((sequential policy).run moves).state.log = before ++ w :: (mid ++ sub :: after))
    (hw : w.Checkpoints id hash) (hsub : sub.Submits id) (hcrash : ∀ e ∈ mid, ¬ e.Crashes hash)
    (hcreate : ∀ e ∈ mid, ¬ e.Creates id) (hclock : ∀ e ∈ mid, ¬ e.IsEarly) :
    ∃ e ∈ mid, e.Settles hash := by
  obtain ⟨tokens, hsafe⟩ := (checkpoints.adequate policy).holds_run moves
  by_contra hnone
  have hprefix : (before ++ w :: mid) ++ [sub] <+: ((sequential policy).run moves).state.log :=
    ⟨after, by simp [hlog]⟩
  refine Safe.sent hsafe _ sub hprefix id hsub hash ⟨before, w, mid, rfl, hw, ?_⟩
  rintro e he (hsettles | hcrashes | hcreates | hearly)
  · exact hnone ⟨e, he, hsettles⟩
  · exact hcrash e he hcrashes
  · exact hcreate e he hcreates
  · exact hclock e he hearly

/-- A payout is submitted as `h1`, waiting for it fails, and a sweep has it submitted again. The
supervisor reads the record if that was a crash. -/
def sampleResubmission (failure : Abort) : List (sequential samplePolicy).Move :=
  sampleClaim none ++
    [.resume 2 .plain, .resume 2 (.submitted (.ok "h1")), .resume 2 (.clock .epoch),
      .resume 2 .plain, .resume 2 (.confirmed (.error failure)), .resume 2 .plain,
      .resume 2 (.clock .epoch), .resume 2 .plain, .resume 2 .plain] ++
    sampleSweep 3 ++
    [.resume 3 .plain, .resume 3 .plain, .resume 4 .plain, .resume 4 (.submitted (.ok "h2"))]

/-- The journal of a run in which waiting for the confirmation fails. -/
def sampleLog (failure : Abort) : List Entry :=
  ((sequential samplePolicy).run (sampleResubmission failure)).state.log

theorem eq_take_append_drop {α : Type} (l : List α) {i j : Nat} (hi : i < l.length)
    (hj : i + 1 + j < l.length) :
    l = l.take i ++ l.get ⟨i, hi⟩ ::
      ((l.drop (i + 1)).take j ++ l.get ⟨i + 1 + j, hj⟩ :: l.drop (i + 1 + j + 1)) := by
  have hlast : l.get ⟨i + 1 + j, hj⟩ :: l.drop (i + 1 + j + 1) = (l.drop (i + 1)).drop j := by
    rw [List.drop_drop]
    exact List.getElem_cons_drop hj
  have hfirst : l.get ⟨i, hi⟩ :: l.drop (i + 1) = l.drop i := List.getElem_cons_drop hi
  rw [hlast, List.take_append_drop, hfirst, List.take_append_drop]

/-- A confirmation that does not come in time. -/
def sampleTimeout : Abort :=
  .error (.confirmationTimeout "h1" 30)

theorem settled_before_sampleResubmission :
    ∃ before w mid sub after,
      sampleLog sampleTimeout = before ++ w :: (mid ++ sub :: after) ∧
      w.Checkpoints sampleId "h1" ∧ sub.Submits sampleId ∧ ∃ e ∈ mid, e.Settles "h1" := by
  have hw : ((sampleLog sampleTimeout).get ⟨10, by decide +kernel⟩).Checkpoints sampleId "h1" := by
    decide +kernel
  have hsub : ((sampleLog sampleTimeout).get ⟨21, by decide +kernel⟩).Submits sampleId := by
    decide +kernel
  have hlog := eq_take_append_drop (i := 10) (j := 10) (sampleLog sampleTimeout)
    (by decide +kernel) (by decide +kernel)
  exact ⟨_, _, _, _, _, hlog, hw, hsub,
    settled_before_resubmission hlog hw hsub (by decide +kernel) (by decide +kernel)
      (by decide +kernel)⟩

/-- A crash while the confirmation is awaited: the payout is submitted again, although nobody has
asked the ledger about its first submission. -/
theorem resubmitted_after_crash :
    ∃ before w mid sub after,
      sampleLog .crash = before ++ w :: (mid ++ sub :: after) ∧
      w.Checkpoints sampleId "h1" ∧ sub.Submits sampleId ∧
      ∀ e ∈ mid, ¬ e.Settles "h1" ∧ ¬ e.Creates sampleId ∧ ¬ e.IsEarly := by
  have hlog := eq_take_append_drop (i := 10) (j := 11) (sampleLog .crash) (by decide +kernel)
    (by decide +kernel)
  exact ⟨_, _, _, _, _, hlog, by decide +kernel, by decide +kernel, by decide +kernel⟩

end Disburse.Engine
