import Disburse.Proofs.Engine.Custody

namespace Disburse.Engine

open Disburse.Machine Disburse.Machine.Discipline
open checkpoints (batch batchTokens batch_cons mem_batch exclusive_batch)

namespace custody

variable {policy : RetryPolicy} {v v' : View (undisturbed policy) (Option PayoutId)}
  {p q : Payout} {id : PayoutId} {hash reason : String}

/-- Some requests later that have written nothing and in which no attempt has failed. -/
structure Goes (v v' : View (undisturbed policy) (Option PayoutId)) : Prop where
  own : v'.own = v.own
  untouched : Untouched v.own v.state v'.state
  failing : Failing v'.past → Failing v.past

theorem Heard.goes {r : Request} {a : interface.Answer r} {s' : Shared} (h : Heard v r a s')
    (hfailed : isFailedCall ⟨r, a⟩ = false) : Goes v ⟨s', v.own, v.past ++ [⟨r, a⟩]⟩ where
  own := rfl
  untouched := h.untouched
  failing hfailing := (failing_append hfailing).resolve_right (by simp [hfailed])

theorem Holds.goes (h : Holds v p) (hv : Goes v v') : Holds v' p where
  own := hv.own ▸ h.own
  found := (hv.untouched.same p.id h.own).trans h.found
  legal := h.legal

theorem works_now : (custody policy).Works now (fun o v' => Goes v v' ∧
    ((∃ t, o = .ok t ∧ ⟨.now, t⟩ ∈ v'.past ∧ ReadAt v'.state.log t) ∨
      o = .error .crash ∧ ReadEarly v'.past)) v := by
  rw [Engine.works_now]
  refine asks_quiet rfl fun (t : Instant) s' h => ⟨h.goes rfl, ?_⟩
  cases hreading : t.reading? with
  | none =>
      have hearly : t.seconds < 0 := Instant.reading?_eq_none_iff.mp hreading
      exact .inr ⟨rfl, t, by simp, hearly⟩
  | some now =>
      obtain ⟨-, rfl⟩ := Instant.reading?_eq_some_iff.mp hreading
      exact .inl ⟨t, rfl, by simp, h.logged⟩

theorem works_publish {e : Event} :
    (custody policy).Works (publish e) (fun o v' => Goes v v' ∧ o = .ok ()) v := by
  rw [Engine.works_publish]
  exact asks_quiet rfl fun _ _ h => ⟨h.goes rfl, rfl⟩

theorem works_load (hown : Owns v.own id) :
    (custody policy).Works (load id) (fun o v' => Goes v v' ∧
      ((∃ p, o = .ok p ∧ p.id = id ∧ Holds v' p ∧ HasRead v'.past p) ∨
        v'.state.store.find? id = none ∧ ∃ e, o = .error (.error e))) v := by
  unfold load
  rw [works_bind, works_store]
  refine asks_quiet rfl ?_
  intro (a : Except Error (Option Payout)) s' h
  obtain ⟨b, hfault, hanswer⟩ := h.answered
  obtain ⟨tokens, hkept⟩ := h.kept
  have hfind : a = .ok (s'.store.find? id) :=
    (Prod.mk.inj (Behaviour.answer_plain hfault rfl hanswer)).1.symm
  subst hfind
  have hgoes : Goes v ⟨s', v.own, v.past ++ [⟨.store (.get id), .ok (s'.store.find? id)⟩]⟩ :=
    h.goes rfl
  cases hp : s'.store.find? id with
  | none =>
      rw [hp] at hgoes
      exact works_fail.mpr ⟨hgoes, .inr ⟨hp, _, rfl⟩⟩
  | some p =>
      rw [hp] at hgoes
      have hid := MemoryStore.find?_id hp
      refine works_pure.mpr ⟨hgoes, .inl ⟨p, rfl, hid, ?_, p, by simp [hid], rfl⟩⟩
      exact ⟨hid ▸ hown, hid ▸ hp, hkept.legal p (MemoryStore.mem_of_find? hp)⟩

theorem works_saveIf {T : Transition} (h : Holds v p) (hstart : T.StartsFrom p.status)
    (happly : T.apply p = some q) (hfits : Fits policy v.state.log p T) :
    (custody policy).Works (store (.saveIf q p.status)) (fun o v' => o = .ok true ∧
      Won v p q v'.state ∧ v'.own = v.own ∧ v'.past = v.past ++ [wonSwap q p.status]) v := by
  rw [works_store]
  exact asks_saveIf h hstart happly hfits fun _ hwon => ⟨rfl, hwon, rfl, rfl⟩

theorem Won.holds (h : Won v p q v'.state) (hown : v'.own = v.own) (hid : q.id = p.id)
    (hp : Owns v.own p.id) : Holds v' q where
  own := by rwa [hown, hid]
  found := h.found
  legal := h.legal

/-- What succeeds or crashes at once is not tried again. -/
theorem works_persist_once {α : Type} {act : Nat → Work α} {n tries : Nat}
    {Q : Outcome α → View (undisturbed policy) (Option PayoutId) → Prop}
    (h : (custody policy).Works (act n) (fun o v' =>
      ((∃ a, o = .ok a) ∧ Q o v') ∨ o = .error .crash ∧ Q (.error .crash) v') v) :
    (custody policy).Works (persist act n (tries + 1)) Q v := by
  unfold persist
  rw [works_bind, works_attempt]
  refine h.imp ?_
  rintro o v' (⟨⟨a, rfl⟩, hQ⟩ | ⟨rfl, hQ⟩)
  · exact works_pure.mpr hQ
  · exact hQ

theorem works_bookFailure (h : Holds v p) (hread : HasRead v.past p)
    (hstatus : p.status = .processing) :
    (custody policy).Works (bookFailure policy p reason) (fun _ v' =>
      v'.own = v.own ∧ Counted policy p.id v'.past) v := by
  unfold bookFailure
  rw [works_bind]
  refine works_now.with_past.imp ?_
  rintro _ v₁ ⟨⟨hv₁, ⟨t, rfl, ht, hclock⟩ | ⟨rfl, hearly⟩⟩, hpast₁⟩
  swap
  · exact ⟨hv₁.own, .inr (.inr hearly)⟩
  dsimp only
  rw [works_bind, works_ofOutcome]
  cases hfailed : p.recordFailure? reason policy t with
  | none =>
      obtain ⟨q, hmem, hmax⟩ := hread.mono hpast₁
      refine ⟨hv₁.own, .inr (.inl ⟨t, q, ht, hmem, fun hschedules => ?_⟩)⟩
      rw [hmax] at hschedules
      obtain ⟨q, hq⟩ : ∃ q, p.recordFailure? reason policy t = some q :=
        h.legal.budgeted.exists_recordFailure? hstatus hschedules
      rw [hfailed] at hq
      cases hq
  | some failed =>
      have hid : failed.id = p.id :=
        (Transition.sameOrigin_apply (T := .failure reason policy t) hfailed).id
      have hterminal : failed.status = .retryScheduled ∨ failed.status = .failed := by
        obtain ⟨count, -, ⟨-, due, rfl⟩ | ⟨-, rfl⟩⟩ := Payout.recordFailure?_eq_some hfailed
        · exact .inl rfl
        · exact .inr rfl
      have hswap := works_saveIf (T := .failure reason policy t) (h.goes hv₁) hstatus hfailed
        ⟨rfl, hclock⟩
      rw [hstatus] at hswap
      dsimp only [Outcome.ofInRange]
      rw [works_bind]
      refine hswap.imp ?_
      rintro _ v₂ ⟨rfl, -, hown₂, hpast₂⟩
      have hcounted : Counted policy p.id v₂.past := by
        rw [hpast₂]
        exact .inl ⟨failed, hid, hterminal, by simp⟩
      dsimp only
      rw [if_pos rfl, works_bind]
      refine works_publish.with_past.imp ?_
      rintro _ v₃ ⟨⟨hv₃, rfl⟩, hpast₃⟩
      exact works_pure.mpr ⟨hv₃.own.trans (hown₂.trans hv₁.own), hcounted.mono hpast₃⟩

theorem works_recordFailure (hown : Owns v.own id) :
    (custody policy).Works (recordFailure policy id reason) (fun _ v' =>
      (∃ p, v.state.store.find? id = some p ∧ p.status = .processing) →
        Counted policy id v'.past) v := by
  unfold recordFailure
  rw [works_bind]
  refine (works_load hown).imp ?_
  rintro _ v₁ ⟨hv₁, ⟨p, rfl, rfl, hp, hread⟩ | ⟨hnone, e, rfl⟩⟩
  · dsimp only
    split
    · rename_i hstatus
      exact (works_bookFailure hp hread hstatus).imp fun _ _ hbooked _ => hbooked.2
    · rename_i hstatus
      rw [works_pure]
      rintro ⟨q, hq, hprocessing⟩
      rw [← hv₁.untouched.same p.id hown, hp.found] at hq
      exact absurd (Option.some.inj hq ▸ hprocessing) hstatus
  · rintro ⟨q, hq, -⟩
    rw [← hv₁.untouched.same id hown, hnone] at hq
    cases hq

theorem works_failAttempt {e : Error} (h : Holds v p) (hread : HasRead v.past p)
    (hstatus : p.status = .processing) :
    (custody policy).Works (failAttempt policy p e) (fun _ v' =>
      v'.own = v.own ∧ Counted policy p.id v'.past) v := by
  unfold failAttempt
  rw [works_bind]
  refine (works_bookFailure h hread hstatus).imp ?_
  rintro (e | _) v₁ hbooked
  · exact hbooked
  · exact works_pure.mpr hbooked

theorem works_recordSubmission (h : Holds v p) (hstatus : p.status = .processing) :
    (custody policy).Works (recordSubmission p hash) (fun o v' => v'.own = v.own ∧
      ((∃ submitted, o = .ok submitted ∧ submitted.id = p.id ∧ submitted.status = .processing ∧
          submitted.maxRetries = p.maxRetries ∧ Holds v' submitted ∧
          (Failing v'.past → Failing v.past)) ∨
        o = .error .crash ∧ ReadEarly v'.past)) v := by
  unfold recordSubmission
  rw [works_bind]
  refine works_now.imp ?_
  rintro _ v₁ ⟨hv₁, ⟨t, rfl, -⟩ | hcrash⟩
  swap
  · obtain ⟨rfl, hearly⟩ := hcrash
    exact ⟨hv₁.own, .inr ⟨rfl, hearly⟩⟩
  have hheld := h.goes hv₁
  have hswap := works_saveIf (T := .submission hash t) hheld hstatus rfl trivial
  rw [hstatus] at hswap
  dsimp only
  rw [works_bind, works_attempt]
  refine works_persist_once (hswap.imp ?_)
  rintro _ v₂ ⟨rfl, hwon, hown₂, hpast₂⟩
  refine .inl ⟨⟨true, rfl⟩, works_pure.mpr ⟨hown₂.trans hv₁.own, .inl ⟨_, rfl, rfl, hstatus, rfl,
    hwon.holds hown₂ rfl hheld.own, fun hfailing => hv₁.failing ?_⟩⟩⟩
  rw [hpast₂] at hfailing
  exact failing_of_append_wonSwap hfailing

theorem works_writeCompletion {receipt : TransferReceipt} {tries : Nat} (h : Holds v p)
    (hstatus : p.status = .processing) :
    (custody policy).Works (writeCompletion p.id receipt p (tries + 1)) (fun o v' =>
      v'.own = v.own ∧ (((∃ done, o = .ok (some done)) ∧ (Failing v'.past → Failing v.past)) ∨
        o = .error .crash ∧ ReadEarly v'.past)) v := by
  unfold writeCompletion
  rw [if_neg (by rw [hstatus]; decide)]
  rw [works_bind]
  refine works_now.imp ?_
  rintro _ v₁ ⟨hv₁, ⟨t, rfl, -⟩ | hcrash⟩
  swap
  · obtain ⟨rfl, hearly⟩ := hcrash
    exact ⟨hv₁.own, .inr ⟨rfl, hearly⟩⟩
  dsimp only
  rw [works_bind]
  refine (works_saveIf (T := .completion receipt.transactionRef receipt.ledgerRef t) (h.goes hv₁)
      (.inl hstatus) rfl hstatus).imp ?_
  rintro _ v₂ ⟨rfl, -, hown₂, hpast₂⟩
  refine works_pure.mpr ⟨hown₂.trans hv₁.own, .inl ⟨⟨_, rfl⟩, fun hfailing => hv₁.failing ?_⟩⟩
  rw [hpast₂] at hfailing
  exact failing_of_append_wonSwap hfailing

theorem works_complete {receipt : TransferReceipt} (h : Holds v p)
    (hstatus : p.status = .processing) :
    (custody policy).Works (complete p receipt) (fun o v' => v'.own = v.own ∧
      (((∃ won, o = .ok won) ∧ (Failing v'.past → Failing v.past)) ∨
        o = .error .crash ∧ ReadEarly v'.past)) v := by
  -- The first round of tries decides, since it succeeds or crashes.
  have hround : (custody policy).Works (do
      let current ← if 0 = 0 then pure p else load p.id
      writeCompletion p.id receipt current writeAttempts) (fun o v' =>
        v'.own = v.own ∧ (((∃ done, o = .ok (some done)) ∧ (Failing v'.past → Failing v.past)) ∨
          o = .error .crash ∧ ReadEarly v'.past)) v :=
    works_writeCompletion h hstatus
  unfold complete
  rw [works_bind]
  refine works_persist_once (hround.imp ?_)
  rintro _ v₁ ⟨hown₁, ⟨⟨done, rfl⟩, hfailing₁⟩ | ⟨rfl, hearly⟩⟩
  · refine .inl ⟨⟨_, rfl⟩, ?_⟩
    dsimp only
    rw [works_bind]
    refine works_publish.imp ?_
    rintro _ v₂ ⟨hv₂, rfl⟩
    exact ⟨hv₂.own.trans hown₁, .inl ⟨⟨_, rfl⟩, fun h => hfailing₁ (hv₂.failing h)⟩⟩
  · exact .inr ⟨rfl, hown₁, .inr ⟨rfl, hearly⟩⟩

/-- How an execution may end: its failed attempt is counted, or it has crashed while the payout is
processing, or no attempt has failed. -/
inductive Attempted (policy : RetryPolicy) (id : PayoutId) (o : Outcome Unit)
    (v : View (undisturbed policy) (Option PayoutId)) : Prop
  | counted (counted : Counted policy id v.past)
  | crashed {p : Payout} (id_eq : p.id = id) (held : Holds v p) (status : p.status = .processing)
      (crash : o = .error .crash)
  | clean (clean : ¬ Failing v.past) (ok : o = .ok ())

theorem works_submit (h : Holds v p) (hown : some p.id ∈ v.own) (hfresh : Fresh v.state p.id) :
    (custody policy).Works (transfer (.submit (requestOf p))) (fun o v' => Holds v' p ∧
      v'.own = v.own ∧ (Failing v'.past → Failing v.past ∨ ∃ e, o = .error e)) v := by
  rw [works_transfer]
  refine asks_submit hown hfresh rfl ?_
  intro o s' _ hsame
  refine ⟨⟨h.own, (hsame p.id h.own).trans h.found, h.legal⟩, rfl, fun hfailing => ?_⟩
  refine (failing_append hfailing).imp_right fun hfailed => ?_
  cases o with
  | ok hash => cases hfailed
  | error e => exact ⟨e, rfl⟩

theorem works_awaitConfirmation (h : Holds v p) :
    (custody policy).Works (transfer (.awaitConfirmation hash)) (fun o v' => Holds v' p ∧
      v'.own = v.own ∧ (Failing v'.past → Failing v.past ∨ ∃ e, o = .error e)) v := by
  rw [works_transfer]
  refine asks_quiet rfl ?_
  intro o s' hheard
  refine ⟨⟨h.own, (hheard.untouched.same p.id h.own).trans h.found, h.legal⟩, rfl,
    fun hfailing => ?_⟩
  refine (failing_append hfailing).imp_right fun hfailed => ?_
  cases o with
  | ok receipt => cases hfailed
  | error e => exact ⟨e, rfl⟩

theorem works_load_fresh (howns : Owns v.own id) (hfresh : Fresh v.state id) :
    (custody policy).Works (load id) (fun o v' => Goes v v' ∧ Fresh v'.state id ∧
      ∃ p, o = .ok p ∧ p.id = id ∧ Holds v' p ∧ HasRead v'.past p ∧ p.status = .processing) v := by
  refine (works_load howns).imp ?_
  rintro _ v' ⟨hv, hloaded⟩
  have hfresh' := hfresh.untouched hv.untouched howns
  obtain ⟨q, hq, hstatus⟩ := hfresh'.found
  rcases hloaded with ⟨p, rfl, rfl, hp, hread⟩ | ⟨hnone, -⟩
  · rw [hp.found] at hq
    obtain rfl := Option.some.inj hq
    exact ⟨hv, hfresh', p, rfl, rfl, hp, hread, hstatus⟩
  · rw [hnone] at hq
    cases hq

theorem works_confirmed {receipt : TransferReceipt} (h : Holds v p)
    (hstatus : p.status = .processing) (hclean : ¬ Failing v.past) :
    (custody policy).Works (do let _ ← complete p receipt)
      (fun o v' => v'.own = v.own ∧ Attempted policy p.id o v') v := by
  rw [works_bind]
  refine (works_complete h hstatus).imp ?_
  rintro _ v' ⟨hown, ⟨⟨won, rfl⟩, hfailing⟩ | ⟨rfl, hearly⟩⟩
  · exact works_pure.mpr ⟨hown, .clean (fun h => hclean (hfailing h)) rfl⟩
  · exact ⟨hown, .counted (.inr (.inr hearly))⟩

theorem works_execute (hown : v.own = {some id}) (hfresh : Fresh v.state id)
    (hclean : ¬ Failing v.past) :
    (custody policy).Works (execute policy id)
      (fun o v' => v'.own = v.own ∧ Attempted policy id o v') v := by
  have howns : Owns v.own id := .inr (hown ▸ Multiset.mem_singleton_self _)
  unfold execute
  rw [works_bind]
  refine (works_load_fresh howns hfresh).imp ?_
  rintro _ v₁ ⟨hv₁, hfresh₁, p, rfl, rfl, hp, hread₁, hstatus⟩
  obtain ⟨attempt, hattempt⟩ := hp.legal.budgeted.exists_attempt? hstatus
  dsimp only
  rw [if_neg (by simp [hstatus]), hattempt]
  have hown₁ : some p.id ∈ v₁.own := by
    rw [hv₁.own, hown]
    exact Multiset.mem_singleton_self _
  rw [works_bind, works_ofOutcome, works_bind, works_attempt]
  refine (works_submit hp hown₁ hfresh₁).with_past.imp ?_
  rintro ((e | _) | hash) v₂ ⟨⟨hp₂, hown₂, hfailing₂⟩, hpast₂⟩
  · refine (works_failAttempt hp₂ (hread₁.mono hpast₂) hstatus).imp fun _ _ hcounted => ?_
    exact ⟨hcounted.1.trans (hown₂.trans hv₁.own), .counted hcounted.2⟩
  · exact ⟨hown₂.trans hv₁.own, .crashed rfl hp₂ hstatus rfl⟩
  have hclean₂ : ¬ Failing v₂.past := fun h =>
    (hfailing₂ h).elim (fun h => hclean (hv₁.failing h)) (by simp)
  dsimp only
  rw [works_bind]
  refine (works_recordSubmission hp₂ hstatus).with_past.imp ?_
  rintro _ v₃ ⟨⟨hown₃, hrecorded⟩, hpast₃⟩
  have hown₃ : v₃.own = v.own := hown₃.trans (hown₂.trans hv₁.own)
  rcases hrecorded with ⟨submitted, rfl, hid, hstatus₃, hmax₃, hp₃, hfailing₃⟩ | ⟨rfl, hearly₃⟩
  swap
  · exact ⟨hown₃, .counted (.inr (.inr hearly₃))⟩
  dsimp only
  rw [works_bind, works_attempt]
  refine (works_awaitConfirmation hp₃).with_past.imp ?_
  rintro ((e | _) | receipt) v₄ ⟨⟨hp₄, hown₄, hfailing₄⟩, hpast₄⟩
  · obtain ⟨q, hmem, hmax⟩ := hread₁.mono (hpast₂.trans (hpast₃.trans hpast₄))
    have hread₄ : HasRead v₄.past submitted := ⟨q, hid ▸ hmem, hmax.trans hmax₃.symm⟩
    refine (works_failAttempt hp₄ hread₄ hstatus₃).imp fun _ _ hcounted => ?_
    exact ⟨hcounted.1.trans (hown₄.trans hown₃), .counted (hid ▸ hcounted.2)⟩
  · exact ⟨hown₄.trans hown₃, .crashed hid hp₄ hstatus₃ rfl⟩
  have hclean₄ : ¬ Failing v₄.past := fun h =>
    (hfailing₄ h).elim (fun h => hclean₂ (hfailing₃ h)) (by simp)
  refine (works_confirmed hp₄ hstatus₃ hclean₄).imp ?_
  rintro o v₅ ⟨hown₅, hattempted⟩
  exact ⟨hown₅.trans (hown₄.trans hown₃), hid ▸ hattempted⟩

theorem works_supervise (hown : v.own = {some id}) (hfresh : Fresh v.state id)
    (hclean : ¬ Failing v.past) :
    (custody policy).Works (supervise policy id)
      (fun _ v' => Failing v'.past → Counted policy id v'.past) v := by
  rw [works_supervise_iff]
  refine (works_execute hown hfresh hclean).imp ?_
  rintro ((e | _) | _) v₁ ⟨hown₁, hattempted⟩
  · cases hattempted with
    | counted hcounted => exact fun _ => hcounted
    | crashed _ _ _ crash => cases crash
    | clean _ ok => cases ok
  · have hcounts : Counted policy id v₁.past ∨
        ∃ p, v₁.state.store.find? id = some p ∧ p.status = .processing := by
      cases hattempted with
      | counted hcounted => exact .inl hcounted
      | crashed id_eq held status => exact .inr ⟨_, id_eq ▸ held.found, status⟩
      | clean _ ok => cases ok
    have howns : Owns v₁.own id := by
      rw [hown₁, hown]
      exact .inr (Multiset.mem_singleton_self _)
    refine (works_recordFailure howns).with_past.imp ?_
    intro o v₂ ⟨hrecorded, hpast⟩
    have hcounted : Counted policy id v₂.past :=
      hcounts.elim (fun hcounted => hcounted.mono hpast) hrecorded
    rcases o with (e | _) | _
    all_goals exact fun _ => hcounted
  · cases hattempted with
    | counted hcounted => exact fun _ => hcounted
    | crashed _ _ _ crash => cases crash
    | clean hclean _ => exact fun hfailing => absurd hfailing hclean

theorem works_recover (hown : Owns v.own id) :
    (custody policy).Works (recover policy id) (fun _ v' => v'.own = v.own) v := by
  unfold recover
  rw [works_bind]
  refine (works_load hown).imp ?_
  rintro _ v₁ ⟨hv₁, ⟨p, rfl, rfl, hp, hread⟩ | ⟨-, e, rfl⟩⟩
  swap
  · exact hv₁.own
  dsimp only
  split
  · exact works_pure.mpr hv₁.own
  rename_i hstatus
  rw [not_not] at hstatus
  split
  · exact (works_bookFailure hp hread hstatus).imp fun _ _ hbooked => hbooked.1.trans hv₁.own
  rename_i hash _
  have hlookup : (custody policy).Works (transfer (.lookup hash)) (fun _ v' => Goes v₁ v') v₁ :=
    works_transfer.mpr (asks_quiet rfl fun a s' h => h.goes rfl)
  rw [works_bind]
  refine hlookup.with_past.imp ?_
  rintro (e | ledger | result | _) v₂ ⟨hv₂, hpast₂⟩
  · exact hv₂.own.trans hv₁.own
  · dsimp only
    rw [works_bind]
    refine (works_complete (hp.goes hv₂) hstatus).imp ?_
    have hown₂ := hv₂.own.trans hv₁.own
    rintro _ v₃ ⟨hown₃, ⟨⟨won, rfl⟩, -⟩ | ⟨rfl, -⟩⟩
    · exact works_pure.mpr (hown₃.trans hown₂)
    · exact hown₃.trans hown₂
  · exact (works_bookFailure (hp.goes hv₂) (hread.mono hpast₂) hstatus).imp fun _ _ hbooked =>
      hbooked.1.trans (hv₂.own.trans hv₁.own)
  · exact (works_bookFailure (hp.goes hv₂) (hread.mono hpast₂) hstatus).imp fun _ _ hbooked =>
      hbooked.1.trans (hv₂.own.trans hv₁.own)

theorem owns_of_eq (hown : v.own = {none}) (id : PayoutId) : Owns v.own id :=
  .inl (hown ▸ Multiset.mem_singleton_self _)

theorem works_createPayout {new : NewPayout} (hown : v.own = {none}) :
    (custody policy).Works (createPayout policy new) (fun _ _ => True) v := by
  unfold createPayout
  refine Works.andThen (R := fun _ v₁ => v₁ = v) (works_ofOutcome.mpr rfl) ?_
  rintro _ v - rfl
  have hdraw : (custody policy).Works freshId (fun o v' => ∀ id, o = .ok id → v'.own = {none} ∧
      id ∈ v'.state.drawn ∧ v'.state.store.find? id = none) v := by
    rw [works_freshId]
    refine asks_quiet rfl ?_
    rintro id s' h _ ⟨⟩
    exact ⟨hown, h.drawn _ (List.mem_singleton_self _)⟩
  refine Works.andThen hdraw ?_
  intro id v₁ _ hid
  obtain ⟨hown₁, hdrawn, hfree⟩ := hid id rfl
  refine Works.andThen works_now ?_
  rintro t v₂ - ⟨hv₂, -⟩
  refine Works.andThen (R := fun _ _ => True) (works_store.mpr (asks_create
    (hv₂.own.trans hown₁) ?_ ?_ (Payout.legal_ofNew ..) rfl fun _ _ => trivial))
    fun _ _ _ _ => trivial
  · exact (hv₂.untouched.same id (owns_of_eq hown₁ id)).trans hfree
  · exact hv₂.untouched.drawn.subset hdrawn

theorem works_dispatch {rest : Multiset (Option PayoutId)} {token : Option PayoutId}
    (hown : v.own = token ::ₘ rest) (htoken : token = none ∨ token = some id)
    (hfresh : Fresh v.state id) :
    (custody policy).Works (dispatch id) (fun o v' => o = .ok () ∧ v'.own = rest ∧
      Untouched rest v.state v'.state) v := by
  rw [Engine.works_dispatch]
  exact asks_dispatch hown htoken hfresh fun _ huntouched => ⟨rfl, rfl, huntouched⟩

theorem Won.fresh {s' : Shared} (h : Won v p q s') (hne : p.status ≠ .processing)
    (hstatus : q.status = .processing) : Fresh s' q.id where
  found := ⟨q, h.found, hstatus⟩
  unsent := h.unsent hne hstatus

theorem works_reopen {α : Type} {T : Transition} {won lost : Work α} (hown : v.own = {none})
    (h : Holds v p) (hstart : T.StartsFrom p.status) (happly : T.apply p = some q)
    (hfits : Fits policy v.state.log p T) (hne : p.status ≠ .processing)
    (hstatus : q.status = .processing)
    (hwon : ∀ v', v'.own = {none} → Fresh v'.state q.id →
      (custody policy).Works won (fun _ _ => True) v') :
    (custody policy).Works (do if ← store (.saveIf q p.status) then won else lost)
      (fun _ _ => True) v := by
  refine Works.andThen (works_saveIf h hstart happly hfits) ?_
  rintro b v₁ - ⟨hb, hwon₁, hown₁, -⟩
  obtain rfl := Except.ok.inj hb
  exact hwon v₁ (hown₁.trans hown) (hwon₁.fresh hne hstatus)

theorem works_claimPayout {submissionRef recipient : String} (hown : v.own = {none}) :
    (custody policy).Works (claimPayout submissionRef recipient) (fun _ _ => True) v := by
  unfold claimPayout
  have hread : (custody policy).Works (store (.findBySubmission submissionRef))
      (fun o v' => v'.own = {none} ∧ ∀ p, o = .ok (some p) → Holds v' p) v := by
    rw [works_store]
    refine asks_quiet rfl ?_
    intro (a : Except Error (Option Payout)) s' h
    refine ⟨hown, fun p hp => ?_⟩
    obtain ⟨b, hfault, hanswer⟩ := h.answered
    obtain ⟨tokens, hkept⟩ := h.kept
    have hfind : a = .ok (s'.store.findSubmission? submissionRef) :=
      (Prod.mk.inj (Behaviour.answer_plain hfault rfl hanswer)).1.symm
    subst hfind
    have hmem := MemoryStore.mem_of_findSubmission? (Except.ok.inj hp)
    exact ⟨owns_of_eq hown p.id, MemoryStore.find?_of_mem hmem, hkept.legal p hmem⟩
  refine Works.andThen hread ?_
  rintro (_ | p) v₁ - ⟨hown₁, hp⟩
  · exact trivial
  have hheld := hp p rfl
  dsimp only
  split
  · exact trivial
  split
  · exact trivial
  refine Works.andThen works_now ?_
  rintro t v₂ - ⟨hv₂, -⟩
  refine Works.andThen works_ofExcept ?_
  rintro claimed v₃ - ⟨rfl, hclaimed⟩
  have happly : (Transition.claim t).apply p = some claimed := by
    rw [Transition.apply, hclaimed claimed rfl]
    rfl
  obtain ⟨hstatus, rfl⟩ := Payout.markClaimed_eq_ok (hclaimed claimed rfl)
  rw [← hstatus]
  refine works_reopen (T := .claim t) (hv₂.own.trans hown₁) (hheld.goes hv₂) hstatus happly
    trivial (by simp [hstatus]) rfl ?_
  intro v₄ hown₄ hfresh
  exact Works.andThen (works_dispatch hown₄ (.inl rfl) hfresh) fun _ _ _ _ => trivial

theorem works_retryPayout (hown : v.own = {none}) :
    (custody policy).Works (retryPayout policy id) (fun _ _ => True) v := by
  unfold retryPayout
  rw [works_bind]
  refine (works_load (owns_of_eq hown id)).imp ?_
  rintro _ v₁ ⟨hv₁, ⟨p, rfl, rfl, hp, -⟩ | ⟨-, e, rfl⟩⟩
  swap
  · exact trivial
  refine Works.andThen works_now ?_
  rintro t v₂ - ⟨hv₂, -⟩
  refine Works.andThen works_ofExcept ?_
  rintro reset v₃ - ⟨rfl, hreset⟩
  have happly : (Transition.reset policy.defaultMaxRetries t).apply p = some reset := by
    rw [Transition.apply, hreset reset rfl]
    rfl
  obtain ⟨hstatus, rfl⟩ := Payout.resetForRetry_eq_ok (hreset reset rfl)
  rw [← hstatus]
  refine works_reopen (T := .reset policy.defaultMaxRetries t) (hv₂.own.trans (hv₁.own.trans hown))
    (hp.goes hv₂) hstatus happly rfl (by simp [hstatus]) rfl ?_
  intro v₄ hown₄ hfresh
  exact Works.andThen (works_dispatch hown₄ (.inl rfl) hfresh) fun _ _ _ _ => trivial

theorem works_recoverEach {ps : List Payout} (hown : v.own = {none}) :
    (custody policy).Works (recoverEach policy ps) (fun _ v' => v'.own = {none}) v := by
  induction ps generalizing v with
  | nil => exact works_pure.mpr hown
  | cons p ps ih =>
      unfold recoverEach
      have hrecover : (custody policy).Works (recover policy p.id).attempt
          (fun _ v' => v'.own = {none}) v :=
        ((works_recover (owns_of_eq hown p.id)).attempt).imp fun _ _ hown' => hown'.trans hown
      refine hrecover.bind ?_ fun _ _ _ h => h
      intro settled v₁ _ hown₁
      refine (ih hown₁).bind ?_ fun _ _ _ h => h
      intro count v₂ _ hown₂
      split
      all_goals exact works_pure.mpr hown₂

theorem works_recoverStuck {config : SchedulerConfig} {t : Instant} (hown : v.own = {none}) :
    (custody policy).Works (recoverStuck policy config t) (fun _ v' => v'.own = {none}) v := by
  unfold recoverStuck
  refine Works.bind (R := fun _ v₁ => v₁.own = {none}) (works_ofOutcome.mpr hown) ?_
    fun _ _ _ h => h
  intro before v₁ _ hown₁
  refine Works.bind (R := fun _ v₂ => v₂.own = {none})
    (works_store.mpr (asks_quiet rfl fun _ _ _ => hown₁)) ?_ fun _ _ _ h => h
  exact fun ps v₂ _ hown₂ => works_recoverEach hown₂

/-- A record that a sweep was shown as due, in the sweep's custody. -/
structure Due (t : Instant) (v : View (undisturbed policy) (Option PayoutId)) (p : Payout) :
    Prop where
  held : Holds v p
  status : p.status = .retryScheduled
  due : p.nextRetryAt.any (·.ble t) = true
  shown : ShownDue v.state.log t p

theorem works_requeueOne {t : Instant} {report : SweepReport}
    {rest : Multiset (Option PayoutId)} (hown : v.own = some p.id ::ₘ rest) (h : Due t v p) :
    (custody policy).Works (requeueOne t p report) (fun o v' => (∃ report', o = .ok report') ∧
      v'.own = rest ∧ v.state.log <+: v'.state.log ∧
      ∀ id, id ≠ p.id → Owns rest id → v'.state.store.find? id = v.state.store.find? id) v := by
  unfold requeueOne
  split
  · rename_i e hrequeue
    rw [Payout.requeue, if_pos h.status] at hrequeue
    cases hrequeue
  rename_i requeued hrequeue
  have happly : (Transition.requeue t).apply p = some requeued := by
    rw [Transition.apply, hrequeue]
    rfl
  obtain ⟨-, rfl⟩ := Payout.requeue_eq_ok hrequeue
  have hswap := works_saveIf (T := .requeue t) h.held h.status happly ⟨h.due, h.shown⟩
  rw [h.status] at hswap
  rw [works_bind, works_attempt]
  refine hswap.imp ?_
  rintro _ v₁ ⟨rfl, hwon, hown₁, -⟩
  dsimp only
  rw [works_bind]
  refine (works_dispatch (hown₁.trans hown) (.inr rfl) (hwon.fresh (by simp [h.status]) rfl)).imp ?_
  rintro _ v₂ ⟨rfl, hown₂, huntouched⟩
  rw [works_pure]
  refine ⟨⟨_, rfl⟩, hown₂, hwon.log.trans huntouched.log, fun id hne howns => ?_⟩
  rw [huntouched.same id howns]
  exact hwon.others id hne (hown ▸ howns.of_le (Multiset.le_cons_self ..))

theorem works_requeueEach {t : Instant} {ps : List Payout} {report : SweepReport}
    (hown : v.own = batch ps 0) (hnodup : (ps.map Payout.id).Nodup)
    (hdue : ∀ p ∈ ps, Due t v p) :
    (custody policy).Works (requeueEach t ps report) (fun _ _ => True) v := by
  induction ps generalizing v report with
  | nil => exact trivial
  | cons p ps ih =>
      unfold requeueEach
      obtain ⟨hp, hps⟩ := List.nodup_cons.mp hnodup
      rw [works_bind]
      refine (works_requeueOne (hown.trans batch_cons) (hdue p List.mem_cons_self)).imp ?_
      rintro _ v₁ ⟨⟨report', rfl⟩, hown₁, hlog, hothers⟩
      refine ih hown₁ hps fun q hq => ?_
      have hq' := hdue q (List.mem_cons_of_mem p hq)
      have howns : Owns v₁.own q.id := by
        rw [hown₁]
        exact .inr (mem_batch hq)
      have hne : q.id ≠ p.id := fun hid => hp (hid ▸ List.mem_map_of_mem hq)
      exact ⟨⟨howns, (hothers q.id hne (hown₁ ▸ howns)).trans hq'.held.found, hq'.held.legal⟩,
        hq'.status, hq'.due, hq'.shown.mono hlog⟩

theorem works_findDue {t : Instant} {limit : UInt32} (hown : v.own = {none}) :
    (custody policy).Works (store (.findDue .retryScheduled t limit))
      (fun o v' => ∀ ps, o = .ok ps → v'.own = batch ps 0 ∧
        (ps.map Payout.id).Nodup ∧ ∀ p ∈ ps, Due t v' p) v := by
  have hanswered : ∀ (a : Except Error (List Payout)) s',
      Heard v (.store (.findDue .retryScheduled t limit)) a s' →
        ∃ kept : MemoryStore, kept.rows.Perm s'.store.rows ∧
          a = .ok (kept.findDue .retryScheduled t limit) := by
    intro a s' h
    obtain ⟨b, hfault, hanswer⟩ := h.answered
    exact Behaviour.answer_batch hfault hanswer
  rw [works_store]
  refine asks_heard batchTokens rfl ?_ ?_
  · intro others (a : Except Error (List Payout)) s' h hexclusive
    rw [hown] at hexclusive
    obtain rfl := hexclusive.eq_zero
    obtain ⟨kept, -, rfl⟩ := hanswered a s' h
    rw [add_zero]
    exact exclusive_batch MemoryStore.findDue_ids_nodup
  · intro (a : Except Error (List Payout)) s' h ps hps
    obtain ⟨kept, hperm, rfl⟩ := hanswered a s' h
    obtain rfl : kept.findDue .retryScheduled t limit = ps := Except.ok.inj hps
    obtain ⟨tokens, hkept⟩ := h.kept
    refine ⟨rfl, MemoryStore.findDue_ids_nodup, fun p hp => ?_⟩
    obtain ⟨hmem, hstatus⟩ := MemoryStore.mem_findDue hp
    rw [hperm.mem_iff] at hmem
    obtain ⟨e, he, hexchange⟩ := h.logged
    exact ⟨⟨.inr (mem_batch hp), MemoryStore.find?_of_mem hmem, hkept.legal p hmem⟩, hstatus,
      MemoryStore.due_of_mem_findDue hp, e, he, _, _, hexchange, hp⟩

theorem works_sweep {config : SchedulerConfig} (hown : v.own = {none}) :
    (custody policy).Works (sweep policy config) (fun _ _ => True) v := by
  unfold sweep
  rw [works_bind]
  refine works_now.imp ?_
  rintro _ v₁ ⟨hv₁, ⟨t, rfl, -⟩ | ⟨rfl, -⟩⟩
  swap
  · exact trivial
  refine Works.andThen (works_recoverStuck (hv₁.own.trans hown)) ?_
  intro recovered v₂ _ hown₂
  refine Works.andThen (works_findDue hown₂) ?_
  intro due v₃ _ h
  obtain ⟨hown₃, hnodup, hdue⟩ := h due rfl
  exact works_requeueEach hown₃ hnodup hdue

theorem adequate (policy : RetryPolicy) : (custody policy).Adequate where
  initial := {
    exclusive := by simp [Exclusive]
    current := rfl
    orderly := orderly_nil
    legal := by simp [Shared.empty, MemoryStore.empty]
    drawn := by simp [Shared.empty, MemoryStore.empty] }
  opens := by
    intro op idle s total hopens hidle hholds
    rw [Bool.and_eq_true] at hopens
    obtain rfl := hidle hopens.2
    exact ⟨{none}, .inl ⟨hopens.1, rfl⟩, { hholds with exclusive := by simp [Exclusive] }⟩
  secure := by
    rintro op s own (⟨hservice, rfl⟩ | ⟨id, rfl, rfl, hfresh⟩)
    · have hworks : (custody policy).Works (op.work policy) (fun _ _ => True) ⟨s, {none}, []⟩ := by
        cases op with
        | create new => exact works_createPayout rfl
        | claim submissionRef recipient => exact works_claimPayout rfl
        | retry id => exact works_retryPayout rfl
        | sweep config => exact works_sweep rfl
        | execute _ | dispatch _ | recover _ | recordFailure _ _ => cases hservice
      refine Secure.imp hworks ?_
      rintro _ _ - id rfl
      cases hservice
    · refine Secure.imp (works_supervise rfl hfresh (by simp [Failing])) ?_
      rintro _ _ hcounts _ ⟨⟩
      exact hcounts

end custody

end Disburse.Engine
