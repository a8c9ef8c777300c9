import Disburse.Proofs.Engine.Copies

namespace Disburse.Engine

open Disburse.Machine Disburse.Machine.Discipline

variable {policy : RetryPolicy} {v v' v'' : View (concurrent policy) PayoutId} {p : Payout}
  {id : PayoutId}

/-- The records have moved on, and the thread has read nothing new. -/
structure Onward (v v' : View (concurrent policy) PayoutId) : Prop where
  evolves : Evolves v.state v'.state
  own : v'.own = v.own
  past : ∀ id, lastRead v'.past id = lastRead v.past id

theorem Onward.refl (v : View (concurrent policy) PayoutId) : Onward v v where
  evolves := .refl _
  own := rfl
  past _ := rfl

theorem Onward.trans (h : Onward v v') (h' : Onward v' v'') : Onward v v'' where
  evolves := h.evolves.trans h'.evolves
  own := h'.own.trans h.own
  past id := (h'.past id).trans (h.past id)

theorem Onward.of_asked {s : Shared} {x : Exchange interface} (hs : Evolves v.state s)
    (hx : recordsIn x = []) : Onward v ⟨s, v.own, v.past ++ [x]⟩ where
  evolves := hs
  own := rfl
  past id := by rw [lastRead_append, hx]; rfl

theorem Held.onward (h : Held v.state v.past p) (hv : Onward v v') :
    Held v'.state v'.past p :=
  h.of_evolves hv.evolves (hv.past p.id)

theorem Swaps.onward {expected : Status} (h : Swaps v.state v.past p expected)
    (hv : Onward v v') : Swaps v'.state v'.past p expected := by
  obtain ⟨T, copy, hread, hstems, hT⟩ := h
  exact ⟨T, copy, (hv.past p.id).trans hread, hstems.of_evolves hv.evolves, hT⟩

/-- The record of a payout has the time of its claim. -/
def Claimed (s : Shared) (id : PayoutId) : Prop :=
  ∃ row, s.store.find? id = some row ∧ row.claimedAt.isSome

theorem Claimed.of_evolves {s s' : Shared} (h : Claimed s id) (hs : Evolves s s') :
    Claimed s' id := by
  obtain ⟨row, hrow, hclaimed⟩ := h
  obtain ⟨row', hrow', hlead⟩ := hs id row hrow
  exact ⟨row', hrow', by rwa [hlead.claimedAt hclaimed]⟩

theorem Held.claimed {past : List (Exchange interface)} {s : Shared} (h : Held s past p)
    (hstatus : p.status ≠ .pending) : Claimed s p.id := by
  obtain ⟨copy, -, ⟨hlegal, row, hrow, hlead⟩, hp⟩ := h
  have hsame : p.id = copy.id ∧ p.status = copy.status := by
    rcases hp with rfl | ⟨-, hash, now, rfl⟩
    · exact ⟨rfl, rfl⟩
    · exact ⟨rfl, rfl⟩
  have hsome : copy.claimedAt.isSome := by
    rw [Option.isSome_iff_ne_none, Ne, hlegal.claimedAt_eq_none, ← hsame.2]
    exact hstatus
  exact ⟨row, hsame.1 ▸ hrow, by rwa [hlead.claimedAt hsome]⟩

theorem Held.swaps {s : Shared} {past : List (Exchange interface)} {T : Transition} {q : Payout}
    (h : Held s past p) (hfrom : T.StartsFrom p.status) (happly : T.apply p = some q)
    (hT : p.status = .processing →
      ∀ copy hash now, T.apply (copy.markSubmitted hash now) = T.apply copy) :
    Swaps s past q p.status := by
  obtain ⟨copy, hread, hstems, rfl | ⟨hstatus, hash, now, rfl⟩⟩ := h
  · rw [← (Transition.sameOrigin_apply happly).id] at hread
    exact ⟨T, p, hread, hstems, rfl, hfrom, happly⟩
  · rw [hT hstatus] at happly
    rw [show (copy.markSubmitted hash now).id = copy.id from rfl,
      ← (Transition.sameOrigin_apply happly).id] at hread
    exact ⟨T, copy, hread, hstems, rfl, hfrom, happly⟩

theorem Held.swaps_of_ne {s : Shared} {past : List (Exchange interface)} {T : Transition}
    {q : Payout} (h : Held s past p) (hfrom : T.StartsFrom p.status) (happly : T.apply p = some q)
    (hne : p.status ≠ .processing) : Swaps s past q p.status :=
  h.swaps hfrom happly fun hprocessing => absurd hprocessing hne

namespace copies

theorem works_quiet_now : (copies policy).Works now (fun _ v' => Onward v v') v := by
  rw [works_now]
  exact asks_quiet (by simp) (by simp) fun _ _ hs => .of_asked hs rfl

theorem works_quiet_publish {e : Event} :
    (copies policy).Works (publish e) (fun _ v' => Onward v v') v := by
  rw [works_publish]
  exact asks_quiet (by simp) (by simp) fun _ _ hs => .of_asked hs rfl

theorem works_quiet_dispatch :
    (copies policy).Works (dispatch id) (fun _ v' => Onward v v') v := by
  rw [works_dispatch]
  exact asks_quiet (by simp) (by simp) fun _ _ hs => .of_asked hs rfl

theorem works_quiet_transfer {c : TransferCall} :
    (copies policy).Works (transfer c) (fun _ v' => Onward v v') v := by
  rw [works_transfer]
  exact asks_quiet (by simp) (by simp) fun _ _ hs => .of_asked hs rfl

theorem works_saveIf {expected : Status} (hswap : Swaps v.state v.past p expected) :
    (copies policy).Works (store (.saveIf p expected)) (fun _ v' => Onward v v') v := by
  rw [works_store]
  exact asks_saveIf hswap fun _ _ hs => .of_asked hs rfl

/-- A record that was just read. -/
structure Loaded (v : View (concurrent policy) PayoutId) (id : PayoutId) (p : Payout) : Prop where
  held : Held v.state v.past p
  legal : p.Legal
  found : v.state.store.find? id = some p

theorem Loaded.id_eq (h : Loaded v id p) : p.id = id :=
  MemoryStore.find?_id h.found

theorem Loaded.status_ne_pending (h : Loaded v id p) (hclaimed : Claimed v.state id) :
    p.status ≠ .pending := by
  obtain ⟨row, hrow, hsome⟩ := hclaimed
  rw [h.found] at hrow
  obtain rfl := Option.some.inj hrow
  rw [Ne, ← h.legal.claimedAt_eq_none]
  exact Option.isSome_iff_ne_none.mp hsome

theorem works_load :
    (copies policy).Works (load id) (fun o v' => ∀ p, o = .ok p → Loaded v' id p) v := by
  unfold load
  refine Works.bind (R := fun (o : Outcome (Option Payout)) v' =>
    ∀ p, o = .ok (some p) → Loaded v' id p) (works_store.mpr ?_) ?_ ?_
  · refine asks_read rfl fun (a : Except Error (Option Payout)) s' hs hlegal ha p hp => ?_
    obtain ⟨b, hanswer⟩ := ha
    obtain ⟨-, rfl | ⟨e, rfl⟩⟩ := Behaviour.answer_lookup rfl rfl hanswer
    · have hfound : s'.store.find? id = some p := Except.ok.inj hp
      have hid := MemoryStore.find?_id hfound
      have hp' := hlegal p (MemoryStore.mem_of_find? hfound)
      refine ⟨⟨p, ?_, ⟨hp', p, hid ▸ hfound, .refl p⟩, .inl rfl⟩, hp', hfound⟩
      have hrecords : recordsIn ⟨.store (.get id), (s'.store.answer (.get id)).1⟩ = [p] := by
        show (s'.store.find? id).toList = [p]
        rw [hfound]
        rfl
      rw [lastRead_append, hrecords]
      simp
    · cases hp
  · rintro (_ | p) v' - hp
    · exact fun q hq => nomatch hq
    · exact works_pure.mpr fun q hq => Except.ok.inj hq ▸ hp p rfl
  · exact fun e v' _ _ p hp => nomatch hp

theorem works_bookFailure {reason : String} (h : Held v.state v.past p)
    (hstatus : p.status = .processing) :
    (copies policy).Works (bookFailure policy p reason) (fun _ _ => True) v := by
  unfold bookFailure
  refine Works.andThen works_quiet_now ?_
  intro t v₁ _ hv₁
  refine Works.andThen works_ofInRange ?_
  rintro failed v₂ - ⟨rfl, hfailed⟩
  have hswap : Swaps v₂.state v₂.past failed .processing := by
    rw [← hstatus]
    exact (h.onward hv₁).swaps (T := .failure reason policy t) hstatus (hfailed failed rfl)
      fun _ _ _ _ => rfl
  refine Works.andThen (works_saveIf hswap) ?_
  rintro (_ | _) v₃ - -
  · exact trivial
  · exact Works.andThen works_quiet_publish fun _ _ _ _ => trivial

theorem works_recordFailure {reason : String} :
    (copies policy).Works (recordFailure policy id reason) (fun _ _ => True) v := by
  unfold recordFailure
  refine Works.andThen works_load ?_
  intro p v₁ _ hp
  split
  · rename_i hstatus
    exact works_bookFailure (hp p rfl).held hstatus
  · exact trivial

theorem works_failAttempt {e : Error} (h : Held v.state v.past p)
    (hstatus : p.status = .processing) :
    (copies policy).Works (failAttempt policy p e) (fun _ _ => True) v := by
  unfold failAttempt
  exact Works.andThen (works_bookFailure h hstatus) fun _ _ _ _ => trivial

theorem works_recordSubmission {hash : String} (h : Held v.state v.past p)
    (hstatus : p.status = .processing) :
    (copies policy).Works (recordSubmission p hash) (fun o v' => ∀ q, o = .ok q →
      Held v'.state v'.past q ∧ q.status = .processing) v := by
  unfold recordSubmission
  refine Works.bind works_quiet_now ?_ fun _ _ _ _ _ hq => nomatch hq
  intro t v₁ _ hv₁
  have hsubmitted : Held v₁.state v₁.past (p.markSubmitted hash t) := by
    obtain ⟨copy, hread, hstems, rfl | ⟨hcopy, hash', t', rfl⟩⟩ := h.onward hv₁
    · exact ⟨p, hread, hstems, .inr ⟨hstatus, hash, t, rfl⟩⟩
    · exact ⟨copy, hread, hstems, .inr ⟨hcopy, hash, t, rfl⟩⟩
  have hswap : Swaps v₁.state v₁.past (p.markSubmitted hash t) .processing := by
    rw [← hstatus]
    exact (h.onward hv₁).swaps (T := .submission hash t) hstatus rfl fun _ _ _ _ => rfl
  refine Works.bind (R := fun _ v₂ => Onward v₁ v₂) (Works.attempt ?_) ?_
    fun _ _ _ _ _ hq => nomatch hq
  · refine works_persist (fun _ v₂ => Onward v₁ v₂) (fun _ v₂ => Onward v₁ v₂) ?_ ?_ _ 0 (.refl v₁)
    · intro n v₂ hv₂
      exact (works_saveIf (hswap.onward hv₂)).imp fun _ v₃ hv₃ =>
        ⟨hv₂.trans hv₃, fun _ _ => hv₂.trans hv₃⟩
    · intro n k v₂ hv₂
      exact asks_quiet (by simp) (by simp) fun _ _ hs => hv₂.trans (.of_asked hs rfl)
  · intro _ v₂ _ hv₂
    refine works_pure.mpr fun q hq => ?_
    obtain rfl := Except.ok.inj hq
    exact ⟨hsubmitted.onward hv₂, hstatus⟩

theorem works_writeCompletion {receipt : TransferReceipt} {tries : Nat}
    (h : Held v.state v.past p) (hid : p.id = id) (hstatus : p.status ≠ .pending) :
    (copies policy).Works (writeCompletion id receipt p tries) (fun _ _ => True) v := by
  induction tries generalizing p v with
  | zero => exact trivial
  | succ tries ih =>
      unfold writeCompletion
      split
      · exact trivial
      rename_i hcompleted
      refine Works.andThen works_quiet_now ?_
      intro t v₁ _ hv₁
      have hfrom : (Transition.completion receipt.transactionRef receipt.ledgerRef t).StartsFrom
          p.status := by
        cases hcase : p.status <;> simp_all [Transition.StartsFrom]
      refine Works.andThen (works_saveIf ((h.onward hv₁).swaps hfrom rfl fun _ _ _ _ => rfl)) ?_
      rintro (_ | _) v₂ hlater hv₂
      · refine Works.andThen works_load ?_
        intro current v₃ hlater₃ hcurrent
        have hloaded := hcurrent current rfl
        have hclaimed : Claimed v₂.state p.id :=
          (h.claimed hstatus).of_evolves (hv₁.trans hv₂).evolves
        exact ih hloaded.held hloaded.id_eq
          (hloaded.status_ne_pending (hid ▸ hclaimed.of_evolves hlater₃))
      · exact trivial

theorem works_complete {receipt : TransferReceipt} (h : Held v.state v.past p)
    (hstatus : p.status ≠ .pending) :
    (copies policy).Works (complete p receipt) (fun _ _ => True) v := by
  unfold complete
  refine Works.andThen (R := fun _ _ => True) ?_ ?_
  · refine works_persist
      (fun n v' => (n = 0 → Held v'.state v'.past p) ∧ Claimed v'.state p.id)
      (fun _ v' => Claimed v'.state p.id) ?_ ?_ _ 0 ⟨fun _ => h, h.claimed hstatus⟩
    · rintro n v₁ ⟨hheld, hclaimed⟩
      -- The first try starts from what the caller holds, and every other one reads it again.
      have htry : (copies policy).Works
          (do writeCompletion p.id receipt (← if n = 0 then pure p else load p.id) writeAttempts)
          (fun _ _ => True) v₁ := by
        split
        · rename_i hn
          exact works_writeCompletion (hheld hn) rfl hstatus
        · refine Works.andThen works_load ?_
          intro current v₂ hlater hcurrent
          have hloaded := hcurrent current rfl
          exact works_writeCompletion hloaded.held hloaded.id_eq
            (hloaded.status_ne_pending (hclaimed.of_evolves hlater))
      exact htry.with_later.imp fun _ _ h' => ⟨trivial, fun _ _ => hclaimed.of_evolves h'.2⟩
    · intro n k v₁ hclaimed
      exact asks_quiet (by simp) (by simp) fun _ _ hs => ⟨by simp, hclaimed.of_evolves hs⟩
  · rintro (_ | done) v₁ - -
    · exact trivial
    · exact Works.andThen works_quiet_publish fun _ _ _ _ => trivial

theorem works_execute : (copies policy).Works (execute policy id) (fun _ _ => True) v := by
  unfold execute
  refine Works.andThen works_load ?_
  intro p v₁ _ hp
  have hloaded := hp p rfl
  split
  · exact trivial
  rename_i hstatus
  rw [not_not] at hstatus
  refine Works.andThen (R := fun _ v₂ => Loaded v₂ id p) (works_ofOutcome.mpr hloaded) ?_
  intro request v₂ _ hloaded
  refine Works.andThen works_quiet_transfer.attempt ?_
  rintro (e | hash) v₂ - hv₂
  · exact works_failAttempt (hloaded.held.onward hv₂) hstatus
  refine Works.andThen (works_recordSubmission (hloaded.held.onward hv₂) hstatus) ?_
  intro submitted v₃ _ hsubmitted
  obtain ⟨hheld, hprocessing⟩ := hsubmitted submitted rfl
  refine Works.andThen works_quiet_transfer.attempt ?_
  rintro (e | receipt) v₄ - hv₄
  · exact works_failAttempt (hheld.onward hv₄) hprocessing
  · have hstatus' : submitted.status ≠ .pending := by simp [hprocessing]
    exact Works.andThen (works_complete (hheld.onward hv₄) hstatus') fun _ _ _ _ => trivial

theorem works_recover : (copies policy).Works (recover policy id) (fun _ _ => True) v := by
  unfold recover
  refine Works.andThen works_load ?_
  intro p v₁ _ hp
  have hloaded := hp p rfl
  split
  · exact trivial
  rename_i hstatus
  rw [not_not] at hstatus
  split
  · exact works_bookFailure hloaded.held hstatus
  refine Works.andThen works_quiet_transfer ?_
  rintro (ledger | result | _) v₂ - hv₂
  · have hstatus' : p.status ≠ .pending := by simp [hstatus]
    exact Works.andThen (works_complete (hloaded.held.onward hv₂) hstatus') fun _ _ _ _ => trivial
  · exact works_bookFailure (hloaded.held.onward hv₂) hstatus
  · exact works_bookFailure (hloaded.held.onward hv₂) hstatus

theorem works_supervise : (copies policy).Works (supervise policy id) (fun _ _ => True) v := by
  rw [works_supervise_iff]
  refine works_execute.imp ?_
  rintro ((e | _) | _) v₁ -
  · exact trivial
  · refine works_recordFailure.imp ?_
    rintro ((e | _) | _) v₂ -
    all_goals exact trivial
  · exact trivial

theorem works_createPayout {new : NewPayout} (hown : v.own = 0) :
    (copies policy).Works (createPayout policy new) (fun _ _ => True) v := by
  unfold createPayout
  refine Works.andThen (R := fun _ v₁ => v₁ = v) (works_ofOutcome.mpr rfl) ?_
  rintro _ _ - rfl
  refine Works.andThen (R := fun o v₁ => ∀ id, o = .ok id → v₁.own = {id}) (works_freshId.mpr ?_) ?_
  · refine asks_freshId fun drawn s' id hid => ?_
    obtain rfl := Except.ok.inj hid
    rw [hown]
    rfl
  intro id v₁ _ hid
  refine Works.andThen works_quiet_now ?_
  intro t v₂ _ hv₂
  have hown₂ : v₂.own = {id} := hv₂.own.trans (hid id rfl)
  exact Works.andThen (R := fun _ _ => True)
    (works_store.mpr (asks_create hown₂ (Payout.legal_ofNew ..) fun _ _ => trivial))
    fun _ _ _ _ => trivial

theorem works_claimPayout {submissionRef recipient : String} :
    (copies policy).Works (claimPayout submissionRef recipient) (fun _ _ => True) v := by
  unfold claimPayout
  refine Works.andThen (R := fun (o : Outcome (Option Payout)) v₁ =>
    ∀ p, o = .ok (some p) → Held v₁.state v₁.past p) (works_store.mpr ?_) ?_
  · refine asks_read rfl fun (a : Except Error (Option Payout)) s' hs hlegal ha p hp => ?_
    obtain ⟨b, hanswer⟩ := ha
    obtain ⟨-, rfl | ⟨e, rfl⟩⟩ := Behaviour.answer_lookup rfl rfl hanswer
    · have hfound : s'.store.findSubmission? submissionRef = some p := Except.ok.inj hp
      have hmem := MemoryStore.mem_of_findSubmission? hfound
      refine ⟨p, ?_, ⟨hlegal p hmem, p, MemoryStore.find?_of_mem hmem, .refl p⟩, .inl rfl⟩
      have hrecords : recordsIn ⟨.store (.findBySubmission submissionRef),
          (s'.store.answer (.findBySubmission submissionRef)).1⟩ = [p] := by
        show (s'.store.findSubmission? submissionRef).toList = [p]
        rw [hfound]
        rfl
      rw [lastRead_append, hrecords]
      simp
    · cases hp
  rintro (_ | p) v₁ - hp
  · exact trivial
  have hheld := hp p rfl
  dsimp only
  split
  · exact trivial
  split
  · exact trivial
  refine Works.andThen works_quiet_now ?_
  intro t v₂ _ hv₂
  refine Works.andThen works_ofExcept ?_
  rintro claimed v₃ - ⟨rfl, hclaimed⟩
  have hswap : Swaps v₃.state v₃.past claimed .pending := by
    have happly : (Transition.claim t).apply p = some claimed := by
      rw [Transition.apply, hclaimed claimed rfl]
      rfl
    have hstatus := (Payout.markClaimed_eq_ok (hclaimed claimed rfl)).1
    exact hstatus ▸
      (hheld.onward hv₂).swaps_of_ne (T := .claim t) hstatus happly (by simp [hstatus])
  refine Works.andThen (works_saveIf hswap) ?_
  rintro (_ | _) v₄ - -
  · exact trivial
  · exact Works.andThen works_quiet_dispatch fun _ _ _ _ => trivial

theorem works_retryPayout : (copies policy).Works (retryPayout policy id) (fun _ _ => True) v := by
  unfold retryPayout
  refine Works.andThen works_load ?_
  intro p v₁ _ hp
  refine Works.andThen works_quiet_now ?_
  intro t v₂ _ hv₂
  refine Works.andThen works_ofExcept ?_
  rintro reset v₃ - ⟨rfl, hreset⟩
  have hswap : Swaps v₃.state v₃.past reset .failed := by
    have happly : (Transition.reset policy.defaultMaxRetries t).apply p = some reset := by
      rw [Transition.apply, hreset reset rfl]
      rfl
    have hstatus := (Payout.resetForRetry_eq_ok (hreset reset rfl)).1
    exact hstatus ▸ ((hp p rfl).held.onward hv₂).swaps_of_ne
      (T := .reset policy.defaultMaxRetries t) hstatus happly (by simp [hstatus])
  refine Works.andThen (works_saveIf hswap) ?_
  rintro (_ | _) v₄ - -
  · exact Works.andThen works_load fun _ _ _ _ => trivial
  · exact Works.andThen works_quiet_dispatch fun _ _ _ _ => trivial

theorem works_recoverEach {ps : List Payout} :
    (copies policy).Works (recoverEach policy ps) (fun _ _ => True) v := by
  induction ps generalizing v with
  | nil => exact trivial
  | cons p ps ih =>
      unfold recoverEach
      refine Works.andThen works_recover.attempt ?_
      intro settled v₁ _ _
      refine Works.andThen ih ?_
      intro count v₂ _ _
      split
      all_goals exact trivial

theorem works_recoverStuck {config : SchedulerConfig} {t : Instant} :
    (copies policy).Works (recoverStuck policy config t) (fun _ _ => True) v := by
  unfold recoverStuck
  refine Works.andThen (R := fun _ _ => True) (works_ofOutcome.mpr trivial) ?_
  intro before v₁ _ _
  refine Works.andThen (R := fun _ _ => True)
    (works_store.mpr (asks_read rfl fun _ _ _ _ _ => trivial)) ?_
  exact fun ps v₂ _ _ => works_recoverEach

theorem works_requeueOne {t : Instant} {report : SweepReport} (h : Held v.state v.past p) :
    (copies policy).Works (requeueOne t p report) (fun _ v' => Onward v v') v := by
  unfold requeueOne
  split
  · exact works_pure.mpr (.refl v)
  rename_i requeued hrequeue
  have hstatus := (Payout.requeue_eq_ok hrequeue).1
  have hswap : Swaps v.state v.past requeued .retryScheduled := by
    have happly : (Transition.requeue t).apply p = some requeued := by
      rw [Transition.apply, hrequeue]
      rfl
    exact hstatus ▸ h.swaps_of_ne (T := .requeue t) hstatus happly (by simp [hstatus])
  refine Works.bind (works_saveIf hswap).attempt ?_ fun _ _ _ hv₁ => hv₁
  rintro (e | _ | _) v₁ - hv₁
  · exact works_pure.mpr hv₁
  · exact works_pure.mpr hv₁
  · exact Works.bind works_quiet_dispatch (fun _ _ _ hv₂ => works_pure.mpr (hv₁.trans hv₂))
      fun _ _ _ hv₂ => hv₁.trans hv₂

theorem works_requeueEach {t : Instant} {ps : List Payout} {report : SweepReport}
    (h : ∀ p ∈ ps, Held v.state v.past p) :
    (copies policy).Works (requeueEach t ps report) (fun _ _ => True) v := by
  induction ps generalizing v report with
  | nil => exact trivial
  | cons p ps ih =>
      unfold requeueEach
      refine Works.andThen (works_requeueOne (h p List.mem_cons_self)) ?_
      intro report' v₁ _ hv₁
      exact ih fun q hq => (h q (List.mem_cons_of_mem p hq)).onward hv₁

theorem works_sweep {config : SchedulerConfig} :
    (copies policy).Works (sweep policy config) (fun _ _ => True) v := by
  unfold sweep
  refine Works.andThen works_quiet_now ?_
  intro t v₁ _ _
  refine Works.andThen works_recoverStuck ?_
  intro recovered v₂ _ _
  refine Works.andThen (R := fun (o : Outcome (List Payout)) v₃ =>
    ∀ ps, o = .ok ps → ∀ p ∈ ps, Held v₃.state v₃.past p) (works_store.mpr ?_) ?_
  · refine asks_read rfl fun (a : Except Error (List Payout)) s' hs hlegal ha ps hps p hp => ?_
    obtain ⟨b, hanswer⟩ := ha
    obtain ⟨-, ⟨kept, hkept, rfl⟩ | ⟨e, rfl⟩⟩ := Behaviour.answer_read rfl hanswer
    · obtain rfl : kept.findDue .retryScheduled t config.batchSize = ps := Except.ok.inj hps
      have hmem := hkept.mem_iff.mp (MemoryStore.mem_findDue hp).1
      refine ⟨p, ?_, ⟨hlegal p hmem, p, MemoryStore.find?_of_mem hmem, .refl p⟩, .inl rfl⟩
      rw [lastRead_append]
      have hfind := find?_id_of_nodup MemoryStore.findDue_ids_nodup hp
      show ((kept.findDue .retryScheduled t config.batchSize).find? _).or _ = _
      rw [hfind]
      rfl
    · cases hps
  · exact fun ps v₃ _ hps => works_requeueEach (hps ps rfl)

theorem adequate (policy : RetryPolicy) : (copies policy).Adequate where
  initial := by
    constructor <;> simp [Shared.empty, MemoryStore.empty]
  opens _ _ hholds := ⟨0, rfl, by rwa [zero_add]⟩
  secure := by
    rintro op s own rfl
    refine Secure.imp (Q := fun _ _ => True) ?_ fun _ _ _ => trivial
    cases op with
    | create new => exact works_createPayout rfl
    | claim submissionRef recipient => exact works_claimPayout
    | retry id => exact works_retryPayout
    | sweep config => exact works_sweep
    | execute id => exact works_execute
    | dispatch id => exact works_supervise
    | recover id => exact works_recover
    | recordFailure id reason => exact works_recordFailure

variable {moves : List (concurrent policy).Move} {id : PayoutId}

theorem legal_of_find? (h : ((concurrent policy).run moves).state.store.find? id = some p) :
    p.Legal := by
  obtain ⟨reserved, hsound⟩ := (adequate policy).holds_run moves
  exact Sound.legal hsound p (MemoryStore.mem_of_find? h)

theorem exists_later (h : ((concurrent policy).run moves).state.store.find? id = some p)
    (more : List (concurrent policy).Move) :
    ∃ q, ((concurrent policy).run (moves ++ more)).state.store.find? id = some q ∧ p.LeadsTo q :=
  (adequate policy).later_run moves more id p h

end copies

end Disburse.Engine
