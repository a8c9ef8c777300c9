import Disburse.Proofs.Engine.Conduct

namespace Disburse.Engine

open Disburse.Code

variable {past past' past'' : List (Exchange interface)}

/-- More exchanges, which announce no completion, and what notice they leave outstanding. -/
structure Leaves (outstanding : Option Notice) (past past' : List (Exchange interface)) :
    Prop where
  grows : past <+: past'
  settled : owed past' = outstanding
  silent : announcements past' = announcements past

/-- A past to which nothing was added that calls for a notice. -/
abbrev Continues (past past' : List (Exchange interface)) : Prop :=
  Leaves none past past'

/-- More exchanges, which leave no notice outstanding and announce at most the completion of one
payout. -/
structure Concerns (id : PayoutId) (past past' : List (Exchange interface)) : Prop where
  grows : past <+: past'
  settled : owed past' = none
  news : ∀ e ∈ announcements past', e ∈ announcements past ∨ e.id = id

theorem Continues.refl (howed : owed past = none) : Continues past past where
  grows := List.prefix_refl past
  settled := howed
  silent := rfl

theorem Leaves.trans {first second : Option Notice} (h : Leaves first past past')
    (h' : Leaves second past' past'') : Leaves second past past'' where
  grows := h.grows.trans h'.grows
  settled := h'.settled
  silent := h'.silent.trans h.silent

theorem Leaves.subset {outstanding : Option Notice} (h : Leaves outstanding past past') :
    past ⊆ past' :=
  h.grows.subset

theorem leaves_append {outstanding : Option Notice} {x : Exchange interface}
    (hdue : Notice.due? x = outstanding) (hsilent : announced? x.request = none) :
    Leaves outstanding past (past ++ [x]) where
  grows := List.prefix_append ..
  settled := (owed_append ..).trans hdue
  silent := by simp [hsilent]

theorem Leaves.concerns {id : PayoutId} (h : Continues past past') :
    Concerns id past past' where
  grows := h.grows
  settled := h.settled
  news _ he := .inl (h.silent ▸ he)

theorem Concerns.of_continues {id : PayoutId} (h : Continues past past')
    (h' : Concerns id past' past'') : Concerns id past past'' where
  grows := h.grows.trans h'.grows
  settled := h'.settled
  news e he := h.silent ▸ h'.news e he

theorem Concerns.of_publish {id : PayoutId} {e : Event} (he : e.id = id) :
    Concerns id past (past ++ [⟨.publish e, ()⟩]) where
  grows := List.prefix_append ..
  settled := owed_append ..
  news e' he' := by
    rw [announcements_append, List.mem_append] at he'
    refine he'.imp_right fun hnew => ?_
    cases e with
    | processed => exact List.mem_singleton.mp hnew ▸ he
    | failed => cases hnew

namespace conduct

variable {op : Operation} {α β : Type} {p : Payout} {id : PayoutId}

theorem heeds_store {c : StoreCall} {Q : Outcome c.Value → List (Exchange interface) → Prop} :
    (conduct op).Heeds (store c) Q past ↔ (none = owed past ∧ Proper op past (.store c)) ∧
      ∀ a : c.Answer, Faithful ⟨.store c, a⟩ → Q (.ofExcept a) (past ++ [⟨.store c, a⟩]) :=
  Iff.rfl

theorem heeds_transfer {c : TransferCall}
    {Q : Outcome c.Value → List (Exchange interface) → Prop} :
    (conduct op).Heeds (transfer c) Q past ↔ (none = owed past ∧ Proper op past (.transfer c)) ∧
      ∀ o : Outcome c.Value, Faithful ⟨.transfer c, o⟩ → Q o (past ++ [⟨.transfer c, o⟩]) :=
  Iff.rfl

theorem heeds_publish {e : Event} {Q : Outcome Unit → List (Exchange interface) → Prop} :
    (conduct op).Heeds (publish e) Q past ↔
      (Notice.given? (.publish e) = owed past ∧ Proper op past (.publish e)) ∧
      ∀ u : Unit, Faithful ⟨.publish e, u⟩ → Q (.ok u) (past ++ [⟨.publish e, u⟩]) :=
  Iff.rfl

theorem heeds_dispatch {Q : Outcome Unit → List (Exchange interface) → Prop} :
    (conduct op).Heeds (dispatch id) Q past ↔
      (some (.execution id) = owed past ∧ Proper op past (.dispatch id)) ∧
      ∀ u : Unit, Faithful ⟨.dispatch id, u⟩ → Q (.ok u) (past ++ [⟨.dispatch id, u⟩]) :=
  Iff.rfl

theorem heeds_now (howed : owed past = none) :
    (conduct op).Heeds now (fun _ => Continues past) past := by
  constructor
  · constructor
    · exact howed.symm
    · exact trivial
  · intro _ _
    exact leaves_append rfl rfl

theorem heeds_freshId (howed : owed past = none) :
    (conduct op).Heeds freshId (fun _ => Continues past) past := by
  constructor
  · constructor
    · exact howed.symm
    · exact trivial
  · intro _ _
    exact leaves_append rfl rfl

theorem heeds_pause {n : Nat} (howed : owed past = none) :
    (conduct op).Heeds (pause n) (fun _ => Continues past) past := by
  constructor
  · constructor
    · exact howed.symm
    · exact trivial
  · intro _ _
    exact leaves_append rfl rfl

theorem heeds_read {c : StoreCall} (hread : c.isRead = true) (howed : owed past = none) :
    (conduct op).Heeds (store c) (fun o past' => Continues past past' ∧
      ∀ value, o = .ok value → ⟨.store c, .ok value⟩ ∈ past' ∧ Faithful ⟨.store c, .ok value⟩)
      past := by
  refine heeds_store.mpr ⟨⟨howed.symm, ?_⟩, fun a hfaithful => ⟨?_, ?_⟩⟩
  · cases c with
    | create _ | save _ | saveIf _ _ => cases hread
    | get _ | findBySubmission _ | findDue _ _ _ | findStale _ _ _ | list _ => exact trivial
  · cases c with
    | create _ | save _ | saveIf _ _ => cases hread
    | get _ | findBySubmission _ | findDue _ _ _ | findStale _ _ _ | list _ =>
        exact leaves_append rfl rfl
  · rintro value hvalue
    cases a with
    | error e => cases hvalue
    | ok value' =>
        obtain rfl : value' = value := Except.ok.inj hvalue
        exact ⟨by simp, hfaithful⟩

theorem heeds_saveIf {expected : Status} (howed : owed past = none)
    (hswap : Swappable past p expected) :
    (conduct op).Heeds (store (.saveIf p expected)) (fun o past' =>
      Leaves (if o = .ok true then Notice.ofWrite? p expected else none) past past' ∧
      (o = .ok true → wonSwap p expected ∈ past')) past := by
  refine heeds_store.mpr ⟨⟨howed.symm, hswap⟩, ?_⟩
  rintro (e | _ | _) -
  · exact ⟨leaves_append rfl rfl, fun h => nomatch h⟩
  · exact ⟨leaves_append rfl rfl, fun h => nomatch h⟩
  · exact ⟨leaves_append rfl rfl, fun _ => by simp [wonSwap]⟩

theorem heeds_quiet_saveIf {expected : Status} (howed : owed past = none)
    (hswap : Swappable past p expected) (hquiet : Notice.ofWrite? p expected = none) :
    (conduct op).Heeds (store (.saveIf p expected)) (fun o past' => Continues past past' ∧
      (o = .ok true → wonSwap p expected ∈ past')) past := by
  refine (heeds_saveIf howed hswap).imp fun _ _ h => ?_
  rwa [hquiet, ite_self] at h

theorem heeds_owed_dispatch (hop : op.dispatches = true)
    (howed : owed past = some (.execution id)) :
    (conduct op).Heeds (dispatch id) (fun _ => Continues past) past :=
  heeds_dispatch.mpr ⟨⟨howed.symm, hop⟩, fun _ _ => leaves_append rfl rfl⟩

theorem heeds_bind_continues {t : Work β} {f : β → Work α}
    {R : Outcome β → List (Exchange interface) → Prop} (ht : (conduct op).Heeds t R past)
    (hR : ∀ o past', R o past' → Continues past past')
    (hf : ∀ b past', R (.ok b) past' →
      (conduct op).Heeds (f b) (fun _ => Continues past') past') :
    (conduct op).Heeds (t >>= f) (fun _ => Continues past) past :=
  ht.bind (fun b past' h => (hf b past' h).imp fun _ _ h' => (hR _ past' h).trans h')
    fun _ past' h => hR _ past' h

theorem heeds_attempt_of {t : Work α} {P : List (Exchange interface) → Prop}
    {R : α → List (Exchange interface) → Prop}
    (h : (conduct op).Heeds t (fun o past' => P past' ∧ ∀ a, o = .ok a → R a past') past) :
    (conduct op).Heeds t.attempt
      (fun o past' => P past' ∧ ∀ a, o = .ok (.ok a) → R a past') past := by
  refine heeds_attempt.mpr (h.imp ?_)
  rintro ((e | _) | a) past' ⟨hP, hR⟩
  · exact ⟨hP, by simp⟩
  · exact ⟨hP, by simp⟩
  · exact ⟨hP, fun b hb => hR b (congrArg Except.ok (Except.ok.inj (Except.ok.inj hb)))⟩

theorem heeds_persist {act : Nat → Work α} {R : α → List (Exchange interface) → Prop}
    (howed : owed past = none)
    (hact : ∀ n past', Continues past past' → (conduct op).Heeds (act n)
      (fun o past'' => Continues past' past'' ∧ ∀ a, o = .ok a → R a past'') past')
    (tries n : Nat) :
    (conduct op).Heeds (persist act n tries)
      (fun o past' => Continues past past' ∧ ∀ a, o = .ok a → R a past') past := by
  suffices h : ∀ past', Continues past past' → (conduct op).Heeds (persist act n tries)
      (fun o past' => Continues past past' ∧ ∀ a, o = .ok a → R a past') past' from
    h past (.refl howed)
  induction tries generalizing n with
  | zero =>
      exact fun past' h => (hact n past' h).imp fun o past'' h' => ⟨h.trans h'.1, h'.2⟩
  | succ tries ih =>
      intro past' h
      refine (heeds_attempt_of (hact n past' h)).bind ?_ fun _ past'' h' =>
        ⟨h.trans h'.1, by simp⟩
      rintro (e | a) past'' ⟨hcontinues, hR⟩
      · exact (heeds_pause hcontinues.settled).bind
          (fun _ _ hpause => ih (n + 1) _ (h.trans (hcontinues.trans hpause)))
          fun _ _ hpause => ⟨h.trans (hcontinues.trans hpause), by simp⟩
      · exact heeds_pure.mpr ⟨h.trans hcontinues, fun b hb =>
          hR b (congrArg (Except.ok ∘ Except.ok) (Except.ok.inj hb))⟩

theorem heeds_load_exact (howed : owed past = none) :
    (conduct op).Heeds (load id) (fun o past' => ∃ a : Except Error (Option Payout),
      past' = past ++ [⟨.store (.get id), a⟩] ∧
      ∀ p, o = .ok p → a = .ok (some p) ∧ p.id = id) past := by
  unfold load
  refine Heeds.bind (R := fun (o : Outcome (Option Payout)) past' =>
    ∃ a : Except Error (Option Payout), past' = past ++ [⟨.store (.get id), a⟩] ∧
      ∀ p, o = .ok (some p) → a = .ok (some p) ∧ p.id = id)
    (heeds_store.mpr ⟨⟨howed.symm, trivial⟩, ?_⟩) ?_ ?_
  · rintro (e | found) hfaithful
    · exact ⟨_, rfl, fun p hp => nomatch hp⟩
    · refine ⟨_, rfl, fun p hp => ?_⟩
      obtain rfl : found = some p := Except.ok.inj hp
      exact ⟨rfl, hfaithful⟩
  · rintro (_ | p) past' ⟨a, hpast, hp⟩
    · exact heeds_fail.mpr ⟨a, hpast, by simp⟩
    · exact heeds_pure.mpr ⟨a, hpast, fun q hq => Except.ok.inj hq ▸ hp p rfl⟩
  · rintro e past' ⟨a, hpast, -⟩
    exact ⟨a, hpast, by simp⟩

theorem heeds_load (howed : owed past = none) :
    (conduct op).Heeds (load id) (fun o past' => Continues past past' ∧
      ∀ p, o = .ok p → p.id = id ∧ ⟨.store (.get id), .ok (some p)⟩ ∈ past') past := by
  refine (heeds_load_exact howed).imp ?_
  rintro o past' ⟨a, rfl, hp⟩
  refine ⟨leaves_append rfl rfl, fun p ho => ?_⟩
  obtain ⟨rfl, hid⟩ := hp p ho
  exact ⟨hid, by simp⟩

theorem heeds_bookFailure {q : Payout} {policy : RetryPolicy} {reason : String}
    (howed : owed past = none) (hp : Derives past q p) :
    (conduct op).Heeds (bookFailure policy p reason) (fun _ => Continues past) past := by
  unfold bookFailure
  refine heeds_bind_continues (heeds_now howed) (fun _ _ h => h) fun t past₁ h₁ => ?_
  cases hfailed : p.recordFailure? reason policy t with
  | none => exact Continues.refl h₁.settled
  | some failed =>
      obtain ⟨hid, hreason, hhash, hstatus⟩ : failed.id = p.id ∧
          failed.failureReason = some reason ∧ failed.submittedHash = none ∧
          (failed.status = .retryScheduled ∨ failed.status = .failed) := by
        obtain ⟨count, -, ⟨-, due, rfl⟩ | ⟨-, rfl⟩⟩ := Payout.recordFailure?_eq_some hfailed
        · exact ⟨rfl, rfl, rfl, .inl rfl⟩
        · exact ⟨rfl, rfl, rfl, .inr rfl⟩
      have hswap : Swappable past₁ failed .processing := by
        refine ⟨⟨q, (hp.mono h₁.subset).of_sameOrigin ?_ (.inr hhash)⟩, ?_, fun _ => ?_⟩
        · exact Transition.sameOrigin_apply (T := .failure reason policy t) hfailed
        · intro hcompleted
          rcases hstatus with hstatus | hstatus <;> cases hcompleted.symm.trans hstatus
        · rfl
      have hevent : failureEvent failed = .failed p.id failed.recipient reason := by
        simp [failureEvent, hid, hreason]
      have hnotice : Notice.ofWrite? failed .processing =
          some (.failure (.failed p.id failed.recipient reason)) := by
        rcases hstatus with hstatus | hstatus <;> simp [Notice.ofWrite?, hstatus, hevent]
      refine (heeds_saveIf h₁.settled hswap).bind ?_ fun _ _ h => h.1
      rintro (_ | _) past₂ ⟨h₂, -⟩
      · exact heeds_pure.mpr h₂
      · exact Heeds.bind (R := fun _ => Continues past₁)
          (heeds_publish.mpr ⟨⟨(h₂.settled.trans hnotice).symm, trivial⟩, fun _ _ =>
            h₂.trans (leaves_append rfl rfl)⟩)
          (fun _ _ h => heeds_pure.mpr h) fun _ _ h => h

theorem heeds_recordFailure {policy : RetryPolicy} {reason : String} (howed : owed past = none) :
    (conduct op).Heeds (recordFailure policy id reason) (fun _ => Continues past) past := by
  unfold recordFailure
  refine heeds_bind_continues (heeds_load howed) (fun _ _ h => h.1) ?_
  rintro p past₁ ⟨h₁, hp⟩
  split
  · exact heeds_bookFailure h₁.settled (.of_shown ⟨_, (hp p rfl).2, by simp [recordsIn]⟩)
  · exact heeds_pure.mpr (.refl h₁.settled)

theorem heeds_failAttempt {q : Payout} {policy : RetryPolicy} {e : Error}
    (howed : owed past = none) (hp : Derives past q p) :
    (conduct op).Heeds (failAttempt policy p e) (fun _ => Continues past) past := by
  unfold failAttempt
  exact heeds_bind_continues (heeds_bookFailure howed hp) (fun _ _ h => h)
    fun _ _ h => heeds_pure.mpr (.refl h.settled)

theorem heeds_recordSubmission {q : Payout} {hash : String} (howed : owed past = none)
    (hp : Derives past q p) (hstatus : p.status = .processing)
    (hsubmitted : submission (requestOf q) hash ∈ past) :
    (conduct op).Heeds (recordSubmission p hash) (fun o past' => Continues past past' ∧
      ∀ p', o = .ok p' → Derives past' q p' ∧ p'.id = p.id ∧ p'.status = .processing) past := by
  unfold recordSubmission
  refine (heeds_now howed).bind (fun t past₁ h₁ => ?_) fun _ _ h => ⟨h, by simp⟩
  have hderives : Derives past₁ q (p.markSubmitted hash t) :=
    ⟨hp.shown.mono h₁.subset,
      hp.origin.trans (Transition.sameOrigin_apply (T := .submission hash t) rfl),
      fun _ hhash => .inr (Option.some.inj hhash ▸ h₁.subset hsubmitted)⟩
  have hswap : Swappable past₁ (p.markSubmitted hash t) .processing := by
    refine ⟨⟨q, hderives⟩, fun h => ?_, fun h => ?_⟩
    · cases hstatus.symm.trans h
    · rcases h with h | h
      all_goals cases hstatus.symm.trans h
  have hquiet : Notice.ofWrite? (p.markSubmitted hash t) .processing = none := by
    simp [Notice.ofWrite?, Payout.markSubmitted, hstatus]
  refine Heeds.bind (heeds_attempt_of (R := fun _ _ => True)
    (heeds_persist (R := fun _ _ => True) h₁.settled ?_ ..)) ?_
    fun _ _ h => ⟨h₁.trans h.1, by simp⟩
  · intro n past₂ h₂
    exact (heeds_quiet_saveIf h₂.settled (hswap.mono h₂.subset) hquiet).imp
      fun _ _ h => ⟨h.1, fun _ _ => trivial⟩
  · rintro _ past₂ ⟨h₂, -⟩
    refine heeds_pure.mpr ⟨h₁.trans h₂, fun p' hp' => ?_⟩
    obtain rfl := Except.ok.inj hp'
    exact ⟨hderives.mono h₂.subset, rfl, hstatus⟩

/-- The record of a completion: completed by this transaction, and shown or written so by the
thread. -/
structure Completes (past : List (Exchange interface)) (id : PayoutId) (transactionRef : String)
    (p : Payout) : Prop where
  id_eq : p.id = id
  status : p.status = .completed
  transactionRef : p.transactionRef = some transactionRef
  source : Shown past p ∨ ∃ expected, wonSwap p expected ∈ past

theorem heeds_writeCompletion {receipt : TransferReceipt} {tries : Nat}
    (howed : owed past = none) (hid : p.id = id) (hp : ∃ q, Derives past q p)
    (hshown : p.status = .completed → Shown past p)
    (hconfirmed : Confirmed past id receipt.transactionRef receipt.ledgerRef) :
    (conduct op).Heeds (writeCompletion id receipt p tries) (fun o past' => Continues past past' ∧
      ∀ done, o = .ok (some done) → Completes past' id receipt.transactionRef done) past := by
  induction tries generalizing p past with
  | zero => exact heeds_fail.mpr ⟨.refl howed, by simp⟩
  | succ tries ih =>
      unfold writeCompletion
      split
      · rename_i hcompleted
        refine heeds_pure.mpr ⟨.refl howed, fun done hdone => ?_⟩
        split at hdone
        · rename_i href
          obtain rfl := Option.some.inj (Except.ok.inj hdone)
          exact ⟨hid, hcompleted, href, .inl (hshown hcompleted)⟩
        · cases hdone
      refine (heeds_now howed).bind (fun t past₁ h₁ => ?_) fun _ _ h => ⟨h, by simp⟩
      obtain ⟨q, hq⟩ := hp
      have hswap : Swappable past₁
          (p.markCompleted receipt.transactionRef receipt.ledgerRef t) p.status := by
        refine ⟨⟨q, (hq.mono h₁.subset).of_sameOrigin ?_ (.inr rfl)⟩, fun _ => ?_, fun h => ?_⟩
        · exact Transition.sameOrigin_apply
            (T := .completion receipt.transactionRef receipt.ledgerRef t) rfl
        · exact ⟨_, _, rfl, rfl, hid ▸ hconfirmed.mono h₁.subset⟩
        · rcases h with h | h
          all_goals cases h
      refine (heeds_quiet_saveIf h₁.settled hswap rfl).bind ?_
        fun _ _ h => ⟨h₁.trans h.1, by simp⟩
      rintro (_ | _) past₂ ⟨h₂, hwon⟩
      · refine (heeds_load h₂.settled).bind ?_ fun _ _ h => ⟨h₁.trans (h₂.trans h.1), by simp⟩
        rintro current past₃ ⟨h₃, hcurrent⟩
        obtain ⟨hid', hread⟩ := hcurrent current rfl
        have hshown' : Shown past₃ current := ⟨_, hread, by simp [recordsIn]⟩
        have h : Continues past past₃ := h₁.trans (h₂.trans h₃)
        exact (ih h₃.settled hid' ⟨current, .of_shown hshown'⟩ (fun _ => hshown')
          (hconfirmed.mono h.subset)).imp fun _ _ h' => ⟨h.trans h'.1, h'.2⟩
      · refine heeds_pure.mpr ⟨h₁.trans h₂, fun done hdone => ?_⟩
        obtain rfl := Option.some.inj (Except.ok.inj hdone)
        exact ⟨hid, rfl, rfl, .inr ⟨_, hwon rfl⟩⟩

theorem heeds_complete {receipt : TransferReceipt} (howed : owed past = none)
    (hp : ∃ q, Derives past q p) (hstatus : p.status = .processing)
    (hconfirmed : Confirmed past p.id receipt.transactionRef receipt.ledgerRef)
    (hsilent : ∀ e ∈ announcements past, e.id ≠ p.id) :
    (conduct op).Heeds (complete p receipt) (fun _ => Concerns p.id past) past := by
  unfold complete
  refine (heeds_persist (R := fun written past' => ∀ done, written = some done →
    Completes past' p.id receipt.transactionRef done) howed ?_ ..).bind ?_
    fun _ _ h => h.1.concerns
  · intro n past₁ h₁
    have hconfirmed₁ := hconfirmed.mono h₁.subset
    split
    · refine (heeds_writeCompletion h₁.settled rfl (hp.imp fun _ h => h.mono h₁.subset)
        (fun h => nomatch hstatus.symm.trans h) hconfirmed₁).imp fun _ _ h => ⟨h.1, ?_⟩
      exact fun a ha done hdone => h.2 done (hdone ▸ ha)
    · refine (heeds_load h₁.settled).bind ?_ fun _ _ h => ⟨h.1, by simp⟩
      rintro current past₂ ⟨h₂, hcurrent⟩
      obtain ⟨hid, hread⟩ := hcurrent current rfl
      have hshown : Shown past₂ current := ⟨_, hread, by simp [recordsIn]⟩
      refine (heeds_writeCompletion h₂.settled hid ⟨current, .of_shown hshown⟩ (fun _ => hshown)
        (hconfirmed₁.mono h₂.subset)).imp fun _ _ h => ⟨h₂.trans h.1, ?_⟩
      exact fun a ha done hdone => h.2 done (hdone ▸ ha)
  · rintro (_ | done) past₁ ⟨h₁, hdone⟩
    · exact heeds_pure.mpr h₁.concerns
    obtain ⟨hid, hcompleted, href, hsource⟩ := hdone _ rfl done rfl
    have hannounceable : Announceable past₁
        (.processed p.id done.recipient done.amount receipt.transactionRef)
        receipt.transactionRef :=
      ⟨done, hsource, hcompleted, href, by rw [hid], _, hid ▸ hconfirmed.mono h₁.subset⟩
    refine Heeds.bind (R := fun _ => Concerns p.id past)
      (heeds_publish.mpr ⟨⟨h₁.settled.symm, hannounceable, ?_⟩, fun _ _ =>
        .of_continues h₁ (.of_publish rfl)⟩)
      (fun _ _ h => heeds_pure.mpr h) fun _ _ h => h
    rw [h₁.silent]
    exact hsilent

theorem heeds_submit {q : Payout} (howed : owed past = none) (hop : op.executed? = some q.id)
    (hread : ⟨.store (.get q.id), .ok (some q)⟩ ∈ past) (hstatus : q.status = .processing)
    (hfirst : ∀ x ∈ past, isSubmission x = false) :
    (conduct op).Heeds (transfer (.submit (requestOf q))) (fun o past' => Continues past past' ∧
      ∀ hash, o = .ok hash → submission (requestOf q) hash ∈ past') past := by
  refine heeds_transfer.mpr ⟨⟨howed.symm, ⟨q, hop, hread, hstatus, rfl⟩, hfirst⟩, ?_⟩
  exact fun o _ => ⟨leaves_append rfl rfl, fun hash ho => by simp [submission, ho]⟩

theorem heeds_awaitConfirmation {hash : String} (howed : owed past = none) :
    (conduct op).Heeds (transfer (.awaitConfirmation hash)) (fun o past' =>
      Continues past past' ∧ ∀ receipt, o = .ok receipt → confirmation hash receipt ∈ past')
      past := by
  refine heeds_transfer.mpr ⟨⟨howed.symm, trivial⟩, fun o _ => ⟨leaves_append rfl rfl, ?_⟩⟩
  exact fun receipt ho => by simp [confirmation, ho]

theorem heeds_lookup {hash : String} (howed : owed past = none) :
    (conduct op).Heeds (transfer (.lookup hash)) (fun o past' => Continues past past' ∧
      ∀ ledger, o = .ok (.success ledger) → landing hash ledger ∈ past') past := by
  refine heeds_transfer.mpr ⟨⟨howed.symm, trivial⟩, fun o _ => ⟨leaves_append rfl rfl, ?_⟩⟩
  exact fun ledger ho => by simp [landing, ho]

theorem heeds_execute {policy : RetryPolicy} (hop : op.executed? = some id) :
    (conduct op).Heeds (execute policy id) (fun _ past' => owed past' = none) [] := by
  unfold execute
  refine (heeds_load_exact rfl).bind ?_ fun _ _ ⟨_, h, _⟩ => h ▸ owed_append ..
  rintro p past₁ ⟨a, hpast, hp⟩
  obtain ⟨rfl, rfl⟩ := hp p rfl
  -- Nothing was submitted before the record was read.
  have howed : owed past₁ = none := hpast ▸ owed_append ..
  have hfirst : ∀ x ∈ past₁, isSubmission x = false := by simp [hpast, isSubmission]
  have hsilent : announcements past₁ = [] := by simp [hpast, announced?]
  have hread : ⟨.store (.get p.id), .ok (some p)⟩ ∈ past₁ := by simp [hpast]
  split
  · exact heeds_pure.mpr howed
  rename_i hstatus
  rw [not_not] at hstatus
  have hshown : Shown past₁ p := ⟨_, hread, by simp [recordsIn]⟩
  cases hattempt : p.attempt? with
  | none => exact howed
  | some count =>
      refine (heeds_attempt_of (heeds_submit howed hop hread hstatus hfirst)).bind ?_
        fun _ _ h => h.1.settled
      rintro (e | hash) past₂ ⟨h₂, hsubmitted⟩
      · exact (heeds_failAttempt h₂.settled (.of_shown (hshown.mono h₂.subset))).imp
          fun _ _ h => h.settled
      refine (heeds_recordSubmission h₂.settled (.of_shown (hshown.mono h₂.subset)) hstatus
        (hsubmitted hash rfl)).bind ?_ fun _ _ h => h.1.settled
      rintro submitted past₃ ⟨h₃, hderives⟩
      obtain ⟨hderives, hid, hprocessing⟩ := hderives submitted rfl
      refine (heeds_attempt_of (heeds_awaitConfirmation h₃.settled)).bind ?_
        fun _ _ h => h.1.settled
      rintro (e | receipt) past₄ ⟨h₄, hconfirmed⟩
      · exact (heeds_failAttempt h₄.settled (hderives.mono h₄.subset)).imp
          fun _ _ h => h.settled
      have hsuccess : Confirmed past₄ submitted.id receipt.transactionRef receipt.ledgerRef :=
        .inl ⟨p, hash, hshown.mono (h₂.trans (h₃.trans h₄)).subset, hid.symm,
          (h₃.trans h₄).subset (hsubmitted hash rfl), hconfirmed receipt rfl⟩
      have hnews : announcements past₄ = [] := by
        rw [h₄.silent, h₃.silent, h₂.silent, hsilent]
      exact (heeds_complete h₄.settled ⟨p, hderives.mono h₄.subset⟩ hprocessing hsuccess
        (by simp [hnews])).bind (fun _ _ h => heeds_pure.mpr h.settled) fun _ _ h => h.settled

theorem heeds_supervise {policy : RetryPolicy} (hop : op.executed? = some id) :
    (conduct op).Heeds (supervise policy id) (fun _ past' => owed past' = none) [] := by
  rw [heeds_supervise_iff]
  refine (heeds_execute hop).imp ?_
  rintro ((e | _) | _) past₁ howed
  · exact howed
  · refine (heeds_recordFailure howed).imp ?_
    rintro ((e | _) | _) past₂ h₂
    all_goals exact h₂.settled
  · exact howed

theorem heeds_recover {policy : RetryPolicy} (howed : owed past = none)
    (hsilent : ∀ e ∈ announcements past, e.id ≠ id) :
    (conduct op).Heeds (recover policy id) (fun _ => Concerns id past) past := by
  unfold recover
  refine (heeds_load howed).bind ?_ fun _ _ h => h.1.concerns
  rintro p past₁ ⟨h₁, hp⟩
  obtain ⟨rfl, hread⟩ := hp p rfl
  have hshown : Shown past₁ p := ⟨_, hread, by simp [recordsIn]⟩
  split
  · exact heeds_pure.mpr h₁.concerns
  rename_i hstatus
  rw [not_not] at hstatus
  have hbook : ∀ {past₂ reason}, Continues past past₂ → Shown past₂ p →
      (conduct op).Heeds (bookFailure policy p reason) (fun _ => Concerns p.id past) past₂ :=
    fun h₂ hshown => (heeds_bookFailure h₂.settled (.of_shown hshown)).imp
      fun _ _ h => (h₂.trans h).concerns
  split
  · exact hbook h₁ hshown
  rename_i hash hhash
  refine (heeds_lookup h₁.settled).bind ?_ fun _ _ h => (h₁.trans h.1).concerns
  rintro (ledger | result | _) past₂ ⟨h₂, hlanding⟩
  · have hsuccess : Confirmed past₂ p.id hash ledger :=
      .inr ⟨p, hshown.mono h₂.subset, rfl, hhash, hlanding ledger rfl⟩
    have hnews : ∀ e ∈ announcements past₂, e.id ≠ p.id := by
      rwa [(h₁.trans h₂).silent]
    refine (heeds_complete h₂.settled ⟨p, .of_shown (hshown.mono h₂.subset)⟩ hstatus hsuccess
      hnews).bind (fun isCompleted past₃ h₃ => ?_) fun _ _ h => h.of_continues (h₁.trans h₂)
    exact heeds_pure.mpr (h₃.of_continues (h₁.trans h₂))
  · exact hbook (h₁.trans h₂) (hshown.mono h₂.subset)
  · exact hbook (h₁.trans h₂) (hshown.mono h₂.subset)

theorem heeds_createPayout {policy : RetryPolicy} {new : NewPayout} :
    (conduct op).Heeds (createPayout policy new) (fun _ past' => owed past' = none) [] := by
  unfold createPayout
  cases hvalid : new.validate with
  | error e => exact owed_nil
  | ok _ =>
      have hpositive : new.amount.IsPositive := by
        by_contra hnot
        simp [NewPayout.validate, hnot] at hvalid
      refine (heeds_freshId rfl).bind (fun id past₁ h₁ => ?_) fun _ _ h => h.settled
      refine (heeds_now h₁.settled).bind (fun t past₂ h₂ => ?_) fun _ _ h => h.settled
      refine Heeds.bind (R := fun _ past' => owed past' = none)
        (heeds_store.mpr ⟨⟨h₂.settled.symm, hpositive, rfl, rfl⟩, fun a _ => owed_append ..⟩)
        (fun _ _ h => heeds_pure.mpr h) fun _ _ h => h

theorem swappable_of_apply {T : Transition} {q : Payout} {expected : Status}
    (hshown : Shown past p) (happly : T.apply p = some q) (hstatus : q.status = .processing)
    (hhash : q.submittedHash = p.submittedHash) : Swappable past q expected where
  derives :=
    ⟨p, (Derives.of_shown hshown).of_sameOrigin (Transition.sameOrigin_apply happly) (.inl hhash)⟩
  completed h := nomatch hstatus.symm.trans h
  failed h := by
    rcases h with h | h
    all_goals cases hstatus.symm.trans h

theorem heeds_swap_dispatch {expected : Status} {t : Bool → Work α}
    (howed : owed past = none) (hswap : Swappable past p expected)
    (hstatus : p.status = .processing) (hexpected : expected ≠ .processing)
    (hwon : ∀ past', owed past' = some (.execution p.id) →
      (conduct op).Heeds (t true) (fun _ past' => owed past' = none) past')
    (hlost : ∀ past', owed past' = none →
      (conduct op).Heeds (t false) (fun _ past' => owed past' = none) past') :
    (conduct op).Heeds (do t (← store (.saveIf p expected)))
      (fun _ past' => owed past' = none) past := by
  have hnotice : Notice.ofWrite? p expected = some (.execution p.id) := by
    simp [Notice.ofWrite?, hstatus, hexpected]
  refine (heeds_saveIf howed hswap).bind ?_ fun _ _ h => h.1.settled
  rintro (_ | _) past' ⟨h, -⟩
  · exact hlost past' h.settled
  · exact hwon past' (h.settled.trans hnotice)

theorem heeds_claimPayout {submissionRef recipient : String} (hop : op.dispatches = true) :
    (conduct op).Heeds (claimPayout submissionRef recipient) (fun _ past' => owed past' = none)
      [] := by
  unfold claimPayout
  refine (heeds_read rfl rfl).bind ?_ fun _ _ h => h.1.settled
  rintro (_ | p) past₁ ⟨h₁, hp⟩
  · exact heeds_fail.mpr h₁.settled
  have hshown : Shown past₁ p := ⟨_, (hp _ rfl).1, by simp [recordsIn]⟩
  dsimp only
  split
  · exact heeds_fail.mpr h₁.settled
  split
  · exact heeds_fail.mpr h₁.settled
  refine (heeds_now h₁.settled).bind (fun t past₂ h₂ => ?_) fun _ _ h => h.settled
  cases hclaim : p.markClaimed t with
  | error e => exact h₂.settled
  | ok claimed =>
      have hclaimed := (Payout.markClaimed_eq_ok hclaim).2
      have hstatus : claimed.status = .processing := by rw [hclaimed]
      have hid : claimed.id = p.id := by rw [hclaimed]
      have happly : (Transition.claim t).apply p = some claimed := by
        rw [Transition.apply, hclaim]
        rfl
      refine heeds_swap_dispatch h₂.settled
        (swappable_of_apply (hshown.mono h₂.subset) happly hstatus (by rw [hclaimed])) hstatus
        (by decide) (fun past₃ howed => ?_) fun past₃ howed => heeds_fail.mpr howed
      exact (heeds_owed_dispatch hop (hid ▸ howed)).bind
        (fun _ _ h => heeds_pure.mpr h.settled) fun _ _ h => h.settled

theorem heeds_retryPayout {policy : RetryPolicy} (hop : op.dispatches = true) :
    (conduct op).Heeds (retryPayout policy id) (fun _ past' => owed past' = none) [] := by
  unfold retryPayout
  refine (heeds_load rfl).bind ?_ fun _ _ h => h.1.settled
  rintro p past₁ ⟨h₁, hp⟩
  obtain ⟨rfl, hread⟩ := hp p rfl
  have hshown : Shown past₁ p := ⟨_, hread, by simp [recordsIn]⟩
  refine (heeds_now h₁.settled).bind (fun t past₂ h₂ => ?_) fun _ _ h => h.settled
  cases hreset : p.resetForRetry policy.defaultMaxRetries t with
  | error e => exact h₂.settled
  | ok reset =>
      have hreset' := (Payout.resetForRetry_eq_ok hreset).2
      have hstatus : reset.status = .processing := by rw [hreset']
      have hid : reset.id = p.id := by rw [hreset']
      have happly : (Transition.reset policy.defaultMaxRetries t).apply p = some reset := by
        rw [Transition.apply, hreset]
        rfl
      refine heeds_swap_dispatch h₂.settled
        (swappable_of_apply (hshown.mono h₂.subset) happly hstatus (by rw [hreset'])) hstatus
        (by decide) (fun past₃ howed => ?_) fun past₃ howed => ?_
      · exact (heeds_owed_dispatch hop (hid ▸ howed)).bind
          (fun _ _ h => heeds_pure.mpr h.settled) fun _ _ h => h.settled
      · exact (heeds_load howed).bind (fun _ _ h => heeds_fail.mpr h.1.settled)
          fun _ _ h => h.1.settled

theorem heeds_recoverEach {policy : RetryPolicy} {ps : List Payout} (howed : owed past = none)
    (hnodup : (ps.map Payout.id).Nodup)
    (hsilent : ∀ e ∈ announcements past, e.id ∉ ps.map Payout.id) :
    (conduct op).Heeds (recoverEach policy ps) (fun _ past' => owed past' = none) past := by
  induction ps generalizing past with
  | nil => exact heeds_pure.mpr howed
  | cons p ps ih =>
      unfold recoverEach
      rw [List.map_cons, List.nodup_cons] at hnodup
      have hother : ∀ e ∈ announcements past, e.id ≠ p.id ∧ e.id ∉ ps.map Payout.id := by
        simpa using hsilent
      refine Heeds.bind (R := fun _ => Concerns p.id past) (heeds_attempt.mpr
        ((heeds_recover howed fun e he => (hother e he).1).imp ?_)) ?_ fun _ _ h => h.settled
      · rintro ((e | _) | settled) past₁ h₁
        all_goals exact h₁
      intro settled past₁ h₁
      refine (ih h₁.settled hnodup.2 fun e he => ?_).bind ?_ fun _ _ h => h
      · rcases h₁.news e he with hold | hid
        · exact (hother e hold).2
        · exact hid ▸ hnodup.1
      · intro count past₂ h₂
        split
        all_goals exact heeds_pure.mpr h₂

theorem heeds_recoverStuck {policy : RetryPolicy} {config : SchedulerConfig} {t : Instant}
    (howed : owed past = none) (hsilent : announcements past = []) :
    (conduct op).Heeds (recoverStuck policy config t) (fun _ past' => owed past' = none)
      past := by
  unfold recoverStuck
  cases hbefore : t.sub? config.stuckAfter with
  | none => exact howed
  | some before =>
      refine (heeds_read rfl howed).bind ?_ fun _ _ h => h.1.settled
      rintro ps past₁ ⟨h₁, hps⟩
      exact heeds_recoverEach h₁.settled (hps ps rfl).2 (by simp [h₁.silent, hsilent])

theorem heeds_requeueOne {t : Instant} {report : SweepReport} (hop : op.dispatches = true)
    (howed : owed past = none) (hshown : Shown past p) :
    (conduct op).Heeds (requeueOne t p report) (fun _ => Continues past) past := by
  unfold requeueOne
  split
  · exact heeds_pure.mpr (.refl howed)
  rename_i requeued hrequeue
  have hrequeued := (Payout.requeue_eq_ok hrequeue).2
  have hstatus : requeued.status = .processing := by rw [hrequeued]
  have happly : (Transition.requeue t).apply p = some requeued := by
    rw [Transition.apply, hrequeue]
    rfl
  have hswap : Swappable past requeued .retryScheduled :=
    swappable_of_apply hshown happly hstatus (by rw [hrequeued])
  have hnotice : Notice.ofWrite? requeued .retryScheduled = some (.execution p.id) := by
    simp [Notice.ofWrite?, hrequeued]
  refine Heeds.bind (R := fun o => Leaves
      (if o = .ok (.ok true) then some (.execution p.id) else none) past)
    (heeds_attempt.mpr ((heeds_saveIf howed hswap).imp ?_)) ?_ fun _ _ h => h
  · rintro ((e | _) | won) past₁ ⟨h₁, -⟩
    · exact h₁
    · exact h₁
    · cases won with
      | false => exact h₁
      | true => exact hnotice ▸ h₁
  · rintro (e | _ | _) past₁ h₁
    · exact heeds_pure.mpr h₁
    · exact heeds_pure.mpr h₁
    · exact (heeds_owed_dispatch hop h₁.settled).bind
        (fun _ _ h => heeds_pure.mpr (h₁.trans h)) fun _ _ h => h₁.trans h

theorem heeds_requeueEach {t : Instant} {ps : List Payout} {report : SweepReport}
    (hop : op.dispatches = true) (howed : owed past = none)
    (hshown : ∀ p ∈ ps, Shown past p) :
    (conduct op).Heeds (requeueEach t ps report) (fun _ past' => owed past' = none) past := by
  induction ps generalizing past report with
  | nil => exact heeds_pure.mpr howed
  | cons p ps ih =>
      unfold requeueEach
      refine (heeds_requeueOne hop howed (hshown p List.mem_cons_self)).bind
        (fun report' past₁ h₁ => ih h₁.settled fun q hq => ?_) fun _ _ h => h.settled
      exact (hshown q (List.mem_cons_of_mem p hq)).mono h₁.subset

theorem heeds_sweep {policy : RetryPolicy} {config : SchedulerConfig}
    (hop : op.dispatches = true) :
    (conduct op).Heeds (sweep policy config) (fun _ past' => owed past' = none) [] := by
  unfold sweep
  refine (heeds_now rfl).bind (fun t past₁ h₁ => ?_) fun _ _ h => h.settled
  refine (heeds_recoverStuck h₁.settled h₁.silent).bind (fun recovered past₂ howed => ?_)
    fun _ _ h => h
  refine (heeds_read rfl howed).bind ?_ fun _ _ h => h.1.settled
  rintro due past₃ ⟨h₃, hdue⟩
  exact heeds_requeueEach hop h₃.settled fun p hp => ⟨_, (hdue due rfl).1, hp⟩

theorem obeys_program (policy : RetryPolicy) (op : Operation) :
    (conduct op).Obeys (op.work policy).outcome (fun _ past => owed past = none) [] := by
  have hsilent : ∀ {id : PayoutId}, ∀ e ∈ announcements [], e.id ≠ id := by simp
  cases op with
  | create new => exact heeds_createPayout
  | claim submissionRef recipient => exact heeds_claimPayout rfl
  | retry id => exact heeds_retryPayout rfl
  | sweep config => exact heeds_sweep rfl
  | execute id => exact heeds_execute rfl
  | dispatch id => exact heeds_supervise rfl
  | recover id => exact (heeds_recover rfl hsilent).imp fun _ _ h => h.settled
  | recordFailure id reason => exact (heeds_recordFailure rfl).imp fun _ _ h => h.settled

end conduct

end Disburse.Engine
