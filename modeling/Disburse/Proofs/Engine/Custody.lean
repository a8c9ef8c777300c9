import Disburse.Proofs.Concurrency.Lives
import Disburse.Proofs.Engine.Chapters
import Disburse.Proofs.Engine.Resubmission
import Disburse.Proofs.Payout.Schedule

/-!
Services one after the other, over a store that makes no errors, in runs that may be broken off.
While a payout is in the custody of a thread, nobody else touches its record, so that everything
that happens to a payout is in order.
-/

namespace Disburse.Engine

open Disburse.Machine Disburse.Machine.Discipline

/-- A behaviour of the store that is an error. -/
def Behaviour.isFault : Behaviour → Bool
  | .fail _ => true
  | .failAfter _ => true
  | _ => false

/-- One service operation after the other, over a store that makes no errors, with identifiers
that are drawn once. -/
abbrev undisturbed (policy : RetryPolicy) : Machine interface :=
  { machine policy true fun op idle => op.isService && idle with
    answer := fun b r s => if b.isFault then none else s.answer true b r }

theorem undisturbed_answer {policy : RetryPolicy} {b : Behaviour} {r : Request} {s s' : Shared}
    {a : interface.Answer r} (h : (undisturbed policy).answer b r s = some (a, s')) :
    b.isFault = false ∧ s.answer true b r = some (a, s') := by
  change (if b.isFault then none else s.answer true b r) = _ at h
  split at h
  · cases h
  · rename_i hfault
    exact ⟨Bool.not_eq_true _ ▸ hfault, h⟩

theorem Behaviour.answer_plain {b : Behaviour} {c : StoreCall} {s s' : MemoryStore} {a : c.Answer}
    (hfault : b.isFault = false) (hbatch : c.isBatch = false)
    (h : b.answer (.store c) s = some (a, s')) : s.answer c = (a, s') := by
  cases b with
  | plain => exact Option.some.inj h
  | shuffled rows =>
      rw [(Behaviour.answer_shuffled h).2.1] at hbatch
      cases hbatch
  | fail e | failAfter e => cases hfault
  | submitted _ | confirmed _ | found _ | clock _ | draw _ => cases h

theorem Behaviour.answer_batch {b : Behaviour} {c : StoreCall} {s s' : MemoryStore} {a : c.Answer}
    (hfault : b.isFault = false) (h : b.answer (.store c) s = some (a, s')) :
    ∃ kept : MemoryStore, kept.rows.Perm s.rows ∧ a = (kept.answer c).1 := by
  cases b with
  | plain => exact ⟨s, .refl _, (congrArg Prod.fst (Option.some.inj h)).symm⟩
  | shuffled rows => exact (Behaviour.answer_shuffled h).2.2
  | fail e | failAfter e => cases hfault
  | submitted _ | confirmed _ | found _ | clock _ | draw _ => cases h

/-- A submission or a confirmation ended in an error or a crash. -/
def isFailedCall (x : Exchange interface) : Bool :=
  match x with
  | ⟨.transfer (.submit _), .error _⟩ => true
  | ⟨.transfer (.awaitConfirmation _), .error _⟩ => true
  | _ => false

def Failing (past : List (Exchange interface)) : Prop :=
  ∃ x ∈ past, isFailedCall x = true

/-- A failed attempt was counted, unless the time of the next one could not be written or the clock
could not be read. -/
def Counted (policy : RetryPolicy) (id : PayoutId) (past : List (Exchange interface)) : Prop :=
  (∃ q, q.id = id ∧ (q.status = .retryScheduled ∨ q.status = .failed) ∧
    wonSwap q .processing ∈ past) ∨
  (∃ now p, ⟨.now, now⟩ ∈ past ∧ ⟨.store (.get id), .ok (some p)⟩ ∈ past ∧
    ¬ policy.Schedules p.maxRetries now) ∨
  ReadEarly past

/-- A thread has read a record of the payout that allows as many retries. -/
def HasRead (past : List (Exchange interface)) (p : Payout) : Prop :=
  ∃ q, ⟨.store (.get p.id), .ok (some q)⟩ ∈ past ∧ q.maxRetries = p.maxRetries

theorem HasRead.mono {past past' : List (Exchange interface)} {p : Payout} (h : HasRead past p)
    (hpast : past <+: past') : HasRead past' p := by
  obtain ⟨q, hmem, hmax⟩ := h
  exact ⟨q, hpast.subset hmem, hmax⟩

theorem Counted.mono {policy : RetryPolicy} {id : PayoutId} {past past' : List (Exchange interface)}
    (h : Counted policy id past) (hpast : past <+: past') : Counted policy id past' := by
  rcases h with ⟨q, hid, hstatus, hmem⟩ | ⟨now, p, hnow, hread, hrange⟩ | hearly
  · exact .inl ⟨q, hid, hstatus, hpast.subset hmem⟩
  · exact .inr (.inl ⟨now, p, hpast.subset hnow, hpast.subset hread, hrange⟩)
  · exact .inr (.inr (hearly.mono hpast))

theorem failing_append {past : List (Exchange interface)} {x : Exchange interface}
    (h : Failing (past ++ [x])) : Failing past ∨ isFailedCall x = true := by
  obtain ⟨y, hy, hfailed⟩ := h
  rcases List.mem_append.mp hy with hy | hy
  · exact .inl ⟨y, hy, hfailed⟩
  · exact .inr (List.mem_singleton.mp hy ▸ hfailed)

theorem failing_of_append_wonSwap {q : Payout} {expected : Status}
    {past : List (Exchange interface)} (h : Failing (past ++ [wonSwap q expected])) :
    Failing past :=
  (failing_append h).resolve_right (by simp [isFailedCall, wonSwap])

/-- What always holds of the store, the log and the tokens. -/
structure Kept (policy : RetryPolicy) (s : Shared) (tokens : Multiset (Option PayoutId)) :
    Prop where
  exclusive : Exclusive tokens
  current : storeAfter .empty s.log = s.store
  orderly : Orderly policy s.log
  legal : ∀ p ∈ s.store.rows, p.Legal
  drawn : ∀ p ∈ s.store.rows, p.id ∈ s.drawn

/-- Nobody has touched the payouts of a thread. -/
structure Untouched (own : Multiset (Option PayoutId)) (s s' : Shared) : Prop where
  log : s.log <+: s'.log
  drawn : s.drawn <+: s'.drawn
  same : ∀ id, Owns own id → s'.store.find? id = s.store.find? id
  unsent : ∀ id, Owns own id → Unsent s.log id → Unsent s'.log id

/-- A payout for which an execution may start. -/
structure Fresh (s : Shared) (id : PayoutId) : Prop where
  found : ∃ p, s.store.find? id = some p ∧ p.status = .processing
  unsent : Unsent s.log id

variable {policy : RetryPolicy} {own others all : Multiset (Option PayoutId)} {s s' s'' : Shared}
  {id : PayoutId}

theorem Untouched.refl (own : Multiset (Option PayoutId)) (s : Shared) : Untouched own s s where
  log := List.prefix_rfl
  drawn := List.prefix_rfl
  same _ _ := rfl
  unsent _ _ h := h

theorem Untouched.trans (h : Untouched own s s') (h' : Untouched own s' s'') :
    Untouched own s s'' where
  log := h.log.trans h'.log
  drawn := h.drawn.trans h'.drawn
  same id hown := (h'.same id hown).trans (h.same id hown)
  unsent id hown hunsent := h'.unsent id hown (h.unsent id hown hunsent)

theorem Untouched.of_le (h : Untouched all s s') (hle : own ≤ all) : Untouched own s s' where
  log := h.log
  drawn := h.drawn
  same id hown := h.same id (hown.of_le hle)
  unsent id hown := h.unsent id (hown.of_le hle)

theorem Fresh.untouched (h : Fresh s id) (hs : Untouched own s s') (hown : Owns own id) :
    Fresh s' id where
  found := by
    obtain ⟨p, hp, hstatus⟩ := h.found
    exact ⟨p, (hs.same id hown).trans hp, hstatus⟩
  unsent := hs.unsent id hown h.unsent

/-- The discipline of services that come one after the other. -/
def custody (policy : RetryPolicy) : Discipline (undisturbed policy) (Option PayoutId) where
  holds := Kept policy
  later := Untouched
  permits := fun _ _ _ _ _ => True
  entry := fun op s own => (op.isService ∧ own = {none}) ∨
    ∃ id, op = .dispatch id ∧ own = {some id} ∧ Fresh s id
  final := fun op _ past _ => ∀ id, op = .dispatch id → Failing past → Counted policy id past
  later_refl := .refl
  later_trans := .trans
  later_mono := fun hle h => h.of_le hle
  release := fun _ h => { h with exclusive := h.exclusive.of_le (Multiset.le_add_left ..) }

theorem Kept.append {x : Exchange interface} (h : Kept policy s all)
    (hlog : s'.log = s.log ++ [⟨x, s'.store⟩])
    (hhappens : ∀ id, Happens policy s.log ⟨x, s'.store⟩ id)
    (hlegal : ∀ p ∈ s'.store.rows, p.Legal) (hdrawn : ∀ p ∈ s'.store.rows, p.id ∈ s'.drawn) :
    Kept policy s' all where
  exclusive := h.exclusive
  current := by rw [hlog, storeAfter_append]
  orderly := hlog ▸ h.orderly.append hhappens
  legal := hlegal
  drawn := hdrawn

theorem Kept.append_same {x : Exchange interface} (h : Kept policy s all)
    (hlog : s'.log = s.log ++ [⟨x, s'.store⟩]) (hsame : s'.store = s.store)
    (hdrawn : s.drawn <+: s'.drawn)
    (hsubmits : ∀ id, Entry.Submits ⟨x, s'.store⟩ id → Fresh s id) : Kept policy s' all := by
  refine h.append hlog (fun id => ?_) (hsame ▸ h.legal)
    fun p hp => hdrawn.subset (h.drawn p (hsame ▸ hp))
  have hfind : s'.store.find? id = (storeAfter .empty s.log).find? id := by
    rw [hsame, h.current]
  by_cases hid : Entry.Submits ⟨x, s'.store⟩ id
  · obtain ⟨⟨p, hp, hstatus⟩, hunsent⟩ := hsubmits id hid
    rw [← h.current] at hp
    exact .submitted hp (hfind.trans hp) hstatus hunsent
  · exact .nothing hfind hid

theorem Kept.append_moved {p q : Payout} {T : Transition} (h : Kept policy s all)
    (hlog : s'.log = s.log ++ [⟨wonSwap q p.status, s'.store⟩])
    (hstore : s'.store = s.store.overwrite q) (hdrawn : s.drawn <+: s'.drawn)
    (hp : s.store.find? p.id = some p) (hstart : T.StartsFrom p.status)
    (happly : T.apply p = some q) (hfits : Fits policy s.log p T) : Kept policy s' all := by
  have hid : q.id = p.id := (Transition.sameOrigin_apply happly).id
  have hmem := MemoryStore.mem_of_find? hp
  have hquiet : ∀ id, ¬ Entry.Submits ⟨wonSwap q p.status, s'.store⟩ id := Entry.not_submits rfl
  have hrows : ∀ row ∈ s'.store.rows, row ∈ s.store.rows ∨ row = q := by
    intro row hrow
    rw [hstore, MemoryStore.mem_overwrite] at hrow
    exact hrow.imp And.left And.left
  refine h.append hlog (fun id => ?_) (fun row hrow => ?_) fun row hrow => hdrawn.subset ?_
  · by_cases hne : id = p.id
    · subst hne
      refine .moved (by rwa [h.current]) ?_ (h.legal p hmem) hstart happly hfits (hquiet _)
      rw [hstore, ← hid]
      exact MemoryStore.find?_overwrite_self (hid ▸ hp)
    · refine .nothing ?_ (hquiet id)
      rw [h.current, hstore]
      exact MemoryStore.find?_overwrite_of_ne (hid ▸ hne)
  · rcases hrows row hrow with hrow | rfl
    · exact h.legal row hrow
    · exact Transition.legal_apply (h.legal p hmem) hstart happly
  · rcases hrows row hrow with hrow | rfl
    · exact h.drawn row hrow
    · exact hid ▸ h.drawn p hmem

theorem Kept.append_created {p : Payout} {a : Except Error Unit} (h : Kept policy s all)
    (hlog : s'.log = s.log ++ [⟨⟨.store (.create p), a⟩, s'.store⟩])
    (hstore : s'.store = s.store.insert p) (hdrawn : s.drawn <+: s'.drawn)
    (hfree : s.store.find? p.id = none) (hnew : p.id ∈ s'.drawn) (hlegal : p.Legal)
    (hstatus : p.status = .pending) : Kept policy s' all := by
  have hquiet : ∀ id, ¬ Entry.Submits ⟨⟨.store (.create p), a⟩, s'.store⟩ id :=
    Entry.not_submits rfl
  have hrows : ∀ row ∈ s'.store.rows, row ∈ s.store.rows ∨ row = p := by
    intro row hrow
    rw [hstore, MemoryStore.mem_insert] at hrow
    exact hrow.imp_left And.left
  refine h.append hlog (fun id => ?_) (fun row hrow => ?_) fun row hrow => ?_
  · by_cases hid : id = p.id
    · subst hid
      refine .created (by rwa [h.current]) ?_ hstatus (hquiet _)
      rw [hstore]
      exact MemoryStore.find?_insert_self
    · refine .nothing ?_ (hquiet id)
      rw [h.current, hstore, MemoryStore.find?_insert_of_ne hid]
  · rcases hrows row hrow with hrow | rfl
    · exact h.legal row hrow
    · exact hlegal
  · rcases hrows row hrow with hrow | rfl
    · exact hdrawn.subset (h.drawn row hrow)
    · exact hnew

theorem Untouched.of_append_same {x : Exchange interface}
    (hlog : s'.log = s.log ++ [⟨x, s'.store⟩]) (hdrawn : s.drawn <+: s'.drawn)
    (hsame : s'.store = s.store)
    (hquiet : ∀ id, Owns own id → ¬ Entry.Submits ⟨x, s'.store⟩ id) : Untouched own s s' where
  log := hlog ▸ List.prefix_append ..
  drawn := hdrawn
  same id _ := by rw [hsame]
  unsent id hown hunsent := by
    rw [hlog]
    exact unsent_append.mpr (.inr ⟨hunsent, hquiet id hown⟩)

theorem Fits.mono {log log' : List Entry} {p : Payout} {T : Transition}
    (h : Fits policy log p T) (hlog : log <+: log') : Fits policy log' p T := by
  cases T with
  | requeue now => exact ⟨h.1, h.2.mono hlog⟩
  | failure reason used now => exact ⟨h.1, h.2.mono hlog⟩
  | claim _ | submission _ _ | completion _ _ _ | reset _ _ => exact h

namespace custody

variable {v v' : View (undisturbed policy) (Option PayoutId)} {p q : Payout}

/-- What a thread learns from a request that writes nothing. -/
structure Heard (v : View (undisturbed policy) (Option PayoutId)) (r : Request)
    (a : interface.Answer r) (s' : Shared) : Prop where
  kept : ∃ tokens, Kept policy s' tokens
  answered : ∃ b : Behaviour, b.isFault = false ∧ b.answer r s'.store = some (a, s'.store)
  untouched : Untouched v.own v.state s'
  logged : ∃ e ∈ s'.log, e.exchange = ⟨r, a⟩
  drawn : ∀ id ∈ Shared.drawnBy r a, id ∈ s'.drawn ∧ s'.store.find? id = none

theorem asks_heard {r : Request}
    {Q : interface.Answer r → View (undisturbed policy) (Option PayoutId) → Prop}
    (own : interface.Answer r → Multiset (Option PayoutId)) (hquiet : r.isQuiet = true)
    (hown : ∀ others a s', Heard v r a s' → Exclusive (v.own + others) →
      Exclusive (own a + others))
    (hQ : ∀ a s', Heard v r a s' → Q a ⟨s', own a, v.past ++ [⟨r, a⟩]⟩) :
    (custody policy).Asks r Q v := by
  intro s others hlater hholds b a s' hanswer
  obtain ⟨hfault, hshared⟩ := undisturbed_answer hanswer
  obtain ⟨hbehaviour, hdrawn, hlog, hdistinct⟩ := Shared.answer_eq_some hshared
  have hkept : Kept policy s (v.own + others) := hholds
  have hsame : s'.store = s.store := Behaviour.store_eq_of_isQuiet hquiet hbehaviour
  have hprefix : s.drawn <+: s'.drawn := hdrawn ▸ List.prefix_append ..
  have hsubmits : ∀ id, ¬ Entry.Submits ⟨⟨r, a⟩, s'.store⟩ id :=
    Entry.not_submits (Entry.memo?_of_isQuiet hquiet)
  have hkept' : Kept policy s' (v.own + others) :=
    hkept.append_same hlog hsame hprefix fun id hid => absurd hid (hsubmits id)
  have huntouched : ∀ own, Untouched own s s' :=
    fun own => .of_append_same hlog hprefix hsame fun id _ => hsubmits id
  have hlast : (⟨⟨r, a⟩, s'.store⟩ : Entry) ∈ s'.log := by
    rw [hlog]
    exact List.mem_append_right _ (List.mem_singleton_self _)
  have hheard : Heard v r a s' := by
    refine ⟨⟨_, hkept'⟩, ⟨b, hfault, by rwa [← hsame] at hbehaviour⟩,
      Untouched.trans hlater (huntouched _), ⟨_, hlast, rfl⟩, fun id hid => ⟨?_, ?_⟩⟩
    · rw [hdrawn]
      exact List.mem_append_right _ hid
    · rw [hsame, MemoryStore.find?_eq_none_iff]
      intro hmem
      obtain ⟨p, hp, rfl⟩ := List.mem_map.mp hmem
      exact hdistinct rfl p.id hid (hkept.drawn p hp)
  refine ⟨own a, 0, ?_, trivial, huntouched others, ?_, hQ a s' hheard⟩
  · rw [add_zero]
    exact { hkept' with exclusive := hown others a s' hheard hkept'.exclusive }
  · cases r with
    | dispatch id => cases hquiet
    | _ => rfl

theorem asks_quiet {r : Request}
    {Q : interface.Answer r → View (undisturbed policy) (Option PayoutId) → Prop}
    (hquiet : r.isQuiet = true)
    (hQ : ∀ a s', Heard v r a s' → Q a ⟨s', v.own, v.past ++ [⟨r, a⟩]⟩) :
    (custody policy).Asks r Q v :=
  asks_heard (fun _ => v.own) hquiet (fun _ _ _ _ h => h) hQ

theorem asks_submit {request : TransferRequest}
    {Q : Outcome String → View (undisturbed policy) (Option PayoutId) → Prop}
    (hown : some id ∈ v.own) (hfresh : Fresh v.state id) (hmemo : request.memo = id.toText)
    (hQ : ∀ a s', v.state.log <+: s'.log →
      (∀ id, Owns v.own id → s'.store.find? id = v.state.store.find? id) →
      Q a ⟨s', v.own, v.past ++ [⟨.transfer (.submit request), a⟩]⟩) :
    (custody policy).Asks (.transfer (.submit request)) Q v := by
  intro s others hlater hholds b a s' hanswer
  obtain ⟨-, hshared⟩ := undisturbed_answer hanswer
  obtain ⟨hbehaviour, hdrawn, hlog, -⟩ := Shared.answer_eq_some hshared
  have hkept : Kept policy s (v.own + others) := hholds
  have hlater : Untouched v.own v.state s := hlater
  have hsame : s'.store = s.store := Behaviour.answer_other (by simp) hbehaviour
  have hprefix : s.drawn <+: s'.drawn := hdrawn ▸ List.prefix_append ..
  have hsubmits : ∀ id', Entry.Submits ⟨⟨.transfer (.submit request), a⟩, s'.store⟩ id' →
      id' = id := by
    intro id' hid'
    have hmemo' : request.memo = id'.toText := Option.some.inj hid'
    exact PayoutId.toText_injective (hmemo'.symm.trans hmemo)
  refine ⟨v.own, 0, ?_, trivial, ?_, rfl, hQ a s' ?_ ?_⟩
  · rw [add_zero]
    refine hkept.append_same hlog hsame hprefix fun id' hid' => ?_
    obtain rfl := hsubmits id' hid'
    exact hfresh.untouched hlater (.inr hown)
  · refine .of_append_same hlog hprefix hsame fun id' hid' hsub => ?_
    obtain rfl := hsubmits id' hsub
    exact hkept.exclusive.not_owns (.inr hown) hid'
  · exact hlater.log.trans (hlog ▸ List.prefix_append ..)
  · exact fun id' hid' => by rw [hsame, hlater.same id' hid']

/-- A record in the custody of a thread. -/
structure Holds (v : View (undisturbed policy) (Option PayoutId)) (p : Payout) : Prop where
  own : Owns v.own p.id
  found : v.state.store.find? p.id = some p
  legal : p.Legal

/-- What a won swap leads to. -/
structure Won (v : View (undisturbed policy) (Option PayoutId)) (p q : Payout) (s' : Shared) :
    Prop where
  found : s'.store.find? q.id = some q
  legal : q.Legal
  log : v.state.log <+: s'.log
  others : ∀ id, id ≠ p.id → Owns v.own id → s'.store.find? id = v.state.store.find? id
  unsent : p.status ≠ .processing → q.status = .processing → Unsent s'.log q.id

/-- Nobody else has changed the record, so that the swap wins. -/
theorem asks_saveIf {T : Transition}
    {Q : Except Error Bool → View (undisturbed policy) (Option PayoutId) → Prop}
    (h : Holds v p) (hstart : T.StartsFrom p.status) (happly : T.apply p = some q)
    (hfits : Fits policy v.state.log p T)
    (hQ : ∀ s', Won v p q s' → Q (.ok true) ⟨s', v.own, v.past ++ [wonSwap q p.status]⟩) :
    (custody policy).Asks (.store (.saveIf q p.status)) Q v := by
  intro s others hlater hholds b a s' hanswer
  obtain ⟨hfault, hshared⟩ := undisturbed_answer hanswer
  obtain ⟨hbehaviour, hdrawn, hlog, -⟩ := Shared.answer_eq_some hshared
  have hkept : Kept policy s (v.own + others) := hholds
  have hlater : Untouched v.own v.state s := hlater
  have hid : q.id = p.id := (Transition.sameOrigin_apply happly).id
  have hp : s.store.find? p.id = some p := (hlater.same p.id h.own).trans h.found
  have hplain : s.store.saveIf q p.status = (a, s'.store) :=
    Behaviour.answer_plain hfault rfl hbehaviour
  have hswap : s.store.saveIf q p.status = (.ok true, s.store.overwrite q) := by
    simp [MemoryStore.saveIf, hid, hp]
  obtain ⟨rfl, hstore⟩ := Prod.mk.inj (hplain.symm.trans hswap)
  have hq : s'.store.find? q.id = some q := by
    rw [hstore]
    exact MemoryStore.find?_overwrite_self (hid ▸ hp)
  have hothers : ∀ id, id ≠ p.id → s'.store.find? id = s.store.find? id := by
    intro id hne
    rw [hstore]
    exact MemoryStore.find?_overwrite_of_ne (hid ▸ hne)
  have hquiet : ∀ id, ¬ Entry.Submits ⟨wonSwap q p.status, s'.store⟩ id := Entry.not_submits rfl
  have hprefix : s.drawn <+: s'.drawn := hdrawn ▸ List.prefix_append ..
  refine ⟨v.own, 0, ?_, trivial, ?_, rfl, hQ s' ⟨hq, ?_, ?_, ?_, ?_⟩⟩
  · rw [add_zero]
    exact hkept.append_moved hlog hstore hprefix hp hstart happly (hfits.mono hlater.log)
  · have hne : ∀ id, Owns others id → id ≠ p.id := by
      rintro id hown rfl
      exact hkept.exclusive.not_owns h.own hown
    refine ⟨hlog ▸ List.prefix_append .., hprefix, fun id hown => hothers id (hne id hown), ?_⟩
    intro id _ hunsent
    rw [hlog]
    exact unsent_append.mpr (.inr ⟨hunsent, hquiet id⟩)
  · exact Transition.legal_apply h.legal hstart happly
  · exact hlater.log.trans (hlog ▸ List.prefix_append ..)
  · exact fun id hne hown => (hothers id hne).trans (hlater.same id hown)
  · intro hbefore hafter
    rw [hlog]
    refine unsent_append.mpr (.inl ⟨(p, q), change?_eq_some_iff.mpr ⟨?_, hq⟩, hbefore, hafter⟩)
    rw [hkept.current, hid]
    exact hp

theorem asks_create {Q : Except Error Unit → View (undisturbed policy) (Option PayoutId) → Prop}
    (hown : v.own = {none}) (hfree : v.state.store.find? p.id = none)
    (hdrawn : p.id ∈ v.state.drawn) (hlegal : p.Legal) (hstatus : p.status = .pending)
    (hQ : ∀ a v', Q a v') : (custody policy).Asks (.store (.create p)) Q v := by
  intro s others hlater hholds b a s' hanswer
  obtain ⟨-, hshared⟩ := undisturbed_answer hanswer
  obtain ⟨hbehaviour, hdrawn', hlog, -⟩ := Shared.answer_eq_some hshared
  have hkept : Kept policy s (v.own + others) := hholds
  have hlater : Untouched v.own v.state s := hlater
  have hall : ∀ id, Owns v.own id := fun id => .inl (hown ▸ Multiset.mem_singleton_self _)
  have hprefix : s.drawn <+: s'.drawn := hdrawn' ▸ List.prefix_append ..
  have hquiet : ∀ id, ¬ Entry.Submits ⟨⟨.store (.create p), a⟩, s'.store⟩ id :=
    Entry.not_submits rfl
  rcases Behaviour.answer_create hbehaviour with hsame | hwrite
  · refine ⟨v.own, 0, ?_, trivial, ?_, rfl, hQ ..⟩
    · rw [add_zero]
      exact hkept.append_same hlog hsame hprefix fun id hid => absurd hid (hquiet id)
    · exact .of_append_same hlog hprefix hsame fun id _ => hquiet id
  · refine ⟨v.own, 0, ?_, trivial, ?_, rfl, hQ ..⟩
    · rw [add_zero]
      exact hkept.append_created hlog hwrite hprefix ((hlater.same p.id (hall p.id)).trans hfree)
        ((hlater.drawn.trans hprefix).subset hdrawn) hlegal hstatus
    · have hothers : ∀ id, ¬ Owns others id := fun id => hkept.exclusive.not_owns (hall id)
      exact ⟨hlog ▸ List.prefix_append .., hprefix, fun id hid => absurd hid (hothers id),
        fun id hid => absurd hid (hothers id)⟩

theorem asks_dispatch {Q : Unit → View (undisturbed policy) (Option PayoutId) → Prop}
    {token : Option PayoutId} {rest : Multiset (Option PayoutId)}
    (hown : v.own = token ::ₘ rest) (htoken : token = none ∨ token = some id)
    (hfresh : Fresh v.state id)
    (hQ : ∀ s', Untouched rest v.state s' → Q () ⟨s', rest, v.past ++ [⟨.dispatch id, ()⟩]⟩) :
    (custody policy).Asks (.dispatch id) Q v := by
  intro s others hlater hholds b a s' hanswer
  obtain ⟨-, hshared⟩ := undisturbed_answer hanswer
  obtain ⟨hbehaviour, hdrawn, hlog, -⟩ := Shared.answer_eq_some hshared
  have hkept : Kept policy s (v.own + others) := hholds
  have hlater : Untouched v.own v.state s := hlater
  have hsame : s'.store = s.store := Behaviour.answer_other (by simp) hbehaviour
  have hprefix : s.drawn <+: s'.drawn := hdrawn ▸ List.prefix_append ..
  have hquiet : ∀ id', ¬ Entry.Submits ⟨⟨.dispatch id, a⟩, s'.store⟩ id' := Entry.not_submits rfl
  have huntouched : ∀ own, Untouched own s s' :=
    fun own => .of_append_same hlog hprefix hsame fun id' _ => hquiet id'
  have hkept' : Kept policy s' (v.own + others) :=
    hkept.append_same hlog hsame hprefix fun id' hid => absurd hid (hquiet id')
  have howns : Owns v.own id := hown ▸ owns_cons htoken
  have hexclusive : Exclusive (rest + {some id} + others) := by
    refine Exclusive.hand_on ?_ htoken
    rw [← hown]
    exact hkept'.exclusive
  refine ⟨rest, {some id}, { hkept' with exclusive := hexclusive }, trivial, huntouched others,
    .inr ⟨id, rfl, rfl, ?_⟩, hQ s' ?_⟩
  · exact (hfresh.untouched hlater howns).untouched (huntouched v.own) howns
  · exact (hlater.trans (huntouched _)).of_le (hown ▸ Multiset.le_cons_self ..)

end custody

end Disburse.Engine
