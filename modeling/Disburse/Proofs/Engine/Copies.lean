import Disburse.Proofs.Engine.Requests
import Disburse.Proofs.Payout.History

/-!
What the engine writes when its operations run side by side: every swap puts a transition of the
record that its thread read last, legal and a version of the same record that was stored before,
in the place of the record that is there now.
-/

namespace Disburse.Engine

open Disburse.Machine Disburse.Machine.Discipline

/-- The records that an answer shows. -/
def recordsIn : Exchange interface → List Payout
  | ⟨.store (.get _), .ok found⟩ => found.toList
  | ⟨.store (.findBySubmission _), .ok found⟩ => found.toList
  | ⟨.store (.findDue ..), .ok ps⟩ => ps
  | ⟨.store (.findStale ..), .ok ps⟩ => ps
  | ⟨.store (.list _), .ok ps⟩ => ps
  | _ => []

/-- The version of a record that was shown last. -/
def lastRead (past : List (Exchange interface)) (id : PayoutId) : Option Payout :=
  past.foldl (fun found x => ((recordsIn x).find? fun p => p.id = id).or found) none

theorem lastRead_append (past : List (Exchange interface)) (x : Exchange interface)
    (id : PayoutId) :
    lastRead (past ++ [x]) id =
      ((recordsIn x).find? fun p => p.id = id).or (lastRead past id) := by
  simp [lastRead]

/-- The stored version of a record comes from this legal version. -/
def Stems (s : Shared) (p : Payout) : Prop :=
  p.Legal ∧ ∃ row, s.store.find? p.id = some row ∧ p.LeadsTo row

/-- What a thread holds in its hands: a record as it read it last, or that with the hash of its
own submission. -/
def Held (s : Shared) (past : List (Exchange interface)) (p : Payout) : Prop :=
  ∃ copy, lastRead past p.id = some copy ∧ Stems s copy ∧
    (p = copy ∨
      copy.status = .processing ∧ ∃ hash now, p = copy.markSubmitted hash now)

/-- A swap that the engine may ask for: a transition of the record that was read last. -/
def Swaps (s : Shared) (past : List (Exchange interface)) (p : Payout) (expected : Status) :
    Prop :=
  ∃ T copy, lastRead past p.id = some copy ∧ Stems s copy ∧ copy.status = expected ∧
    T.StartsFrom expected ∧ Transition.apply T copy = some p

/-- What always holds, together with the identifiers that are drawn and not used yet. -/
structure Sound (s : Shared) (reserved : Multiset PayoutId) : Prop where
  legal : ∀ p ∈ s.store.rows, p.Legal
  drawn : ∀ p ∈ s.store.rows, p.id ∈ s.drawn
  nodup : reserved.Nodup
  reserved_drawn : ∀ id ∈ reserved, id ∈ s.drawn
  reserved_free : ∀ id ∈ reserved, s.store.find? id = none

/-- Stored records stay, as later versions of themselves. -/
def Evolves (s s' : Shared) : Prop :=
  ∀ id p, s.store.find? id = some p → ∃ q, s'.store.find? id = some q ∧ p.LeadsTo q

/-- Records stay as they are or take one of the edges between states. -/
def Advances (s s' : Shared) : Prop :=
  ∀ id p q, s.store.find? id = some p → s'.store.find? id = some q → q = p ∨ p.FollowedBy q

theorem Evolves.refl (s : Shared) : Evolves s s := by
  intro _ p hp
  exact ⟨p, hp, .refl p⟩

theorem Evolves.trans {s s' s'' : Shared} (h : Evolves s s') (h' : Evolves s' s'') :
    Evolves s s'' := by
  intro id p hp
  obtain ⟨q, hq, hpq⟩ := h id p hp
  obtain ⟨r, hr, hqr⟩ := h' id q hq
  exact ⟨r, hr, hpq.trans hqr⟩

theorem Stems.of_evolves {s s' : Shared} {p : Payout} (h : Stems s p) (hs : Evolves s s') :
    Stems s' p := by
  obtain ⟨hlegal, row, hrow, hlead⟩ := h
  obtain ⟨row', hrow', hlead'⟩ := hs p.id row hrow
  exact ⟨hlegal, row', hrow', hlead.trans hlead'⟩

theorem Held.of_evolves {s s' : Shared} {past past' : List (Exchange interface)} {p : Payout}
    (h : Held s past p) (hs : Evolves s s') (hpast : lastRead past' p.id = lastRead past p.id) :
    Held s' past' p := by
  obtain ⟨copy, hread, hstems, hp⟩ := h
  exact ⟨copy, hpast.trans hread, hstems.of_evolves hs, hp⟩

theorem Swaps.of_evolves {s s' : Shared} {past : List (Exchange interface)} {p : Payout}
    {expected : Status} (h : Swaps s past p expected) (hs : Evolves s s') :
    Swaps s' past p expected := by
  obtain ⟨T, copy, hread, hstems, hT⟩ := h
  exact ⟨T, copy, hread, hstems.of_evolves hs, hT⟩

theorem Sound.of_add {s : Shared} {own others : Multiset PayoutId}
    (h : Sound s (own + others)) : Sound s others where
  legal := h.legal
  drawn := h.drawn
  nodup := (Multiset.nodup_add.mp h.nodup).2.1
  reserved_drawn id hid := h.reserved_drawn id (Multiset.mem_add.mpr (.inr hid))
  reserved_free id hid := h.reserved_free id (Multiset.mem_add.mpr (.inr hid))

/-- The discipline of operations that run side by side. -/
def copies (policy : RetryPolicy) : Discipline (concurrent policy) PayoutId where
  holds := Sound
  later := fun _ => Evolves
  permits := fun past r _ s s' =>
    Advances s s' ∧ ∀ p expected, r = .store (.saveIf p expected) → Swaps s past p expected
  entry := fun _ _ own => own = 0
  final := fun _ _ _ _ => True
  later_refl := fun _ => .refl
  later_trans := .trans
  later_mono := fun _ h => h
  release := fun _ => .of_add

variable {policy : RetryPolicy} {v : View (concurrent policy) PayoutId} {s s' : Shared}
  {reserved : Multiset PayoutId} {past : List (Exchange interface)} {p row : Payout}
  {expected : Status}

theorem Swaps.followedBy (h : Swaps s past p expected) (hsound : Sound s reserved)
    (hrow : s.store.find? p.id = some row) (hstatus : row.status = expected) :
    p.Legal ∧ row.FollowedBy p := by
  obtain ⟨T, copy, -, ⟨hlegal, row', hrow', hlead⟩, rfl, hfrom, happly⟩ := h
  rw [← (Transition.sameOrigin_apply happly).id, hrow] at hrow'
  obtain rfl := Option.some.inj hrow'
  exact ⟨Transition.legal_apply hlegal hfrom happly,
    Transition.followedBy_apply hlegal (hsound.legal _ (MemoryStore.mem_of_find? hrow)) hlead
      hstatus hfrom happly⟩

theorem Sound.of_store_eq (h : Sound s reserved) (hstore : s'.store = s.store)
    (hdrawn : s'.drawn = s.drawn) : Sound s' reserved where
  legal := hstore ▸ h.legal
  drawn := hstore ▸ hdrawn ▸ h.drawn
  nodup := h.nodup
  reserved_drawn := hdrawn ▸ h.reserved_drawn
  reserved_free := hstore ▸ h.reserved_free

theorem Evolves.of_store_eq (hstore : s'.store = s.store) : Evolves s s' := by
  intro id q hq
  exact ⟨q, hstore ▸ hq, .refl q⟩

theorem Advances.of_store_eq (hstore : s'.store = s.store) : Advances s s' := by
  intro id q q' hq hq'
  rw [hstore, hq] at hq'
  exact .inl (Option.some.inj hq').symm

theorem Sound.overwrite (h : Sound s reserved) (hlegal : p.Legal)
    (hrow : s.store.find? p.id = some row) (hstore : s'.store = s.store.overwrite p)
    (hdrawn : s'.drawn = s.drawn) : Sound s' reserved where
  legal q hq := by
    rw [hstore, MemoryStore.mem_overwrite] at hq
    rcases hq with ⟨hq, -⟩ | ⟨rfl, -⟩
    · exact h.legal q hq
    · exact hlegal
  drawn q hq := by
    rw [hdrawn]
    rw [hstore, MemoryStore.mem_overwrite] at hq
    rcases hq with ⟨hq, -⟩ | ⟨rfl, -⟩
    · exact h.drawn q hq
    · exact MemoryStore.find?_id hrow ▸ h.drawn row (MemoryStore.mem_of_find? hrow)
  nodup := h.nodup
  reserved_drawn := hdrawn ▸ h.reserved_drawn
  reserved_free id hid := by
    have hne : id ≠ p.id := by
      rintro rfl
      rw [h.reserved_free _ hid] at hrow
      cases hrow
    rw [hstore, MemoryStore.find?_overwrite_of_ne hne]
    exact h.reserved_free id hid

theorem Advances.overwrite (hrow : s.store.find? p.id = some row) (hfollowed : row.FollowedBy p)
    (hstore : s'.store = s.store.overwrite p) : Advances s s' := by
  intro id q q' hq hq'
  rw [hstore] at hq'
  by_cases hid : id = p.id
  · subst hid
    rw [MemoryStore.find?_overwrite_self hrow] at hq'
    rw [hrow] at hq
    obtain rfl := Option.some.inj hq
    obtain rfl := Option.some.inj hq'
    exact .inr hfollowed
  · rw [MemoryStore.find?_overwrite_of_ne hid, hq] at hq'
    exact .inl (Option.some.inj hq').symm

theorem Evolves.overwrite (hrow : s.store.find? p.id = some row) (hfollowed : row.FollowedBy p)
    (hstore : s'.store = s.store.overwrite p) : Evolves s s' := by
  intro id q hq
  rw [hstore]
  by_cases hid : id = p.id
  · subst hid
    rw [hrow] at hq
    obtain rfl := Option.some.inj hq
    exact ⟨p, MemoryStore.find?_overwrite_self hrow, hfollowed.leadsTo⟩
  · exact ⟨q, by rwa [MemoryStore.find?_overwrite_of_ne hid], .refl q⟩

theorem Sound.insert (h : Sound s (p.id ::ₘ reserved)) (hlegal : p.Legal)
    (hstore : s'.store = s.store.insert p) (hdrawn : s'.drawn = s.drawn) : Sound s' reserved := by
  obtain ⟨hnotMem, hnodup⟩ := Multiset.nodup_cons.mp h.nodup
  constructor
  · intro q hq
    rw [hstore, MemoryStore.mem_insert] at hq
    rcases hq with ⟨hq, -⟩ | rfl
    · exact h.legal q hq
    · exact hlegal
  · intro q hq
    rw [hdrawn]
    rw [hstore, MemoryStore.mem_insert] at hq
    rcases hq with ⟨hq, -⟩ | rfl
    · exact h.drawn q hq
    · exact h.reserved_drawn q.id (Multiset.mem_cons_self ..)
  · exact hnodup
  · intro id hid
    rw [hdrawn]
    exact h.reserved_drawn id (Multiset.mem_cons_of_mem hid)
  · intro id hid
    rw [hstore, MemoryStore.find?_insert_of_ne (fun heq => hnotMem (heq ▸ hid))]
    exact h.reserved_free id (Multiset.mem_cons_of_mem hid)

theorem find?_of_insert {id : PayoutId} {q : Payout} (hfree : s.store.find? p.id = none)
    (hstore : s'.store = s.store.insert p) (hq : s.store.find? id = some q) :
    s'.store.find? id = some q := by
  have hne : id ≠ p.id := by
    rintro rfl
    rw [hfree] at hq
    cases hq
  rwa [hstore, MemoryStore.find?_insert_of_ne hne]

theorem Evolves.insert (hfree : s.store.find? p.id = none)
    (hstore : s'.store = s.store.insert p) : Evolves s s' := by
  intro id q hq
  exact ⟨q, find?_of_insert hfree hstore hq, .refl q⟩

theorem Advances.insert (hfree : s.store.find? p.id = none)
    (hstore : s'.store = s.store.insert p) : Advances s s' := by
  intro id q q' hq hq'
  rw [find?_of_insert hfree hstore hq] at hq'
  exact .inl (Option.some.inj hq').symm

namespace copies

theorem asks_quiet {r : Request} {Q : interface.Answer r → View (concurrent policy) PayoutId → Prop}
    (hstore : ∀ c, r ≠ .store c) (hdraw : r ≠ .freshId)
    (hQ : ∀ a s', Evolves v.state s' → Q a ⟨s', v.own, v.past ++ [⟨r, a⟩]⟩) :
    (copies policy).Asks r Q v := by
  intro s others hlater hholds b a s' hanswer
  obtain ⟨hbehaviour, hdrawn, -, -⟩ := Shared.answer_eq_some hanswer
  have hsame : s'.store = s.store := Behaviour.answer_other hstore hbehaviour
  have hnone : Shared.drawnBy r a = [] := by
    cases r with
    | freshId => exact absurd rfl hdraw
    | _ => rfl
  rw [hnone, List.append_nil] at hdrawn
  refine ⟨v.own, 0, ?_, ⟨.of_store_eq hsame, ?_⟩, .of_store_eq hsame, ?_,
    hQ a s' (Evolves.trans hlater (.of_store_eq hsame))⟩
  · rw [add_zero]
    exact Sound.of_store_eq hholds hsame hdrawn
  · exact fun p expected hr => absurd hr (hstore _)
  · cases r <;> exact rfl

theorem asks_read {c : StoreCall} {Q : c.Answer → View (concurrent policy) PayoutId → Prop}
    (hread : c.isRead = true)
    (hQ : ∀ (a : c.Answer) s', Evolves v.state s' → (∀ p ∈ s'.store.rows, p.Legal) →
      (∃ b : Behaviour, b.answer (.store c) s'.store = some (a, s'.store)) →
      Q a ⟨s', v.own, v.past ++ [⟨.store c, a⟩]⟩) :
    (copies policy).Asks (.store c) Q v := by
  intro s others hlater hholds b a s' hanswer
  obtain ⟨hbehaviour, hdrawn, -, -⟩ := Shared.answer_eq_some hanswer
  have hsame : s'.store = s.store := (Behaviour.answer_read hread hbehaviour).1
  rw [show Shared.drawnBy (.store c) a = [] from rfl, List.append_nil] at hdrawn
  have hsound : Sound s' (v.own + others) := Sound.of_store_eq hholds hsame hdrawn
  refine ⟨v.own, 0, by rwa [add_zero], ⟨.of_store_eq hsame, ?_⟩, .of_store_eq hsame, rfl,
    hQ a s' (Evolves.trans hlater (.of_store_eq hsame)) hsound.legal ?_⟩
  · rintro p expected hr
    cases hr
    cases hread
  · rw [hsame] at hbehaviour ⊢
    exact ⟨b, hbehaviour⟩

theorem asks_saveIf {Q : Except Error Bool → View (concurrent policy) PayoutId → Prop}
    (hswap : Swaps v.state v.past p expected)
    (hQ : ∀ a s', Evolves v.state s' →
      Q a ⟨s', v.own, v.past ++ [⟨.store (.saveIf p expected), a⟩]⟩) :
    (copies policy).Asks (.store (.saveIf p expected)) Q v := by
  intro s others hlater hholds b a s' hanswer
  obtain ⟨hbehaviour, hdrawn, -, -⟩ := Shared.answer_eq_some hanswer
  rw [show Shared.drawnBy (.store (.saveIf p expected)) a = [] from rfl, List.append_nil] at hdrawn
  have hswap' : Swaps s v.past p expected := hswap.of_evolves hlater
  have hpermitted : ∀ q e, Request.store (.saveIf p expected) = .store (.saveIf q e) →
      Swaps s v.past q e := by
    rintro q e hr
    cases hr
    exact hswap'
  rcases Behaviour.answer_saveIf hbehaviour with ⟨hsame, -⟩ | ⟨hstore, -, row, hrow, hstatus⟩
  · exact ⟨v.own, 0, by rw [add_zero]; exact Sound.of_store_eq hholds hsame hdrawn,
      ⟨.of_store_eq hsame, hpermitted⟩, .of_store_eq hsame, rfl,
      hQ a s' (Evolves.trans hlater (.of_store_eq hsame))⟩
  · obtain ⟨hlegal, hfollowed⟩ := hswap'.followedBy hholds hrow hstatus
    have hevolves : Evolves s s' := .overwrite hrow hfollowed hstore
    exact ⟨v.own, 0, by rw [add_zero]; exact Sound.overwrite hholds hlegal hrow hstore hdrawn,
      ⟨.overwrite hrow hfollowed hstore, hpermitted⟩, hevolves, rfl,
      hQ a s' (Evolves.trans hlater hevolves)⟩

theorem asks_freshId {Q : PayoutId → View (concurrent policy) PayoutId → Prop}
    (hQ : ∀ id s', Q id ⟨s', id ::ₘ v.own, v.past ++ [⟨.freshId, id⟩]⟩) :
    (copies policy).Asks .freshId Q v := by
  intro s others hlater hholds b (id : PayoutId) s' hanswer
  obtain ⟨hbehaviour, hdrawn, -, hdistinct⟩ := Shared.answer_eq_some hanswer
  have hsame : s'.store = s.store := Behaviour.answer_other (by simp) hbehaviour
  have hdrawn' : s'.drawn = s.drawn ++ [id] := hdrawn
  have hfresh : id ∉ s.drawn := hdistinct rfl id (List.mem_singleton.mpr rfl)
  have hsound : Sound s (v.own + others) := hholds
  refine ⟨id ::ₘ v.own, 0, ?_, ⟨.of_store_eq hsame, ?_⟩, .of_store_eq hsame, rfl, hQ id s'⟩
  · rw [add_zero, Multiset.cons_add]
    constructor
    · exact hsame ▸ hsound.legal
    · intro q hq
      rw [hdrawn']
      exact List.mem_append_left _ (hsound.drawn q (hsame ▸ hq))
    · exact Multiset.nodup_cons.mpr
        ⟨fun hmem => hfresh (hsound.reserved_drawn id hmem), hsound.nodup⟩
    · intro id' hid'
      rw [hdrawn', List.mem_append, List.mem_singleton]
      exact (Multiset.mem_cons.mp hid').symm.imp_left (hsound.reserved_drawn id')
    · intro id' hid'
      rw [hsame]
      rcases Multiset.mem_cons.mp hid' with rfl | hid'
      · refine MemoryStore.find?_eq_none_iff.mpr fun hmem => ?_
        obtain ⟨q, hq, rfl⟩ := List.mem_map.mp hmem
        exact hfresh (hsound.drawn q hq)
      · exact hsound.reserved_free id' hid'
  · rintro p expected hr
    cases hr

theorem asks_create {Q : Except Error Unit → View (concurrent policy) PayoutId → Prop}
    (hown : v.own = {p.id}) (hlegal : p.Legal) (hQ : ∀ a v', Q a v') :
    (copies policy).Asks (.store (.create p)) Q v := by
  intro s others hlater hholds b a s' hanswer
  obtain ⟨hbehaviour, hdrawn, -, -⟩ := Shared.answer_eq_some hanswer
  rw [show Shared.drawnBy (.store (.create p)) a = [] from rfl, List.append_nil] at hdrawn
  have hsound : Sound s (p.id ::ₘ others) := by
    rwa [hown, Multiset.singleton_add] at hholds
  have hpermitted : ∀ q e, Request.store (.create p) = .store (.saveIf q e) →
      Swaps s v.past q e := by
    rintro q e hr
    cases hr
  have hfree := hsound.reserved_free p.id (Multiset.mem_cons_self ..)
  rcases Behaviour.answer_create hbehaviour with hsame | hstore
  · refine ⟨0, 0, ?_, ⟨.of_store_eq hsame, hpermitted⟩, .of_store_eq hsame, rfl, hQ ..⟩
    rw [add_zero, zero_add]
    have hothers : Sound s ({p.id} + others) := hsound
    exact hothers.of_add.of_store_eq hsame hdrawn
  · refine ⟨0, 0, ?_, ⟨.insert hfree hstore, hpermitted⟩, .insert hfree hstore, rfl, hQ ..⟩
    rw [add_zero, zero_add]
    exact hsound.insert hlegal hstore hdrawn

end copies

end Disburse.Engine
