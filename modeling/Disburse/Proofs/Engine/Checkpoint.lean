import Disburse.Proofs.Engine.Requests
import Disburse.Proofs.Payout.Id
import Disburse.Proofs.Payout.Transition

/-!
Submissions that are stored and not settled. While one is outstanding, its record is completed or
still holds its hash; and nothing is submitted for a payout that has one.
-/

namespace Disburse

/-- The record that a call writes if it succeeds. -/
def StoreCall.written? : StoreCall → Option Payout
  | .create p => some p
  | .save p => some p
  | .saveIf p _ => some p
  | .get _ => none
  | .findBySubmission _ => none
  | .findDue .. => none
  | .findStale .. => none
  | .list _ => none

/-- A record accounts for a stored submission: it holds the hash, or needs it no more. -/
def Payout.Covers (p : Payout) (hash : String) : Prop :=
  p.status = .completed ∨ (p.status = .processing ∧ p.submittedHash = some hash)

namespace Engine

open Disburse.Machine Disburse.Machine.Discipline

namespace Entry

/-- The record that an entry has left in the store. -/
def stored? (e : Entry) : Option Payout :=
  match e.exchange.request with
  | .store c => c.written?.filter fun p => e.store.find? p.id = some p
  | _ => none

/-- A write has stored the hash of a submission on a payout's record. -/
def Checkpoints (e : Entry) (id : PayoutId) (hash : String) : Prop :=
  ∃ p ∈ e.stored?, p.id = id ∧ p.submittedHash = some hash

instance (e : Entry) (id : PayoutId) (hash : String) : Decidable (e.Checkpoints id hash) :=
  inferInstanceAs (Decidable (∃ p ∈ e.stored?, _))

def memo? (e : Entry) : Option String :=
  match e.exchange.request with
  | .transfer (.submit request) => some request.memo
  | _ => none

/-- An entry that submits a transfer for a payout. -/
def Submits (e : Entry) (id : PayoutId) : Prop :=
  e.memo? = some id.toText

instance (e : Entry) (id : PayoutId) : Decidable (e.Submits id) :=
  inferInstanceAs (Decidable (_ = _))

/-- The submission that did not land, or is not known to: its confirmation ended in an error, or
it was looked up and had failed or was not found. -/
def settled? (e : Entry) : Option String :=
  match e.exchange with
  | ⟨.transfer (.awaitConfirmation hash), .error (.error _)⟩ => some hash
  | ⟨.transfer (.lookup hash), .ok (.failed _)⟩ => some hash
  | ⟨.transfer (.lookup hash), .ok .notFound⟩ => some hash
  | _ => none

/-- An entry after which nothing more is to be expected of a hash. -/
def Settles (e : Entry) (hash : String) : Prop :=
  e.settled? = some hash

instance (e : Entry) (hash : String) : Decidable (e.Settles hash) :=
  inferInstanceAs (Decidable (_ = _))

/-- The submission whose confirmation ended in a crash. -/
def crashed? (e : Entry) : Option String :=
  match e.exchange with
  | ⟨.transfer (.awaitConfirmation hash), .error .crash⟩ => some hash
  | _ => none

/-- An entry in which waiting for a hash has crashed. -/
def Crashes (e : Entry) (hash : String) : Prop :=
  e.crashed? = some hash

instance (e : Entry) (hash : String) : Decidable (e.Crashes hash) :=
  inferInstanceAs (Decidable (_ = _))

/-- A clock that stands before 1970, which crashes whoever reads it. -/
def IsEarly (e : Entry) : Prop :=
  match e.exchange with
  | ⟨.now, t⟩ => Instant.seconds t < 0
  | _ => False

instance (e : Entry) : Decidable e.IsEarly := by
  unfold IsEarly
  split
  all_goals infer_instance

/-- The record that an entry has inserted. -/
def created? (e : Entry) : Option Payout :=
  match e.exchange.request with
  | .store (.create _) => e.stored?
  | _ => none

/-- An entry that inserts a record under an identifier. -/
def Creates (e : Entry) (id : PayoutId) : Prop :=
  ∃ p ∈ e.created?, p.id = id

instance (e : Entry) (id : PayoutId) : Decidable (e.Creates id) :=
  inferInstanceAs (Decidable (∃ p ∈ e.created?, _))

/-- An entry behind which a hash may be forgotten. -/
def Clears (e : Entry) (id : PayoutId) (hash : String) : Prop :=
  e.Settles hash ∨ e.Crashes hash ∨ e.Creates id ∨ e.IsEarly

end Entry

/-- The hash was stored on the payout's record, and nothing has settled it since. -/
def Outstanding (log : List Entry) (id : PayoutId) (hash : String) : Prop :=
  ∃ before w after, log = before ++ w :: after ∧ w.Checkpoints id hash ∧
    ∀ e ∈ after, ¬ e.Clears id hash

/-- Whatever was submitted for a payout, nothing was outstanding then. -/
def Sent (log : List Entry) : Prop :=
  ∀ before sub, before ++ [sub] <+: log → ∀ id, sub.Submits id → ∀ hash,
    ¬ Outstanding before id hash

section Log

variable {log : List Entry} {e : Entry} {id : PayoutId} {hash : String}

theorem not_outstanding_nil : ¬ Outstanding [] id hash := by
  rintro ⟨before, w, after, hlog, -⟩
  simp at hlog

theorem Outstanding.of_append (h : Outstanding (log ++ [e]) id hash) :
    e.Checkpoints id hash ∨ (Outstanding log id hash ∧ ¬ e.Clears id hash) := by
  obtain ⟨before, w, after, hlog, hw, hafter⟩ := h
  -- The new entry is the write itself, or one of those after it.
  rcases List.eq_nil_or_concat after with rfl | ⟨after, e', rfl⟩
  · obtain ⟨rfl, hlast⟩ := List.append_inj' hlog rfl
    exact .inl (List.singleton_inj.mp hlast ▸ hw)
  · rw [List.concat_eq_append, ← List.cons_append, ← List.append_assoc] at hlog
    obtain ⟨hinit, hlast⟩ := List.append_inj' hlog rfl
    obtain rfl := List.singleton_inj.mp hlast
    refine .inr ⟨⟨before, w, after, hinit, hw, fun e' he' => hafter e' ?_⟩, hafter e ?_⟩
    all_goals simp [*]

theorem sent_nil : Sent [] := by
  intro before sub hprefix
  simp at hprefix

theorem Sent.append (h : Sent log) (he : ∀ id, e.Submits id → ∀ hash, ¬ Outstanding log id hash) :
    Sent (log ++ [e]) :=
  forall_prefix_append h he

end Log

/-- Requests that neither write to the store nor hand in a transfer. -/
def Request.isQuiet : Request → Bool
  | .store c => c.isRead
  | .transfer (.submit _) => false
  | .transfer (.awaitConfirmation _) => true
  | .transfer (.lookup _) => true
  | .now => true
  | .freshId => true
  | .publish _ => true
  | .dispatch _ => false
  | .pause _ => true

/-- The token `some id` belongs to the one execution of a payout that there may be, and `none` to
an operation that has everything to itself. -/
def Exclusive (tokens : Multiset (Option PayoutId)) : Prop :=
  tokens.Nodup ∧ (none ∈ tokens → tokens = {none})

/-- A thread with these tokens may start an execution of a payout, or is one. -/
def Owns (own : Multiset (Option PayoutId)) (id : PayoutId) : Prop :=
  none ∈ own ∨ some id ∈ own

/-- No hash is outstanding for a payout. -/
def Clear (s : Shared) (id : PayoutId) : Prop :=
  ∀ hash, ¬ Outstanding s.log id hash

/-- What always holds of the store, the log and the tokens. -/
structure Safe (s : Shared) (tokens : Multiset (Option PayoutId)) : Prop where
  processing : ∀ p ∈ s.store.rows, p.submittedHash.isSome → p.status = .processing
  covered : ∀ id hash, Outstanding s.log id hash →
    ∃ row, s.store.find? id = some row ∧ row.Covers hash
  sent : Sent s.log
  exclusive : Exclusive tokens

/-- For its own payouts, a thread finds nothing outstanding that was not before. -/
def Fewer (own : Multiset (Option PayoutId)) (s s' : Shared) : Prop :=
  ∀ id, Owns own id → ∀ hash, Outstanding s'.log id hash → Outstanding s.log id hash

variable {own others all rest : Multiset (Option PayoutId)} {token : Option PayoutId}
  {s s' : Shared} {id : PayoutId}

theorem Exclusive.of_le (h : Exclusive all) (hle : own ≤ all) : Exclusive own := by
  refine ⟨Multiset.nodup_of_le hle h.1, fun hmem => ?_⟩
  rw [h.2 (Multiset.mem_of_le hle hmem), Multiset.le_singleton] at hle
  rcases hle with rfl | rfl
  · exact absurd hmem (Multiset.notMem_zero none)
  · rfl

theorem Owns.of_le (h : Owns own id) (hle : own ≤ all) : Owns all id :=
  h.imp (Multiset.mem_of_le hle) (Multiset.mem_of_le hle)

theorem Exclusive.eq_zero (h : Exclusive ({none} + others)) : others = 0 := by
  exact add_eq_left.mp (h.2 (Multiset.mem_add.mpr (.inl (Multiset.mem_singleton_self none))))

theorem Exclusive.not_owns (h : Exclusive (own + others)) (hown : Owns own id) :
    ¬ Owns others id := by
  rcases hown with hall | hsome
  · obtain ⟨rest, rfl⟩ := Multiset.le_iff_exists_add.mp (Multiset.singleton_le.mpr hall)
    rw [add_assoc] at h
    have hothers : others = 0 := Multiset.le_zero.mp (h.eq_zero ▸ Multiset.le_add_left others rest)
    rintro (hmem | hmem)
    all_goals exact absurd (hothers ▸ hmem) (Multiset.notMem_zero _)
  · rintro (hnone | hmem)
    · have hsome : some id ∈ own + others := Multiset.mem_add.mpr (.inl hsome)
      rw [h.2 (Multiset.mem_add.mpr (.inr hnone)), Multiset.mem_singleton] at hsome
      cases hsome
    · exact (Multiset.disjoint_left.mp (Multiset.nodup_add.mp h.1).2.2) hsome hmem

theorem owns_cons (htoken : token = none ∨ token = some id) : Owns (token ::ₘ rest) id := by
  rcases htoken with rfl | rfl
  · exact .inl (Multiset.mem_cons_self ..)
  · exact .inr (Multiset.mem_cons_self ..)

theorem Exclusive.hand_on (h : Exclusive (token ::ₘ rest + others))
    (htoken : token = none ∨ token = some id) : Exclusive (rest + {some id} + others) := by
  rw [← Multiset.singleton_add, add_assoc] at h
  rcases htoken with rfl | rfl
  · obtain rfl := Multiset.le_zero.mp (h.eq_zero ▸ Multiset.le_add_right rest others)
    obtain rfl := Multiset.le_zero.mp (h.eq_zero ▸ Multiset.le_add_left others 0)
    exact ⟨by simp, by simp⟩
  · rwa [add_comm rest, add_assoc]

theorem Fewer.trans {s'' : Shared} (h : Fewer own s s') (h' : Fewer own s' s'') :
    Fewer own s s'' := by
  intro id hown hash houtstanding
  exact h id hown hash (h' id hown hash houtstanding)

theorem Fewer.clear (h : Fewer own s s') (hown : Owns own id) (hclear : Clear s id) :
    Clear s' id := by
  intro hash houtstanding
  exact hclear hash (h id hown hash houtstanding)

/-- The discipline of operations that come one after the other. -/
def checkpoints (policy : RetryPolicy) : Discipline (sequential policy) (Option PayoutId) where
  holds := Safe
  later := Fewer
  permits := fun _ _ _ _ _ => True
  entry := fun op s own => (op.isService ∧ own = {none}) ∨
    ∃ id, op = .dispatch id ∧ own = {some id} ∧ Clear s id
  final := fun _ _ _ _ => True
  later_refl := fun _ _ _ _ _ h => h
  later_trans := .trans
  later_mono := fun hle h id hown => h id (hown.of_le hle)
  release := fun _ h => ⟨h.processing, h.covered, h.sent,
    h.exclusive.of_le (Multiset.le_add_left ..)⟩

theorem Behaviour.store_eq_of_isQuiet {b : Behaviour} {r : Request} {a : interface.Answer r}
    {m m' : MemoryStore} (hquiet : r.isQuiet = true) (h : b.answer r m = some (a, m')) :
    m' = m := by
  cases r with
  | store c => exact (Behaviour.answer_read hquiet h).1
  | _ => exact Behaviour.answer_other (by simp) h

namespace Entry

variable {e : Entry} {c : StoreCall} {p q : Payout}

theorem find?_of_stored? (h : e.stored? = some p) : e.store.find? p.id = some p := by
  unfold stored? at h
  split at h
  · have hfilter := (Option.filter_eq_some_iff.mp h).2
    exact of_decide_eq_true hfilter
  · cases h

theorem eq_of_stored? (h : e.stored? = some q) (hc : e.exchange.request = .store c)
    (hwritten : c.written? = some p) : q = p := by
  simp only [stored?, hc, hwritten] at h
  exact (Option.some.inj (Option.filter_eq_some_iff.mp h).1).symm

theorem stored?_of_isQuiet (hquiet : e.exchange.request.isQuiet = true) : e.stored? = none := by
  unfold stored?
  split
  · rename_i c hc
    rw [hc] at hquiet
    cases c with
    | create _ | save _ | saveIf _ _ => cases hquiet
    | get _ | findBySubmission _ | findDue _ _ _ | findStale _ _ _ | list _ => rfl
  · rfl

theorem memo?_of_isQuiet (hquiet : e.exchange.request.isQuiet = true) : e.memo? = none := by
  unfold memo?
  split
  · rename_i request hrequest
    rw [hrequest] at hquiet
    cases hquiet
  · rfl

theorem not_checkpoints (h : ∀ p, e.stored? = some p → p.submittedHash = none) (id : PayoutId)
    (hash : String) : ¬ e.Checkpoints id hash := by
  rintro ⟨p, hp, -, hhash⟩
  rw [h p hp] at hhash
  cases hhash

theorem not_checkpoints_of_eq_none (h : e.stored? = none) (id : PayoutId) (hash : String) :
    ¬ e.Checkpoints id hash := by
  refine not_checkpoints (fun p hp => ?_) id hash
  rw [h] at hp
  cases hp

theorem not_submits (h : e.memo? = none) (id : PayoutId) : ¬ e.Submits id := by
  intro hsubmits
  rw [Submits, h] at hsubmits
  cases hsubmits

end Entry

theorem Safe.clear {row : Payout} (h : Safe s all) (hrow : s.store.find? id = some row)
    (hprocessing : row.status ≠ .processing) (hcompleted : row.status ≠ .completed) :
    Clear s id := by
  intro hash houtstanding
  obtain ⟨row', hrow', hcovers⟩ := h.covered id hash houtstanding
  rw [hrow] at hrow'
  obtain rfl := Option.some.inj hrow'
  exact hcovers.elim hcompleted fun hstatus => hprocessing hstatus.1

theorem Safe.append {e : Entry} (h : Safe s all) (hlog : s'.log = s.log ++ [e])
    (hstore : e.store = s'.store)
    (hprocessing : ∀ p ∈ s'.store.rows, p.submittedHash.isSome → p.status = .processing)
    (hkeeps : ∀ id hash row, s.store.find? id = some row → row.Covers hash →
      Outstanding s.log id hash → ¬ e.Clears id hash →
      ∃ row', s'.store.find? id = some row' ∧ row'.Covers hash)
    (hsubmits : ∀ id, e.Submits id → Clear s id) : Safe s' all where
  processing := hprocessing
  covered id hash houtstanding := by
    rw [hlog] at houtstanding
    rcases houtstanding.of_append with ⟨p, hp, rfl, hhash⟩ | ⟨hbefore, hclears⟩
    · have hfind := Entry.find?_of_stored? hp
      rw [hstore] at hfind
      have hmem := MemoryStore.mem_of_find? hfind
      exact ⟨p, hfind, .inr ⟨hprocessing p hmem (by rw [hhash]; rfl), hhash⟩⟩
    · obtain ⟨row, hrow, hcovers⟩ := h.covered id hash hbefore
      exact hkeeps id hash row hrow hcovers hbefore hclears
  sent := hlog ▸ h.sent.append hsubmits
  exclusive := h.exclusive

theorem Safe.append_of_store_eq {e : Entry} (h : Safe s all) (hlog : s'.log = s.log ++ [e])
    (hstore : e.store = s'.store) (hsame : s'.store = s.store)
    (hsubmits : ∀ id, e.Submits id → Clear s id) : Safe s' all :=
  h.append hlog hstore (hsame ▸ h.processing)
    (fun _ _ row hrow hcovers _ _ => ⟨row, hsame ▸ hrow, hcovers⟩) hsubmits

theorem Safe.append_overwrite {e : Entry} {p row : Payout} (h : Safe s all)
    (hlog : s'.log = s.log ++ [e]) (hstore : e.store = s'.store)
    (hwrite : s'.store = s.store.overwrite p) (hrow : s.store.find? p.id = some row)
    (hprocessing : p.submittedHash.isSome → p.status = .processing)
    (hcovers : ∀ hash, Outstanding s.log p.id hash → p.Covers hash)
    (hsubmits : ∀ id, e.Submits id → Clear s id) : Safe s' all := by
  refine h.append hlog hstore ?_ ?_ hsubmits
  · intro q hq
    rw [hwrite, MemoryStore.mem_overwrite] at hq
    rcases hq with ⟨hq, -⟩ | ⟨rfl, -⟩
    · exact h.processing q hq
    · exact hprocessing
  · intro id hash row' hrow' hcovers' houtstanding _
    rw [hwrite]
    by_cases hid : id = p.id
    · subst hid
      exact ⟨p, MemoryStore.find?_overwrite_self hrow, hcovers hash houtstanding⟩
    · exact ⟨row', by rwa [MemoryStore.find?_overwrite_of_ne hid], hcovers'⟩

theorem Fewer.of_append {e : Entry} (hlog : s'.log = s.log ++ [e])
    (hstores : ∀ id, Owns own id → ∀ hash, ¬ e.Checkpoints id hash) : Fewer own s s' := by
  intro id hown hash houtstanding
  rw [hlog] at houtstanding
  exact (houtstanding.of_append.resolve_left (hstores id hown hash)).1

namespace checkpoints

variable {policy : RetryPolicy} {v : View (sequential policy) (Option PayoutId)} {p : Payout}
  {hash : String}

/-- The tokens stay, and no hash has become outstanding for their payouts. -/
structure Kept (v v' : View (sequential policy) (Option PayoutId)) : Prop where
  own : v'.own = v.own
  fewer : Fewer v.own v.state v'.state

/-- What a thread knows behind a request that concerns none of its hashes. -/
structure Heard (v : View (sequential policy) (Option PayoutId)) (r : Request)
    (a : interface.Answer r) (s' : Shared) : Prop where
  safe : ∃ tokens, Safe s' tokens
  answered : ∃ b, Behaviour.answer b r s'.store = some (a, s'.store)
  settled : ∀ id, Owns v.own id → ∀ hash, Outstanding s'.log id hash →
    Outstanding v.state.log id hash ∧ ¬ Entry.Clears ⟨⟨r, a⟩, s'.store⟩ id hash

theorem Heard.fewer {r : Request} {a : interface.Answer r} (h : Heard v r a s') :
    Fewer v.own v.state s' := by
  intro id hown hash houtstanding
  exact (h.settled id hown hash houtstanding).1

theorem asks_heard {r : Request}
    {Q : interface.Answer r → View (sequential policy) (Option PayoutId) → Prop}
    (own : interface.Answer r → Multiset (Option PayoutId)) (hquiet : r.isQuiet = true)
    (hown : ∀ others a s', Heard v r a s' → Exclusive (v.own + others) →
      Exclusive (own a + others))
    (hQ : ∀ a s', Heard v r a s' → Q a ⟨s', own a, v.past ++ [⟨r, a⟩]⟩) :
    (checkpoints policy).Asks r Q v := by
  intro s others hlater hholds b a s' hanswer
  obtain ⟨hbehaviour, -, hlog, -⟩ := Shared.answer_eq_some hanswer
  have hsame : s'.store = s.store := Behaviour.store_eq_of_isQuiet hquiet hbehaviour
  have hsafe : Safe s' (v.own + others) :=
    Safe.append_of_store_eq hholds hlog rfl hsame
      fun id hsubmits => absurd hsubmits (Entry.not_submits (Entry.memo?_of_isQuiet hquiet) id)
  have hnone : ∀ id hash, ¬ Entry.Checkpoints ⟨⟨r, a⟩, s'.store⟩ id hash :=
    Entry.not_checkpoints_of_eq_none (Entry.stored?_of_isQuiet hquiet)
  have hheard : Heard v r a s' := by
    refine ⟨⟨_, hsafe⟩, ⟨b, by rwa [← hsame] at hbehaviour⟩, fun id hid hash houtstanding => ?_⟩
    rw [hlog] at houtstanding
    obtain ⟨hbefore, hclears⟩ := houtstanding.of_append.resolve_left (hnone id hash)
    exact ⟨hlater id hid hash hbefore, hclears⟩
  refine ⟨own a, 0, ?_, trivial, .of_append hlog fun id _ => hnone id, ?_, hQ a s' hheard⟩
  · rw [add_zero]
    exact ⟨hsafe.processing, hsafe.covered, hsafe.sent,
      hown others a s' hheard hsafe.exclusive⟩
  · cases r with
    | dispatch id => cases hquiet
    | _ => rfl

theorem asks_quiet {r : Request}
    {Q : interface.Answer r → View (sequential policy) (Option PayoutId) → Prop}
    (hquiet : r.isQuiet = true)
    (hQ : ∀ a s', Heard v r a s' → Q a ⟨s', v.own, v.past ++ [⟨r, a⟩]⟩) :
    (checkpoints policy).Asks r Q v :=
  asks_heard (fun _ => v.own) hquiet (fun _ _ _ _ h => h) hQ

theorem asks_submit {request : TransferRequest}
    {Q : Outcome String → View (sequential policy) (Option PayoutId) → Prop}
    (hown : Owns v.own id) (hclear : Clear v.state id) (hmemo : request.memo = id.toText)
    (hQ : ∀ a v', Kept v v' → Q a v') :
    (checkpoints policy).Asks (.transfer (.submit request)) Q v := by
  intro s others hlater hholds b a s' hanswer
  obtain ⟨hbehaviour, -, hlog, -⟩ := Shared.answer_eq_some hanswer
  have hsame : s'.store = s.store := Behaviour.answer_other (by simp) hbehaviour
  have hfewer : ∀ own, Fewer own s s' :=
    fun own => .of_append hlog fun id' _ => Entry.not_checkpoints_of_eq_none rfl id'
  refine ⟨v.own, 0, ?_, trivial, hfewer others, rfl,
    hQ a _ ⟨rfl, Fewer.trans hlater (hfewer v.own)⟩⟩
  rw [add_zero]
  refine Safe.append_of_store_eq hholds hlog rfl hsame fun id' hsubmits => ?_
  have hmemo' : request.memo = id'.toText := Option.some.inj hsubmits
  obtain rfl := PayoutId.toText_injective (hmemo'.symm.trans hmemo)
  exact Fewer.clear hlater hown hclear

/-- A write of a record without a hash. It must account for what is outstanding: by being
completed, or because nothing is, which is also so whenever the record that it replaces is
neither processing nor completed. -/
theorem asks_saveIf {expected : Status}
    {Q : Except Error Bool → View (sequential policy) (Option PayoutId) → Prop}
    (hhash : p.submittedHash = none)
    (hcovers : p.status = .completed ∨ (Owns v.own p.id ∧ Clear v.state p.id) ∨
      (expected ≠ .processing ∧ expected ≠ .completed))
    (hQ : ∀ a v', Kept v v' →
      (a = .ok true → expected ≠ .processing → expected ≠ .completed → Clear v'.state p.id) →
      Q a v') :
    (checkpoints policy).Asks (.store (.saveIf p expected)) Q v := by
  intro s others hlater hholds b a s' hanswer
  obtain ⟨hbehaviour, -, hlog, -⟩ := Shared.answer_eq_some hanswer
  have hsubmits : ∀ id, Entry.Submits ⟨⟨.store (.saveIf p expected), a⟩, s'.store⟩ id →
      Clear s id :=
    fun id hsubmits => absurd hsubmits (Entry.not_submits rfl id)
  have hnone : ∀ id hash,
      ¬ Entry.Checkpoints ⟨⟨.store (.saveIf p expected), a⟩, s'.store⟩ id hash := by
    refine Entry.not_checkpoints fun q hq => ?_
    rw [Entry.eq_of_stored? hq rfl rfl, hhash]
  have hfewer : ∀ own, Fewer own s s' := fun own => .of_append hlog fun id _ => hnone id
  have hkept : Fewer v.own v.state s' := Fewer.trans hlater (hfewer v.own)
  rcases Behaviour.answer_saveIf hbehaviour with ⟨hsame, hlost⟩ | ⟨hwrite, -, row, hrow, hstatus⟩
  · refine ⟨v.own, 0, ?_, trivial, hfewer others, rfl,
      hQ a _ ⟨rfl, hkept⟩ fun hwon => absurd hwon hlost⟩
    rw [add_zero]
    exact Safe.append_of_store_eq hholds hlog rfl hsame hsubmits
  · have hreplaced : expected ≠ .processing → expected ≠ .completed → Clear s p.id := by
      rw [← hstatus]
      exact Safe.clear hholds hrow
    refine ⟨v.own, 0, ?_, trivial, hfewer others, rfl, hQ a _ ⟨rfl, hkept⟩ ?_⟩
    · rw [add_zero]
      refine Safe.append_overwrite hholds hlog rfl hwrite hrow (by simp [hhash]) ?_ hsubmits
      intro hash houtstanding
      rcases hcovers with hcompleted | ⟨hown, hclear⟩ | ⟨hprocessing, hcompleted⟩
      · exact .inl hcompleted
      · exact absurd houtstanding (Fewer.clear hlater hown hclear hash)
      · exact absurd houtstanding (hreplaced hprocessing hcompleted hash)
    · intro _ hprocessing hcompleted hash houtstanding
      rw [hlog] at houtstanding
      exact hreplaced hprocessing hcompleted hash
        (houtstanding.of_append.resolve_left (hnone p.id hash)).1

theorem asks_checkpoint {Q : Except Error Bool → View (sequential policy) (Option PayoutId) → Prop}
    (hown : some p.id ∈ v.own) (hstatus : p.status = .processing)
    (hhash : p.submittedHash = some hash)
    (honly : ∀ hash', Outstanding v.state.log p.id hash' → hash' = hash)
    (hQ : ∀ a v', v'.own = v.own →
      (∀ hash', Outstanding v'.state.log p.id hash' → hash' = hash) → Q a v') :
    (checkpoints policy).Asks (.store (.saveIf p .processing)) Q v := by
  intro s others hlater hholds b a s' hanswer
  obtain ⟨hbehaviour, -, hlog, -⟩ := Shared.answer_eq_some hanswer
  have hsubmits : ∀ id, Entry.Submits ⟨⟨.store (.saveIf p .processing), a⟩, s'.store⟩ id →
      Clear s id :=
    fun id hsubmits => absurd hsubmits (Entry.not_submits rfl id)
  have honly' : ∀ hash', Outstanding s.log p.id hash' → hash' = hash :=
    fun hash' houtstanding => honly hash' (hlater p.id (.inr hown) hash' houtstanding)
  -- The hash is new to the others, but the payout is not theirs.
  have hfewer : Fewer others s s' := by
    refine .of_append hlog fun id hid hash' => ?_
    rintro ⟨q, hq, rfl, -⟩
    rw [Entry.eq_of_stored? hq rfl rfl] at hid
    exact (Safe.exclusive hholds).not_owns (.inr hown) hid
  have hsafe : Safe s' (v.own + others) := by
    rcases Behaviour.answer_saveIf hbehaviour with ⟨hsame, -⟩ | ⟨hwrite, -, row, hrow, -⟩
    · exact Safe.append_of_store_eq hholds hlog rfl hsame hsubmits
    · refine Safe.append_overwrite hholds hlog rfl hwrite hrow (fun _ => hstatus) ?_ hsubmits
      intro hash' houtstanding
      exact .inr ⟨hstatus, by rw [honly' hash' houtstanding, hhash]⟩
  refine ⟨v.own, 0, by rwa [add_zero], trivial, hfewer, rfl, hQ a _ rfl ?_⟩
  intro hash' houtstanding
  rw [hlog] at houtstanding
  rcases houtstanding.of_append with ⟨q, hq, -, hhash'⟩ | ⟨hbefore, -⟩
  · rw [Entry.eq_of_stored? hq rfl rfl, hhash] at hhash'
    exact (Option.some.inj hhash').symm
  · exact honly' hash' hbefore

theorem asks_create {Q : Except Error Unit → View (sequential policy) (Option PayoutId) → Prop}
    (hhash : p.submittedHash = none) (hQ : ∀ a v', Kept v v' → Q a v') :
    (checkpoints policy).Asks (.store (.create p)) Q v := by
  intro s others hlater hholds b a s' hanswer
  obtain ⟨hbehaviour, -, hlog, -⟩ := Shared.answer_eq_some hanswer
  have hsubmits : ∀ id, Entry.Submits ⟨⟨.store (.create p), a⟩, s'.store⟩ id → Clear s id :=
    fun id hsubmits => absurd hsubmits (Entry.not_submits rfl id)
  have hfewer : ∀ own, Fewer own s s' := by
    refine fun own => .of_append hlog fun id _ => Entry.not_checkpoints (fun q hq => ?_) id
    rw [Entry.eq_of_stored? hq rfl rfl, hhash]
  refine ⟨v.own, 0, ?_, trivial, hfewer others, rfl,
    hQ a _ ⟨rfl, Fewer.trans hlater (hfewer v.own)⟩⟩
  rw [add_zero]
  rcases Behaviour.answer_create hbehaviour with hsame | hwrite
  · exact Safe.append_of_store_eq hholds hlog rfl hsame hsubmits
  · refine Safe.append hholds hlog rfl ?_ ?_ hsubmits
    · intro q hq
      rw [hwrite, MemoryStore.mem_insert] at hq
      rcases hq with ⟨hq, -⟩ | rfl
      · exact Safe.processing hholds q hq
      · simp [hhash]
    · intro id hash row hrow hcovers _ hclears
      -- What was outstanding under the same identifier ends with the creation.
      have hne : id ≠ p.id := by
        rintro rfl
        have hfind : s'.store.find? p.id = some p := hwrite ▸ MemoryStore.find?_insert_self
        have hcreated : Entry.created? ⟨⟨.store (.create p), a⟩, s'.store⟩ = some p := by
          simp [Entry.created?, Entry.stored?, StoreCall.written?, hfind]
        exact hclears (.inr (.inr (.inl ⟨p, hcreated, rfl⟩)))
      exact ⟨row, by rwa [hwrite, MemoryStore.find?_insert_of_ne hne], hcovers⟩

theorem asks_dispatch {Q : Unit → View (sequential policy) (Option PayoutId) → Prop}
    (hown : v.own = token ::ₘ rest) (htoken : token = none ∨ token = some id)
    (hclear : Clear v.state id) (hQ : ∀ v', v'.own = rest → Q () v') :
    (checkpoints policy).Asks (.dispatch id) Q v := by
  intro s others hlater hholds b a s' hanswer
  obtain ⟨hbehaviour, -, hlog, -⟩ := Shared.answer_eq_some hanswer
  have hsame : s'.store = s.store := Behaviour.answer_other (by simp) hbehaviour
  have hfewer : ∀ own, Fewer own s s' :=
    fun own => .of_append hlog fun id' _ => Entry.not_checkpoints_of_eq_none rfl id'
  have howns : Owns v.own id := hown ▸ owns_cons htoken
  have hsafe : Safe s' (v.own + others) :=
    Safe.append_of_store_eq hholds hlog rfl hsame
      fun id' hsubmits => absurd hsubmits (Entry.not_submits rfl id')
  have hexclusive : Exclusive (rest + {some id} + others) := by
    refine Exclusive.hand_on ?_ htoken
    rw [← hown]
    exact hsafe.exclusive
  refine ⟨rest, {some id}, ⟨hsafe.processing, hsafe.covered, hsafe.sent, hexclusive⟩, trivial,
    hfewer others, .inr ⟨id, rfl, rfl, ?_⟩, hQ _ rfl⟩
  exact Fewer.clear (Fewer.trans hlater (hfewer v.own)) howns hclear

end checkpoints

end Engine

end Disburse
