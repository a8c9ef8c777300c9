import Disburse.Proofs.Engine.Checkpoint
import Disburse.Proofs.Engine.Observance
import Disburse.Proofs.Engine.Transitions
import Mathlib.Data.List.Perm.Basic

namespace Disburse.Engine

open Disburse.Machine

namespace Entry

/-- What listeners are told. -/
def event? (e : Entry) : Option Event :=
  match e.exchange.request with
  | .publish event => some event
  | _ => none

end Entry

/-- The events of one name about a payout. -/
def published (name : String) (id : PayoutId) (log : List Entry) : List Event :=
  (log.filterMap Entry.event?).filter fun e => e.name = name ∧ e.id = id

/-- A record in one store and in the next. -/
def change? (id : PayoutId) (s s' : MemoryStore) : Option (Payout × Payout) :=
  (s.find? id).bind fun p => (s'.find? id).map fun q => (p, q)

/-- A record as it was in front of each entry and behind it, from a store on. -/
def changes (id : PayoutId) : MemoryStore → List Entry → List (Payout × Payout)
  | _, [] => []
  | s, e :: log => (change? id s e.store).toList ++ changes id e.store log

/-- The store behind the last entry. -/
def storeAfter : MemoryStore → List Entry → MemoryStore
  | s, [] => s
  | _, e :: log => storeAfter e.store log

/-- A change that brings a record into processing. -/
def Enters (change : Payout × Payout) : Prop :=
  change.1.status ≠ .processing ∧ change.2.status = .processing

instance (change : Payout × Payout) : Decidable (Enters change) :=
  inferInstanceAs (Decidable (_ ∧ _))

/-- A change that books a failure. -/
def Fails (change : Payout × Payout) : Prop :=
  change.1.status = .processing ∧
    (change.2.status = .retryScheduled ∨ change.2.status = .failed)

instance (change : Payout × Payout) : Decidable (Fails change) :=
  inferInstanceAs (Decidable (_ ∧ _))

/-- The times at which a payout came into processing. -/
def entered (id : PayoutId) (log : List Entry) : List (Payout × Payout) :=
  (changes id .empty log).filter fun change => Enters change

/-- The times at which a failure of a payout was booked. -/
def failures (id : PayoutId) (log : List Entry) : List (Payout × Payout) :=
  (changes id .empty log).filter fun change => Fails change

variable {s s' : MemoryStore} {log : List Entry} {e : Entry} {id : PayoutId}

theorem filterMap_toList {α β : Type} (o : Option α) (f : α → Option β) :
    o.toList.filterMap f = (o.bind f).toList := by
  cases o with
  | none => rfl
  | some a => cases h : f a <;> simp [h]

theorem storeAfter_append : storeAfter s (log ++ [e]) = e.store := by
  induction log generalizing s with
  | nil => rfl
  | cons e' log ih => exact ih

theorem changes_append :
    changes id s (log ++ [e]) =
      changes id s log ++ (change? id (storeAfter s log) e.store).toList := by
  induction log generalizing s with
  | nil => simp [changes, storeAfter]
  | cons e' log ih => simp [changes, storeAfter, ih]

theorem exists_of_mem_changes {change : Payout × Payout} (h : change ∈ changes id s log) :
    ∃ e ∈ log, e.store.find? id = some change.2 := by
  induction log generalizing s with
  | nil => cases h
  | cons e log ih =>
      rcases List.mem_append.mp h with h | h
      · obtain ⟨p, -, h⟩ := Option.bind_eq_some_iff.mp (Option.mem_toList.mp h)
        obtain ⟨q, hq, rfl⟩ := Option.map_eq_some_iff.mp h
        exact ⟨e, List.mem_cons_self, hq⟩
      · obtain ⟨e', he', hfind⟩ := ih h
        exact ⟨e', List.mem_cons_of_mem e he', hfind⟩

theorem id_of_mem_changes {change : Payout × Payout} (h : change ∈ changes id s log) :
    change.2.id = id := by
  obtain ⟨e, -, hfind⟩ := exists_of_mem_changes h
  exact MemoryStore.find?_id hfind

section Machine

variable {policy : RetryPolicy} {distinct : Bool} {opens : Operation → Bool → Bool}
  {moves : List (machine policy distinct opens).Move} {t : (machine policy distinct opens).Thread}

theorem abides (ht : t ∈ ((machine policy distinct opens).run moves).threads) :
    t.Abides conduct fun _ _ past => owed past = none := by
  refine abides_of_mem_run (M := machine policy distinct opens) (conduct.obeys_program policy)
    ?_ ht
  intro op b r s a s' hanswer
  exact faithful_of_answer (Shared.answer_eq_some hanswer).1

theorem owed_of_isDone (ht : t ∈ ((machine policy distinct opens).run moves).threads)
    (hdone : t.isDone = true) : owed t.past = none := by
  obtain ⟨value, howed⟩ := (abides ht).final_of_done hdone
  exact howed

theorem exchanges_perm :
    (((machine policy distinct opens).run moves).state.log.map Entry.exchange).Perm
      (((machine policy distinct opens).run moves).threads.flatMap Thread.past) := by
  refine run_induction (M := machine policy distinct opens)
    (P := fun c => (c.state.log.map Entry.exchange).Perm (c.threads.flatMap Thread.past))
    (K := fun _ => True) (by simp [start, Shared.empty]) ?_ ?_ fun _ _ => trivial
  · intro moves op _ ih
    simpa [Thread.start] using ih
  · intro moves position b before op past r next after a s _ hthreads hanswer _ ih
    have hlog := (Shared.answer_eq_some hanswer).2.2.1
    have hspawned : (((machine policy distinct opens).spawned r).map
        (Thread.start (M := machine policy distinct opens))).toList.flatMap Thread.past = [] := by
      cases (machine policy distinct opens).spawned r <;> simp [Thread.start]
    rw [hthreads] at ih
    simp only [hlog, List.map_append, List.flatMap_append, List.flatMap_cons, hspawned,
      List.append_nil, List.map_cons, List.map_nil] at ih ⊢
    refine (ih.append_right _).trans ?_
    simp only [List.append_assoc]
    exact List.Perm.append_left _ (List.Perm.append_left _ List.perm_append_comm)

theorem exists_mem_log {x : Exchange interface}
    (ht : t ∈ ((machine policy distinct opens).run moves).threads) (hx : x ∈ t.past) :
    ∃ e ∈ ((machine policy distinct opens).run moves).state.log, e.exchange = x :=
  List.mem_map.mp (exchanges_perm.mem_iff.mpr (List.mem_flatMap.mpr ⟨t, ht, hx⟩))

theorem storeAfter_run :
    storeAfter .empty ((machine policy distinct opens).run moves).state.log =
      ((machine policy distinct opens).run moves).state.store := by
  refine run_induction (M := machine policy distinct opens)
    (P := fun c => storeAfter .empty c.state.log = c.state.store)
    (K := fun _ => True) rfl (fun _ _ _ ih => ih) ?_ fun _ _ => trivial
  intro moves position b before op past r next after a s _ hthreads hanswer _ ih
  rw [(Shared.answer_eq_some hanswer).2.2.1, storeAfter_append]

theorem due_perm_given :
    ((((machine policy distinct opens).run moves).state.log.map Entry.exchange).filterMap
        Notice.due?).Perm
      ((((machine policy distinct opens).run moves).state.log.map Entry.exchange).filterMap
          (fun x => Notice.given? x.request) ++
        ((machine policy distinct opens).run moves).threads.flatMap
          fun t => (owed t.past).toList) := by
  refine (exchanges_perm.filterMap _).trans ?_
  refine List.Perm.trans ?_ ((exchanges_perm.filterMap _).symm.append_right _)
  rw [List.filterMap_flatMap, List.filterMap_flatMap]
  refine List.Perm.trans ?_ (List.flatMap_append_perm ..).symm
  refine List.Perm.of_eq (List.flatMap_congr fun t ht => ?_)
  exact filterMap_due?_eq (abides ht).allowed

/-- A store call that reports an error has not acted. -/
def isPrompt : (machine policy distinct opens).Move → Bool
  | .resume _ (.failAfter _) => false
  | _ => true

end Machine

namespace Notice

/-- What a change of a record calls for. -/
def ofChange? (change : Payout × Payout) : Option Notice :=
  if Enters change then some (.execution change.2.id)
  else if Fails change then some (.failure (failureEvent change.2))
  else none

theorem ofChange?_refl (p : Payout) : ofChange? (p, p) = none := by
  cases hstatus : p.status <;> simp [ofChange?, Enters, Fails, hstatus]

theorem ofChange?_pending {p q : Payout} (h : q.status = .pending) : ofChange? (p, q) = none := by
  simp [ofChange?, Enters, Fails, h]

theorem ofChange?_eq_ofWrite? {p q : Payout} {past : List (Exchange interface)}
    (h : Swappable past q p.status) : ofChange? (p, q) = ofWrite? q p.status := by
  have hfailed := h.failed
  cases hq : q.status <;> cases hp : p.status <;>
    simp_all [ofChange?, ofWrite?, Enters, Fails]

theorem id_of_ofWrite? {p : Payout} {expected : Status} {n : Notice}
    (h : ofWrite? p expected = some n) : n.id = p.id := by
  unfold ofWrite? at h
  split at h
  · cases h
  · split at h
    · cases h
    · exact Option.some.inj h ▸ rfl
  · cases h
  · exact Option.some.inj h ▸ rfl
  · exact Option.some.inj h ▸ rfl

end Notice

theorem Behaviour.answer_prompt {b : Behaviour} {c : StoreCall} {a : c.Answer}
    (hprompt : ∀ e, b ≠ .failAfter e) (hbatch : c.isBatch = false)
    (h : b.answer (.store c) s = some (a, s')) :
    s.answer c = (a, s') ∨ (∃ e, a = .error e) ∧ s' = s := by
  cases b with
  | plain => exact .inl (Option.some.inj h)
  | shuffled rows =>
      rw [(Behaviour.answer_shuffled h).2.1] at hbatch
      cases hbatch
  | fail e =>
      obtain ⟨rfl, rfl⟩ := Prod.mk.inj (Option.some.inj h)
      exact .inr ⟨⟨e, rfl⟩, rfl⟩
  | failAfter e => exact absurd rfl (hprompt e)
  | submitted _ | confirmed _ | found _ | clock _ | draw _ => cases h

theorem bind_change?_of_eq (h : s'.find? id = s.find? id) :
    (change? id s s').bind Notice.ofChange? = none := by
  cases hfind : s.find? id <;> simp [change?, h, hfind, Notice.ofChange?_refl]

theorem bind_change?_overwrite {past : List (Exchange interface)} {p row : Payout}
    (hswap : Swappable past p row.status) (hrow : s.find? p.id = some row) :
    (change? id s (s.overwrite p)).bind Notice.ofChange? =
      (Notice.ofWrite? p row.status).filter fun n => n.id = id := by
  by_cases hid : id = p.id
  · subst hid
    rw [change?, hrow, MemoryStore.find?_overwrite_self hrow]
    show Notice.ofChange? (row, p) = _
    rw [Notice.ofChange?_eq_ofWrite? hswap]
    cases hn : Notice.ofWrite? p row.status with
    | none => rfl
    | some n => simp [Option.filter, Notice.id_of_ofWrite? hn]
  · rw [bind_change?_of_eq (MemoryStore.find?_overwrite_of_ne hid)]
    refine (Option.filter_eq_none_iff.mpr fun n hn => ?_).symm
    simpa [Notice.id_of_ofWrite? hn] using Ne.symm hid

theorem bind_change?_answer {op : Operation} {past : List (Exchange interface)} {r : Request}
    {a : interface.Answer r} {b : Behaviour} (hproper : Proper op past r)
    (hprompt : ∀ e, b ≠ .failAfter e) (hanswer : b.answer r s = some (a, s')) :
    (change? id s s').bind Notice.ofChange? =
      (Notice.due? ⟨r, a⟩).filter fun n => n.id = id := by
  have hquiet : s' = s → Notice.due? ⟨r, a⟩ = none →
      (change? id s s').bind Notice.ofChange? = (Notice.due? ⟨r, a⟩).filter fun n => n.id = id := by
    rintro rfl hdue
    rw [bind_change?_of_eq rfl, hdue]
    rfl
  cases r with
  | now | freshId | pause _ | publish _ | dispatch _ | transfer _ =>
      exact hquiet (Behaviour.answer_other (by simp) hanswer) rfl
  | store c =>
      cases c with
      | get _ | findBySubmission _ | findDue _ _ _ | findStale _ _ _ | list _ =>
          exact hquiet (Behaviour.answer_read rfl hanswer).1 rfl
      | save p => exact hproper.elim
      | create p =>
          rcases Behaviour.answer_create hanswer with rfl | rfl
          · exact hquiet rfl rfl
          show _ = none
          by_cases hid : id = p.id
          · subst hid
            have hpending := fun q => Notice.ofChange?_pending (p := q) hproper.2.1
            cases hfind : s.find? p.id <;>
              simp [change?, hfind, MemoryStore.find?_insert_self, hpending]
          · exact bind_change?_of_eq (MemoryStore.find?_insert_of_ne hid)
      | saveIf p expected =>
          rcases Behaviour.answer_prompt hprompt rfl hanswer with hplain | ⟨⟨e, rfl⟩, rfl⟩
          · rcases s.saveIf_cases p expected with ⟨row, hrow, rfl, hswap⟩ | ⟨hsame, hlost⟩
            · obtain ⟨rfl, rfl⟩ := Prod.mk.inj (hswap.symm.trans hplain)
              exact bind_change?_overwrite hproper hrow
            · obtain ⟨rfl, rfl⟩ : a = (s.saveIf p expected).1 ∧ s' = (s.saveIf p expected).2 := by
                rw [show s.saveIf p expected = (a, s') from hplain]
                exact ⟨rfl, rfl⟩
              refine hquiet hsame ?_
              cases hcase : (s.saveIf p expected).1 with
              | error e => rfl
              | ok won =>
                  cases won with
                  | false => rfl
                  | true => exact absurd hcase hlost
          · exact hquiet rfl rfl

section Machine

variable {policy : RetryPolicy} {distinct : Bool} {opens : Operation → Bool → Bool}
  {moves : List (machine policy distinct opens).Move}

theorem filterMap_changes (hmoves : ∀ move ∈ moves, isPrompt move = true) :
    (changes id .empty ((machine policy distinct opens).run moves).state.log).filterMap
        Notice.ofChange? =
      ((((machine policy distinct opens).run moves).state.log.map Entry.exchange).filterMap
        Notice.due?).filter fun n => n.id = id := by
  refine run_induction (M := machine policy distinct opens)
    (P := fun c => (changes id .empty c.state.log).filterMap Notice.ofChange? =
      ((c.state.log.map Entry.exchange).filterMap Notice.due?).filter fun n => n.id = id)
    (K := fun move => isPrompt move = true) rfl (fun _ _ _ ih => ih) ?_ hmoves
  intro moves position b before op past r next after a s hprompt hthreads hanswer _ ih
  obtain ⟨hbehaviour, -, hlog, -⟩ := Shared.answer_eq_some hanswer
  have hthread : ⟨op, past, .ask r next⟩ ∈ ((machine policy distinct opens).run moves).threads := by
    simp [hthreads]
  have hproper : Proper op past r := ((abides hthread).rest).1.2
  have hlast : (change? id ((machine policy distinct opens).run moves).state.store s.store).bind
      Notice.ofChange? = (Notice.due? ⟨r, a⟩).filter fun n => n.id = id := by
    refine bind_change?_answer hproper ?_ hbehaviour
    rintro e rfl
    cases hprompt
  have hchange : (change? id ((machine policy distinct opens).run moves).state.store
      s.store).toList.filterMap Notice.ofChange? =
        ([⟨r, a⟩].filterMap Notice.due?).filter fun n => n.id = id := by
    rw [filterMap_toList, hlast]
    cases hdue : Notice.due? ⟨r, a⟩ with
    | none => simp [hdue]
    | some n => by_cases hid : n.id = id <;> simp [hdue, hid, Option.filter]
  rw [hlog, changes_append, storeAfter_run, List.filterMap_append, ih, hchange]
  simp only [List.map_append, List.filterMap_append, List.filter_append, List.map_cons,
    List.map_nil]

theorem mem_rows_of_recordsIn {c : StoreCall} {a : c.Answer} {b : Behaviour} {s s' : MemoryStore}
    {p : Payout} (hanswer : b.answer (.store c) s = some (a, s'))
    (hp : p ∈ recordsIn ⟨.store c, a⟩) : p ∈ s'.rows := by
  have hread : c.isRead = true := by
    cases c with
    | create _ | save _ | saveIf _ _ => cases hp
    | get _ | findBySubmission _ | findDue _ _ _ | findStale _ _ _ | list _ => rfl
  obtain ⟨rfl, ⟨kept, hkept, rfl⟩ | ⟨e, rfl⟩⟩ := Behaviour.answer_read hread hanswer
  · rw [← hkept.mem_iff]
    cases c with
    | create _ | save _ | saveIf _ _ => cases hread
    | get id => exact MemoryStore.mem_of_find? (Option.mem_toList.mp hp)
    | findBySubmission ref => exact MemoryStore.mem_of_findSubmission? (Option.mem_toList.mp hp)
    | findDue _ _ _ => exact (MemoryStore.mem_findDue hp).1
    | findStale _ _ _ => exact MemoryStore.mem_findStale hp
    | list _ => exact MemoryStore.mem_list hp
  · cases c <;> cases hp

theorem find?_of_answer {r : Request} {a : interface.Answer r} {b : Behaviour} {s s' : MemoryStore}
    {p : Payout} (hanswer : b.answer r s = some (a, s'))
    (hp : p ∈ recordsIn ⟨r, a⟩ ∨ ∃ expected, ⟨r, a⟩ = wonSwap p expected) :
    s'.find? p.id = some p := by
  rcases hp with hp | ⟨expected, hswap⟩
  · cases r with
    | store c => exact MemoryStore.find?_of_mem (mem_rows_of_recordsIn hanswer hp)
    | transfer _ | now | freshId | publish _ | dispatch _ | pause _ => cases hp
  · cases hswap
    rcases Behaviour.answer_saveIf hanswer with ⟨-, hlost⟩ | ⟨rfl, -, row, hrow, -⟩
    · exact absurd rfl hlost
    · exact MemoryStore.find?_overwrite_self hrow

theorem store_of_mem_log (he : e ∈ ((machine policy distinct opens).run moves).state.log) :
    ∃ first more, moves = first ++ more ∧
      ((machine policy distinct opens).run first).state.store = e.store := by
  induction moves using List.reverseRecOn with
  | nil => cases he
  | append_singleton moves move ih =>
      have hold : e ∈ ((machine policy distinct opens).run moves).state.log →
          ∃ first more, moves ++ [move] = first ++ more ∧
            ((machine policy distinct opens).run first).state.store = e.store := by
        intro he
        obtain ⟨first, more, rfl, hstore⟩ := ih he
        exact ⟨first, more ++ [move], List.append_assoc .., hstore⟩
      have hrun := run_append_singleton moves move
      obtain hstep | ⟨op, -, -, hstep⟩ | ⟨position, b, -, before, op, past, r, next, after, a, s,
        -, hanswer, hstep⟩ := ((machine policy distinct opens).run moves).step_cases move
      · exact hold (by rwa [hrun, hstep] at he)
      · exact hold (by rwa [hrun, hstep] at he)
      · rw [hrun, hstep] at he
        change e ∈ s.log at he
        rw [(Shared.answer_eq_some hanswer).2.2.1, List.mem_append, List.mem_singleton] at he
        rcases he with he | rfl
        · exact hold he
        · exact ⟨moves ++ [move], [], (List.append_nil _).symm, by rw [hrun, hstep]⟩

theorem find?_of_mem_log (he : e ∈ ((machine policy distinct opens).run moves).state.log)
    {p : Payout} (hp : p ∈ recordsIn e.exchange ∨ ∃ expected, e.exchange = wonSwap p expected) :
    e.store.find? p.id = some p := by
  refine run_induction (M := machine policy distinct opens)
    (P := fun c => ∀ e ∈ c.state.log, ∀ p : Payout,
      (p ∈ recordsIn e.exchange ∨ ∃ expected, e.exchange = wonSwap p expected) →
        e.store.find? p.id = some p)
    (K := fun _ => True) (fun _ h => nomatch h) (fun _ _ _ ih => ih) ?_ (fun _ _ => trivial)
    e he p hp
  intro moves position b before op past r next after a s _ hthreads hanswer _ ih e he p hp
  obtain ⟨hbehaviour, -, hlog, -⟩ := Shared.answer_eq_some hanswer
  rw [hlog, List.mem_append, List.mem_singleton] at he
  rcases he with he | rfl
  · exact ih e he p hp
  · exact find?_of_answer hbehaviour hp

end Machine

section Concurrent

variable {policy : RetryPolicy} {moves : List (concurrent policy).Move}

theorem legal_of_mem_log (he : e ∈ ((concurrent policy).run moves).state.log) {p : Payout}
    (hp : p ∈ e.store.rows) : p.Legal := by
  obtain ⟨first, more, -, hstore⟩ := store_of_mem_log he
  exact copies.legal_of_find? (MemoryStore.find?_of_mem (hstore ▸ hp))

theorem leadsTo_of_mem_log (he : e ∈ ((concurrent policy).run moves).state.log) {p : Payout}
    (hp : e.store.find? id = some p) :
    ∃ q, ((concurrent policy).run moves).state.store.find? id = some q ∧ p.LeadsTo q := by
  obtain ⟨first, more, rfl, hstore⟩ := store_of_mem_log he
  exact copies.exists_later (hstore ▸ hp) more

/-- What a thread has been shown, or has written by a won swap, has become the record that is
stored now. -/
theorem leadsTo_of_mem_past {t : (concurrent policy).Thread} {p : Payout}
    (ht : t ∈ ((concurrent policy).run moves).threads)
    (hp : Shown t.past p ∨ ∃ expected, wonSwap p expected ∈ t.past) :
    ∃ q, ((concurrent policy).run moves).state.store.find? p.id = some q ∧ p.LeadsTo q := by
  obtain ⟨x, hx, hsource⟩ : ∃ x ∈ t.past, p ∈ recordsIn x ∨ ∃ expected, x = wonSwap p expected := by
    rcases hp with ⟨x, hx, hp⟩ | ⟨expected, hx⟩
    · exact ⟨x, hx, .inl hp⟩
    · exact ⟨_, hx, .inr ⟨expected, rfl⟩⟩
  obtain ⟨e, he, rfl⟩ := exists_mem_log ht hx
  exact leadsTo_of_mem_log he (find?_of_mem_log he hsource)

end Concurrent

end Disburse.Engine
