import Disburse.Proofs.Concurrency.Alike
import Disburse.Proofs.Engine.Claims
import Disburse.Proofs.Engine.OnePayout

/-!
Payouts are independent. What an operation on one payout reads and writes is the record of that
payout, so that operations on two payouts may change places, as long as the executor goes by what
it is asked and the clock stands still.
-/

namespace Disburse.Engine

open Disburse.Code

variable {α : Type} {a b p : Payout} {id : PayoutId} {policy : RetryPolicy} {s t : MemoryStore}

/-- An executor whose answers depend on the memo of a submission or on a hash, and a clock that
stands still. -/
structure Oracle where
  submit : String → Outcome String
  confirm : String → Outcome TransferReceipt
  status : String → Outcome Ledger.TxStatus
  time : Instant

/-- A memory store in front of an oracle. Identifiers are drawn for new payouts only. -/
def Oracle.answer (w : Oracle) : Surroundings interface MemoryStore
  | .store c, s => s.answer c
  | .transfer (.submit request), s => (w.submit request.memo, s)
  | .transfer (.awaitConfirmation hash), s => (w.confirm hash, s)
  | .transfer (.lookup hash), s => (w.status hash, s)
  | .now, s => (w.time, s)
  | .freshId, s => (.ofDraw 0, s)
  | .publish _, s => ((), s)
  | .dispatch _, s => ((), s)
  | .pause _, s => ((), s)

/-- What an operation gives, and what it leaves when all executions that it started have ended. -/
structure Performance (op : Operation) where
  result : Outcome op.Value
  executions : List (Outcome Unit)
  store : MemoryStore
  events : List Event

/-- An operation by itself, and then the executions that it has started. -/
def Oracle.perform (w : Oracle) (policy : RetryPolicy) (op : Operation) (s : MemoryStore) :
    Performance op :=
  let first := (op.work policy).outcome
  let last := executeEach policy (dispatched (first.trace w.answer s))
  let next := (first.run w.answer s).2
  { result := (first.run w.answer s).1
    executions := (last.run w.answer next).1
    store := (last.run w.answer next).2
    events := events (first.trace w.answer s ++ last.trace w.answer next) }

/-- An operation behind another one. -/
def Oracle.behind (w : Oracle) (policy : RetryPolicy) (f g : Operation) (s : MemoryStore) :
    Performance g :=
  w.perform policy g (w.perform policy f s).store

/-- A version of the payout is stored, and no two records are for one submission. -/
structure Hosts (a : Payout) (s : MemoryStore) : Prop where
  distinct : SubmissionsDistinct s
  stored : ∃ row, s.find? a.id = some row ∧ a.SameOrigin row

/-- Of all records, only that of one payout may have changed. -/
structure Spares (id : PayoutId) (s t : MemoryStore) : Prop where
  ids : t.rows.map Payout.id = s.rows.map Payout.id
  others : ∀ other, other ≠ id → t.find? other = s.find? other

/-- Two stores with the same version of a payout. -/
structure Shares (a : Payout) (s t : MemoryStore) : Prop where
  left : Hosts a s
  right : Hosts a t
  same : s.find? a.id = t.find? a.id

/-- Two performances that differ in the records of other payouts at most. -/
structure Performance.Alike (a : Payout) {op : Operation} (x y : Performance op) : Prop where
  result : x.result = y.result
  executions : x.executions = y.executions
  events : x.events = y.events
  shares : Shares a x.store y.store

/-- A store in which nothing but the record of a payout may have changed, and events of that payout
only. -/
structure Confined (a : Payout) (s t : MemoryStore) (es : List Event) : Prop where
  hosts : Hosts a t
  spares : Spares a.id s t
  events : ∀ e ∈ es, e.id = a.id

theorem Hosts.findSubmission? {ref : String} (h : Hosts a s) (href : a.submissionRef = some ref) :
    s.findSubmission? ref = s.find? a.id := by
  obtain ⟨row, hrow, horigin⟩ := h.stored
  have hmem := MemoryStore.mem_of_find? hrow
  have hsubmission : row.submissionRef = some ref := horigin.submissionRef.trans href
  rw [hrow]
  cases hfind : s.findSubmission? ref with
  | none => exact absurd hsubmission (findSubmission?_eq_none hfind row hmem)
  | some row' =>
      have hsubmission' : row'.submissionRef = some ref := by
        simpa using List.find?_some hfind
      exact congrArg some (h.distinct _ (MemoryStore.mem_of_findSubmission? hfind) _ hmem ref
        hsubmission' hsubmission)

theorem Hosts.overwrite (h : Hosts a s) (hp : a.SameOrigin p) : Hosts a (s.overwrite p) := by
  obtain ⟨row, hrow, horigin⟩ := h.stored
  refine ⟨?_, p, ?_, hp⟩
  · -- Each record is for the submission that its earlier version was for.
    have hversion : ∀ q ∈ (s.overwrite p).rows, ∃ r ∈ s.rows, r.id = q.id ∧
        r.submissionRef = q.submissionRef := by
      intro q hq
      rcases MemoryStore.mem_overwrite.mp hq with ⟨hq, -⟩ | ⟨rfl, -⟩
      · exact ⟨q, hq, rfl, rfl⟩
      · exact ⟨row, MemoryStore.mem_of_find? hrow, (MemoryStore.find?_id hrow).trans hp.id.symm,
          horigin.submissionRef.trans hp.submissionRef.symm⟩
    intro q hq q' hq' ref href href'
    obtain ⟨r, hr, hid, hsubmission⟩ := hversion q hq
    obtain ⟨r', hr', hid', hsubmission'⟩ := hversion q' hq'
    obtain rfl := h.distinct r hr r' hr' ref (hsubmission.trans href) (hsubmission'.trans href')
    exact List.inj_on_of_nodup_map (s.overwrite p).ids_nodup hq hq' (hid.symm.trans hid')
  · rw [← hp.id] at hrow ⊢
    exact MemoryStore.find?_overwrite_self hrow

theorem Spares.refl (id : PayoutId) (s : MemoryStore) : Spares id s s := by
  constructor
  · exact rfl
  · intro _ _
    exact rfl

theorem Spares.trans {u : MemoryStore} (h : Spares id s t) (h' : Spares id t u) :
    Spares id s u := by
  constructor
  · exact h'.ids.trans h.ids
  · intro other hne
    exact (h'.others other hne).trans (h.others other hne)

theorem spares_overwrite (s : MemoryStore) (p : Payout) : Spares p.id s (s.overwrite p) where
  ids := by
    rw [MemoryStore.rows_overwrite, List.map_map]
    refine List.map_congr_left fun r _ => ?_
    by_cases hid : r.id = p.id <;> simp [hid]
  others _ := MemoryStore.find?_overwrite_of_ne

theorem Hosts.of_spares (h : Hosts b s) (ht : Hosts a t) (hspares : Spares a.id s t)
    (hne : b.id ≠ a.id) : Shares b s t where
  left := h
  right := ⟨ht.distinct, by rw [hspares.others _ hne]; exact h.stored⟩
  same := (hspares.others _ hne).symm

theorem eq_of_find? (hids : s.rows.map Payout.id = t.rows.map Payout.id)
    (hfind : ∀ id, s.find? id = t.find? id) : s = t := by
  have hrows : ∀ u : MemoryStore, (u.rows.map Payout.id).filterMap u.find? = u.rows := by
    intro u
    rw [List.filterMap_map]
    exact (List.filterMap_congr fun p hp => MemoryStore.find?_of_mem hp).trans List.filterMap_some
  have hsame : s.rows = t.rows := by
    rw [← hrows s, ← hrows t, hids, funext hfind]
  cases s
  cases t
  cases hsame
  rfl

namespace about

variable {w : Oracle} {past : List (Exchange interface)} {r : Request}

theorem answer_cases (w : Oracle) (s : MemoryStore) (h : (about a).allows past r) :
    (w.answer r s).2 = s ∨ ∃ p, a.SameOrigin p ∧ (w.answer r s).2 = s.overwrite p := by
  cases r with
  | store c =>
      cases c with
      | get _ | findBySubmission _ => exact .inl rfl
      | saveIf p expected =>
          rcases s.saveIf_cases p expected with ⟨row, -, -, hswap⟩ | ⟨hsame, -⟩
          · exact .inr ⟨p, h, congrArg Prod.snd hswap⟩
          · exact .inl hsame
      | create _ | save _ | findDue _ _ _ | findStale _ _ _ | list _ => exact h.elim
  | transfer c => cases c <;> exact .inl rfl
  | now | freshId | publish _ | dispatch _ | pause _ => exact .inl rfl

theorem hosts_answer (hs : Hosts a s) (h : (about a).allows past r) : Hosts a (w.answer r s).2 := by
  rcases answer_cases w s h with hsame | ⟨p, hp, hstore⟩
  · rwa [hsame]
  · rw [hstore]
    exact hs.overwrite hp

theorem spares_answer (h : (about a).allows past r) : Spares a.id s (w.answer r s).2 := by
  rcases answer_cases w s h with hsame | ⟨p, hp, hstore⟩
  · rw [hsame]
    exact .refl a.id s
  · rw [hstore, ← hp.id]
    exact spares_overwrite s p

theorem saveIf_congr (expected : Status) (hs : Hosts a s) (ht : Hosts a t)
    (hsame : s.find? a.id = t.find? a.id) (hp : p.id = a.id) :
    (s.saveIf p expected).1 = (t.saveIf p expected).1 ∧
      (s.saveIf p expected).2.find? a.id = (t.saveIf p expected).2.find? a.id := by
  obtain ⟨row, hrow, -⟩ := hs.stored
  obtain ⟨row', hrow', -⟩ := ht.stored
  rw [← hp] at hsame hrow hrow' ⊢
  obtain rfl := Option.some.inj (hrow.symm.trans (hsame.trans hrow'))
  rw [MemoryStore.saveIf, MemoryStore.saveIf, hrow, hrow']
  dsimp only
  split
  · refine ⟨rfl, ?_⟩
    rw [MemoryStore.find?_overwrite_self hrow, MemoryStore.find?_overwrite_self hrow']
  · exact ⟨rfl, hsame⟩

/-- What is asked about a payout is answered alike by stores that share its record. -/
theorem alikeUnder (w : Oracle) : (about a).AlikeUnder w.answer w.answer (Shares a) := by
  rintro past r s t ⟨hs, ht, hsame⟩ hallows
  have hnext : (w.answer r s).2.find? a.id = (w.answer r t).2.find? a.id →
      Shares a (w.answer r s).2 (w.answer r t).2 :=
    fun h => ⟨hosts_answer hs hallows, hosts_answer ht hallows, h⟩
  have hfaithful : ∀ q ∈ (s.find? a.id).toList, a.SameOrigin q := by
    obtain ⟨row, hrow, horigin⟩ := hs.stored
    rw [hrow]
    exact fun q hq => List.mem_singleton.mp hq ▸ horigin
  cases r with
  | store c =>
      cases c with
      | get id =>
          obtain rfl : id = a.id := hallows
          exact ⟨congrArg Except.ok hsame, hfaithful, hnext hsame⟩
      | findBySubmission ref =>
          have hfind := hs.findSubmission? hallows
          have hfind' := ht.findSubmission? hallows
          refine ⟨congrArg Except.ok (hfind.trans (hsame.trans hfind'.symm)), ?_, hnext hsame⟩
          show ∀ q ∈ (s.findSubmission? ref).toList, a.SameOrigin q
          rwa [hfind]
      | saveIf p expected =>
          have hp : a.SameOrigin p := hallows
          obtain ⟨hanswer, hfind⟩ := saveIf_congr expected hs ht hsame hp.id
          exact ⟨hanswer, fun _ hq => absurd hq List.not_mem_nil, hnext hfind⟩
      | create _ | save _ | findDue _ _ _ | findStale _ _ _ | list _ => exact hallows.elim
  | transfer c =>
      cases c <;> exact ⟨rfl, fun _ hq => absurd hq List.not_mem_nil, hnext hsame⟩
  | freshId => exact hallows.elim
  | now | publish _ | dispatch _ | pause _ =>
      exact ⟨rfl, fun _ hq => absurd hq List.not_mem_nil, hnext hsame⟩

theorem confined_run (w : Oracle) {program : Program interface α}
    (h : (about a).Obeys program (fun _ _ => True) []) (hs : Hosts a s) :
    Confined a s (program.run w.answer s).2 (events (program.trace w.answer s)) ∧
      ∀ id ∈ dispatched (program.trace w.answer s), id = a.id := by
  have hanswer : ∀ past r t, Hosts a t ∧ Spares a.id s t → (about a).allows past r →
      (about a).faithful ⟨r, (w.answer r t).1⟩ ∧
        Hosts a (w.answer r t).2 ∧ Spares a.id s (w.answer r t).2 := by
    rintro past r t ⟨ht, hspares⟩ hallows
    obtain ⟨-, hfaithful, hnext⟩ := alikeUnder w past r t t ⟨ht, ht, rfl⟩ hallows
    exact ⟨hfaithful, hnext.left, hspares.trans (spares_answer hallows)⟩
  have hends := h.ends hanswer ⟨hs, .refl a.id s⟩
  obtain ⟨-, ⟨hhosts, hspares⟩, xs, hxs, hallowed⟩ := hends
  obtain rfl : program.trace w.answer s = xs := hxs
  refine ⟨⟨hhosts, hspares, fun e he => ?_⟩, fun id hid => ?_⟩
  · obtain ⟨⟨r, _⟩, hx, he⟩ := List.mem_filterMap.mp he
    obtain ⟨_, hallows⟩ := hallowed _ hx
    cases r with
    | publish e' => exact Option.some.inj he ▸ hallows
    | _ => cases he
  · obtain ⟨⟨r, _⟩, hx, hid⟩ := List.mem_filterMap.mp hid
    obtain ⟨_, hallows⟩ := hallowed _ hx
    cases r with
    | dispatch id' => exact Option.some.inj hid ▸ hallows
    | _ => cases hid

end about

variable {op f g : Operation}

section Perform

variable (w : Oracle) (policy : RetryPolicy)

theorem confined_perform (h : op.IsOn a) (hs : Hosts a s) :
    Confined a s (w.perform policy op s).store (w.perform policy op s).events := by
  have hwork : (about a).Obeys (op.work policy).outcome (fun _ _ => True) [] :=
    (about.work h []).imp fun _ _ _ => trivial
  obtain ⟨hfirst, hdispatched⟩ := about.confined_run w hwork hs
  obtain ⟨hlast, -⟩ :=
    about.confined_run w (about.executeEach policy hdispatched []) hfirst.hosts
  refine ⟨hlast.hosts, hfirst.spares.trans hlast.spares, fun e he => ?_⟩
  rw [Oracle.perform, events_append] at he
  rcases List.mem_append.mp he with he | he
  · exact hfirst.events e he
  · exact hlast.events e he

/-- An operation goes by the record of its payout. -/
theorem perform_alike (h : op.IsOn a) (hst : Shares a s t) :
    (w.perform policy op s).Alike a (w.perform policy op t) := by
  have hwork : (about a).Obeys (op.work policy).outcome (fun _ _ => True) [] :=
    (about.work h []).imp fun _ _ _ => trivial
  obtain ⟨hresult, htrace, hnext⟩ := hwork.run_alike (about.alikeUnder w) hst
  obtain ⟨-, hdispatched⟩ := about.confined_run w hwork hst.left
  obtain ⟨hresults, htrace', hlast⟩ :=
    Obeys.run_alike (about.executeEach policy hdispatched []) (about.alikeUnder w) hnext
  refine ⟨hresult, ?_, ?_, ?_⟩
  all_goals
    dsimp only [Oracle.perform]
    rw [← htrace]
  · exact hresults
  · rw [← htrace']
  · exact hlast

theorem shares_perform (hg : g.IsOn b) (ha : Hosts a s) (hb : Hosts b s) (hne : a.id ≠ b.id) :
    Shares a s (w.perform policy g s).store :=
  have hconfined := confined_perform w policy hg hb
  ha.of_spares hconfined.hosts hconfined.spares hne

theorem confined_behind (hf : f.IsOn a) (hg : g.IsOn b) (ha : Hosts a s) (hb : Hosts b s)
    (hne : a.id ≠ b.id) :
    Confined a (w.perform policy g s).store (w.behind policy g f s).store
      (w.behind policy g f s).events :=
  confined_perform w policy hf (shares_perform w policy hg ha hb hne).right

theorem find?_behind {other : PayoutId} (hf : f.IsOn a) (hg : g.IsOn b) (ha : Hosts a s)
    (hb : Hosts b s) (hne : a.id ≠ b.id) (hother : other ≠ b.id) :
    (w.behind policy f g s).store.find? other = (w.behind policy g f s).store.find? other := by
  rw [(confined_behind w policy hg hf hb ha hne.symm).spares.others other hother]
  by_cases hid : other = a.id
  · subst hid
    exact (perform_alike w policy hf (shares_perform w policy hg ha hb hne)).shares.same
  · rw [(confined_perform w policy hf ha).spares.others other hid,
      (confined_behind w policy hf hg ha hb hne).spares.others other hid,
      (confined_perform w policy hg hb).spares.others other hother]

end Perform

theorem filter_eq_nil_of_events {es : List Event} {payout : PayoutId} (h : ∀ e ∈ es, e.id = payout)
    (hne : id ≠ payout) : es.filter (fun e => e.id = id) = [] := by
  refine List.filter_eq_nil_iff.mpr fun e he => ?_
  simpa using fun hid : e.id = id => hne (hid.symm.trans (h e he))

/-- Two operations that give and leave the same in both orders. -/
structure Commute (w : Oracle) (policy : RetryPolicy) (f g : Operation) (s : MemoryStore) :
    Prop where
  store : (w.behind policy f g s).store = (w.behind policy g f s).store
  first : (w.behind policy g f s).result = (w.perform policy f s).result
  second : (w.behind policy f g s).result = (w.perform policy g s).result
  firstExecutions : (w.behind policy g f s).executions = (w.perform policy f s).executions
  secondExecutions : (w.behind policy f g s).executions = (w.perform policy g s).executions
  events : ∀ id,
    ((w.perform policy f s).events ++ (w.behind policy f g s).events).filter
      (fun e => e.id = id) =
    ((w.perform policy g s).events ++ (w.behind policy g f s).events).filter (fun e => e.id = id)

theorem commute_of_hosts (w : Oracle) (policy : RetryPolicy) (hf : f.IsOn a) (hg : g.IsOn b)
    (ha : Hosts a s) (hb : Hosts b s) (hne : a.id ≠ b.id) : Commute w policy f g s := by
  have hsf := confined_perform w policy hf ha
  have hsg := confined_perform w policy hg hb
  have hfirst := perform_alike w policy hf (shares_perform w policy hg ha hb hne)
  have hsecond := perform_alike w policy hg (shares_perform w policy hf hb ha hne.symm)
  refine ⟨eq_of_find? ?_ fun other => ?_, hfirst.result.symm, hsecond.result.symm,
    hfirst.executions.symm, hsecond.executions.symm, fun id => ?_⟩
  · rw [(confined_behind w policy hg hf hb ha hne.symm).spares.ids, hsf.spares.ids,
      (confined_behind w policy hf hg ha hb hne).spares.ids, hsg.spares.ids]
  · by_cases hother : other = b.id
    · exact (find?_behind w policy hg hf hb ha hne.symm (hother ▸ hne.symm)).symm
    · exact find?_behind w policy hf hg ha hb hne hother
  · rw [Oracle.behind, Oracle.behind, ← hfirst.events, ← hsecond.events, List.filter_append,
      List.filter_append]
    by_cases hid : id = a.id
    · rw [filter_eq_nil_of_events hsg.events (hid ▸ hne), List.append_nil, List.nil_append]
    · rw [filter_eq_nil_of_events hsf.events hid, List.append_nil, List.nil_append]

/-- Operations on two stored payouts, each with its executions, may change places, and each of them
leaves all records but that of its own payout. -/
theorem payouts_independent (w : Oracle) (moves : List (concurrent policy).Move)
    (ha : a ∈ ((concurrent policy).run moves).state.store.rows)
    (hb : b ∈ ((concurrent policy).run moves).state.store.rows) (hne : a ≠ b) (hf : f.IsOn a)
    (hg : g.IsOn b) :
    let s := ((concurrent policy).run moves).state.store
    Commute w policy f g s ∧
      Spares a.id s (w.perform policy f s).store ∧
      Spares b.id s (w.perform policy g s).store ∧
      Spares a.id (w.perform policy g s).store (w.behind policy g f s).store ∧
      Spares b.id (w.perform policy f s).store (w.behind policy f g s).store := by
  intro s
  have hosts : ∀ p ∈ s.rows, Hosts p s := fun p hp =>
    ⟨submissionsDistinct_run moves, p, MemoryStore.find?_of_mem hp, .refl p⟩
  have hids : a.id ≠ b.id := fun hid => hne (List.inj_on_of_nodup_map s.ids_nodup ha hb hid)
  have ha := hosts a ha
  have hb := hosts b hb
  exact ⟨commute_of_hosts w policy hf hg ha hb hids, (confined_perform w policy hf ha).spares,
    (confined_perform w policy hg hb).spares, (confined_behind w policy hf hg ha hb hids).spares,
    (confined_behind w policy hg hf hb ha hids.symm).spares⟩

/-- Two payouts are recorded, for two submissions. -/
def sampleTwo : List (concurrent samplePolicy).Move :=
  [.start (.create (samplePayout none)), .resume 0 (.draw sampleId), .resume 0 (.clock .epoch),
    .resume 0 .plain,
    .start (.create { samplePayout none with submissionRef := some "sub-2" }),
    .resume 1 (.draw (.ofNat 2)), .resume 1 (.clock .epoch), .resume 1 .plain]

/-- One of these payouts. -/
def samplePending (id : PayoutId) (submissionRef : String) : Payout :=
  .ofNew { samplePayout none with submissionRef := some submissionRef } id
    samplePolicy.defaultMaxRetries .epoch

/-- Submissions are accepted, under a hash for each memo, and those of the second payout fail. -/
def sampleOracle : Oracle where
  submit memo := .ok memo
  confirm hash :=
    if hash = sampleId.toText then .ok ⟨hash, 7⟩
    else .error (.error (.executionFailed "transaction failed on-chain"))
  status _ := .ok .notFound
  time := .epoch

theorem sampleTwo_independent :
    let s := ((concurrent samplePolicy).run sampleTwo).state.store
    let f := Operation.claim "sub-1" "GDEST"
    let g := Operation.claim "sub-2" "GDEST"
    s.rows = [samplePending sampleId "sub-1", samplePending (.ofNat 2) "sub-2"] ∧
      f.IsOn (samplePending sampleId "sub-1") ∧ g.IsOn (samplePending (.ofNat 2) "sub-2") ∧
      (sampleOracle.perform samplePolicy f s).events.map Event.name = ["payout.processed"] ∧
      (sampleOracle.perform samplePolicy g s).events.map Event.name = ["payout.failed"] ∧
      Commute sampleOracle samplePolicy f g s := by
  intro s f g
  have hrows : s.rows = [samplePending sampleId "sub-1", samplePending (.ofNat 2) "sub-2"] := by
    decide +kernel
  have hne : samplePending sampleId "sub-1" ≠ samplePending (.ofNat 2) "sub-2" := by decide
  have hindependent := payouts_independent sampleOracle sampleTwo (f := f) (g := g)
    (by rw [hrows]; exact List.mem_cons_self)
    (by rw [hrows]; exact List.mem_cons_of_mem _ List.mem_cons_self) hne rfl rfl
  exact ⟨hrows, rfl, rfl, by decide +kernel, by decide +kernel, hindependent.1⟩

end Disburse.Engine
