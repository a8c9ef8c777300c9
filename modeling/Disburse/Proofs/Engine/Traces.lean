import Disburse.Proofs.Concurrency.Turns
import Disburse.Proofs.Engine.LostUpdate
import Disburse.Proofs.Engine.Server

namespace Disburse.Engine

open Disburse.Machine

variable {policy : RetryPolicy} {moves first : List (served policy).Move} {n : Nat}
  {t : (served policy).Thread} {d : Demand} {id : PayoutId} {p : Payout}
  {past : List (Exchange interface)} {o : Outcome Payout}

namespace Served

/-- The service that a thread runs, if it answers with a record. -/
def demand? : Served → Option Demand
  | engine (.create new) => some (.create new)
  | engine (.claim submissionRef recipient) => some (.claim submissionRef recipient)
  | engine (.retry id) => some (.retry id)
  | engine _ => none
  | web r => r.demand?

/-- What comes of a request, by the value that its thread ends with. -/
inductive Yields : (op : Served) → op.Value → Demand → Outcome Payout → Prop where
  | create (new : NewPayout) (o : Outcome Payout) : Yields (engine (.create new)) o (.create new) o
  | claim (submissionRef recipient : String) (o : Outcome Payout) :
    Yields (engine (.claim submissionRef recipient)) o (.claim submissionRef recipient) o
  | retry (id : PayoutId) (o : Outcome Payout) : Yields (engine (.retry id)) o (.retry id) o
  | web (r : Api.Request) (d : Demand) (o : Outcome Payout) (h : r.demand? = some d) :
    Yields (web r) (d.answered o) d o

/-- A web request that asks nothing of the engine may only read. -/
def code : Served → Code interface
  | engine _ => Code.free interface
  | web r => if r.demand? = none then Api.reads else Code.free interface

theorem code_of_reading {r : Api.Request} (h : r.demand? = none) : (web r).code = Api.reads :=
  if_pos h

theorem code_of_demand {r : Api.Request} (h : r.demand? = some d) :
    (web r).code = Code.free interface :=
  if_neg (by simp [h])

/-- How a thread may end that runs a service. -/
def Ends (policy : RetryPolicy) (op : Served) (value : op.Value)
    (past : List (Exchange interface)) : Prop :=
  ∀ d, op.demand? = some d → ∃ o, Yields op value d o ∧ d.Ends policy past o

theorem code_obeys (policy : RetryPolicy) (op : Served) :
    op.code.Obeys ((served policy).program op) (op.Ends policy) [] := by
  cases op with
  | engine op =>
      cases op with
      | create new =>
          refine Code.Obeys.imp (Demand.heeds_work policy (.create new)) ?_
          rintro o past h d ⟨⟩
          exact ⟨o, .create new o, h⟩
      | claim submissionRef recipient =>
          refine Code.Obeys.imp (Demand.heeds_work policy (.claim submissionRef recipient)) ?_
          rintro o past h d ⟨⟩
          exact ⟨o, .claim submissionRef recipient o, h⟩
      | retry id =>
          refine Code.Obeys.imp (Demand.heeds_work policy (.retry id)) ?_
          rintro o past h d ⟨⟩
          exact ⟨o, .retry id o, h⟩
      | sweep _ | execute _ | dispatch _ | recover _ | recordFailure _ _ =>
          exact Code.Obeys.imp Code.obeys_free (by rintro _ _ _ _ ⟨⟩)
  | web r =>
      cases hdemand : r.demand? with
      | none =>
          rw [code_of_reading hdemand]
          refine Code.Obeys.imp (Api.reads_respond hdemand) ?_
          intro value past _ d hd
          cases hdemand.symm.trans hd
      | some d =>
          rw [code_of_demand hdemand]
          show (Code.free interface).Obeys (Api.respond policy r).outcome _ _
          rw [Api.respond_of_demand hdemand]
          rw [Code.obeys_bind]
          refine Code.Obeys.imp (Demand.heeds_work policy d) ?_
          intro o past h d' hd
          obtain rfl := Option.some.inj (hdemand.symm.trans hd)
          exact ⟨o, .web r d o hdemand, h⟩

end Served

theorem abides_served (ht : t ∈ ((served policy).run moves).threads) :
    t.Abides Served.code (Served.Ends policy) := by
  refine abides_of_mem_run (M := served policy) (Served.code_obeys policy) ?_ ht
  intro op b r s a s' _
  cases op with
  | engine op => trivial
  | web web =>
      show (if web.demand? = none then Api.reads else Code.free interface).faithful _
      split <;> trivial

/-- The stored records behind some moves. -/
def storeOf (moves : List (served policy).Move) : MemoryStore :=
  ((served policy).run moves).state.store

/-- Thread `n` has changed no record, told nobody anything and dispatched nothing. -/
structure Traceless (moves : List (served policy).Move) (n : Nat)
    (past : List (Exchange interface)) : Prop where
  store : ∀ first b, first ++ [.resume n b] <+: moves →
    storeOf (first ++ [.resume n b]) = storeOf first
  events : events past = []
  dispatched : dispatched past = []

theorem traceless_of (hlate : ∀ e, .resume n (.failAfter e) ∉ moves)
    (ht : ((served policy).run moves).threads[n]? = some t)
    (h : ∀ x ∈ t.past, leavesTrace x = false) : Traceless moves n t.past where
  store first b hfirst := by
    have hb : .resume n b ∈ moves := hfirst.subset (by simp)
    rcases turn_of_resume ht hfirst with hsame | ⟨past, x, hx, hturn⟩
    · exact congrArg Shared.store hsame
    refine store_of_leavesTrace (Shared.answer_eq_some hturn.answered).1 ?_
      (h x (hx.subset (by simp)))
    rintro e rfl
    exact hlate e hb
  events := by
    refine List.filterMap_eq_nil_iff.mpr fun x hx => ?_
    obtain ⟨r, a⟩ := x
    cases r with
    | publish event => cases h _ hx
    | store _ | transfer _ | now | freshId | dispatch _ | pause _ => rfl
  dispatched := by
    refine List.filterMap_eq_nil_iff.mpr fun x hx => ?_
    obtain ⟨r, a⟩ := x
    cases r with
    | dispatch id => cases h _ hx
    | store _ | transfer _ | now | freshId | publish _ | pause _ => rfl

theorem leavesTrace_of_read {c : StoreCall} {a : c.Answer} (hread : c.isRead = true) :
    leavesTrace ⟨.store c, a⟩ = false := by
  cases c with
  | create _ | save _ | saveIf _ _ => cases hread
  | get _ | findBySubmission _ | findDue _ _ _ | findStale _ _ _ | list _ => rfl

theorem traceless_of_reads {r : Api.Request} (hlate : ∀ e, .resume n (.failAfter e) ∉ moves)
    (ht : ((served policy).run moves).threads[n]? = some t) (hop : t.op = .web r)
    (hdemand : r.demand? = none) : Traceless moves n t.past := by
  refine traceless_of hlate ht fun x hx => ?_
  obtain ⟨before, after, hpast⟩ := List.append_of_mem hx
  have hallows := (abides_served (List.mem_of_getElem? ht)).allowed before x
    ⟨after, by rw [hpast, List.append_assoc]; rfl⟩
  rw [hop, Served.code_of_reading hdemand] at hallows
  obtain ⟨c, hrequest, hread⟩ := hallows
  obtain ⟨request, a⟩ := x
  obtain rfl : request = .store c := hrequest
  exact leavesTrace_of_read hread

/-- Behind some moves, thread `n` has put a record in the place of a failed one; no other request of
it has changed any record. -/
structure SwapsOnce (moves : List (served policy).Move) (n : Nat) (p : Payout)
    (first : List (served policy).Move) (b : Behaviour) (row : Payout) : Prop where
  made : first ++ [.resume n b] <+: moves
  stored : (storeOf first).find? p.id = some row
  failed : row.status = .failed
  origin : row.SameOrigin p
  claimedAt : p.claimedAt = row.claimedAt
  store : storeOf (first ++ [.resume n b]) = (storeOf first).overwrite p
  once : ∀ other b', other ++ [.resume n b'] <+: moves → other ≠ first →
    storeOf (other ++ [.resume n b']) = storeOf other

/-- A retry has reset the failed record of a payout and dispatched one execution of it. -/
structure Reset (moves : List (served policy).Move) (n : Nat) (id : PayoutId) (p : Payout)
    (past : List (Exchange interface)) : Prop where
  own : p.id = id
  status : p.status = .processing
  retryCount : p.retryCount = 0
  maxRetries : p.maxRetries = policy.defaultMaxRetries
  failureReason : p.failureReason = none
  nextRetryAt : p.nextRetryAt = none
  submittedHash : p.submittedHash = none
  swapped : ∃ first b row, SwapsOnce moves n p first b row
  events : events past = []
  dispatched : dispatched past = [id]

theorem stored_of_turn {b : Behaviour} {found : Option Payout}
    (h : Turn (served policy) n first b past (reading id (.ok found))) :
    (storeOf first).find? id = found := by
  obtain ⟨-, hanswer | ⟨e, he⟩⟩ :=
    Behaviour.answer_lookup rfl rfl (Shared.answer_eq_some h.answered).1
  · exact (Except.ok.inj hanswer).symm
  · cases he

theorem legal_of_stored (h : (storeOf first).find? id = some p) : p.Legal := by
  obtain ⟨tracked, htracks⟩ := exists_tracks_run first
  rw [storeOf, ← htracks.store] at h
  exact copies.legal_of_find? h

theorem leadsTo_of_prefix {row : Payout} (h : (storeOf first).find? id = some p)
    (hfirst : first <+: moves) (hrow : (storeOf moves).find? id = some row) : p.LeadsTo row := by
  obtain ⟨more, rfl⟩ := hfirst
  obtain ⟨tracked, htracks⟩ := exists_tracks_run first
  obtain ⟨more', htracks'⟩ := htracks.run more
  rw [storeOf, ← htracks.store] at h
  obtain ⟨q, hq, hleads⟩ := copies.exists_later h more'
  rw [htracks'.store] at hq
  obtain rfl := Option.some.inj (hq.symm.trans hrow)
  exact hleads

theorem past_of_wonSwap {read : Payout} {now : Instant}
    (h : past ++ [wonSwap p .failed] <+:
      [reading id (.ok (some read)), ⟨.now, now⟩, wonSwap p .failed, ⟨.dispatch id, ()⟩]) :
    past = [reading id (.ok (some read)), ⟨.now, now⟩] := by
  rcases past with _ | ⟨x, _ | ⟨y, _ | ⟨z, _ | ⟨w, past⟩⟩⟩⟩
  · simp [reading, wonSwap] at h
  · simp [wonSwap] at h
  · simpa using h
  · simp [wonSwap] at h
  · have hlen := h.length_le
    simp only [List.length_append, List.length_cons, List.length_nil] at hlen
    omega

theorem store_of_other_turn {read : Payout} {now : Instant} {b b' : Behaviour}
    {other : List (served policy).Move}
    (ht : ((served policy).run moves).threads[n]? = some t)
    (hpast : t.past = [reading id (.ok (some read)), ⟨.now, now⟩, wonSwap p .failed,
      ⟨.dispatch id, ()⟩])
    (hswap : Turn (served policy) n first b [reading id (.ok (some read)), ⟨.now, now⟩]
      (wonSwap p .failed))
    (hfirst : first ++ [.resume n b] <+: moves) (hother : other ++ [.resume n b'] <+: moves)
    (hne : other ≠ first) : storeOf (other ++ [.resume n b']) = storeOf other := by
  rcases turn_of_resume ht hother with hsame | ⟨past, x, hx, hturn⟩
  · exact congrArg Shared.store hsame
  have hanswer := (Shared.answer_eq_some hturn.answered).1
  have hmem : x ∈ t.past := hx.subset (by simp)
  rw [hpast] at hmem hx
  simp only [List.mem_cons, List.not_mem_nil, or_false] at hmem
  rcases hmem with rfl | rfl | rfl | rfl
  · exact (Behaviour.answer_read rfl hanswer).1
  · exact Behaviour.answer_other (by simp) hanswer
  · obtain rfl := past_of_wonSwap hx
    exact absurd (hturn.unique hswap hother hfirst) hne
  · exact Behaviour.answer_other (by simp) hanswer

theorem reset_of_granted {read : Payout} {now : Instant}
    (ht : ((served policy).run moves).threads[n]? = some t)
    (hreset : read.resetForRetry policy.defaultMaxRetries now = .ok p)
    (hpast : t.past = [reading id (.ok (some read)), ⟨.now, now⟩, wonSwap p .failed,
      ⟨.dispatch id, ()⟩]) : Reset moves n id p t.past := by
  have hthird : [reading id (.ok (some read)), ⟨.now, now⟩] ++ [wonSwap p .failed] <+: t.past := by
    rw [hpast]
    exact List.prefix_append ..
  obtain ⟨first, b, hfirst, hswap⟩ := exists_turn ht hthird
  obtain ⟨op, next, hthread, -⟩ := hswap.thread
  -- The record was read before that, in a run that the swap's continues.
  have hhead : [] ++ [reading id (.ok (some read))] <+:
      [reading id (.ok (some read)), ⟨.now, now⟩] := List.prefix_append ..
  obtain ⟨earlier, b', hearlier, hread⟩ := exists_turn hthread hhead
  have hstored := stored_of_turn hread
  have hlegal := legal_of_stored hstored
  obtain ⟨hfailed, hstatus, hcount, hmax, hreason, hnext, hhash, hclaimed, horigin⟩ :=
    resetForRetry_fields hlegal hreset
  obtain rfl : p.id = id := horigin.id.trans (MemoryStore.find?_id hstored)
  obtain ⟨-, hlost⟩ | ⟨hstore, -, row, hrow, hrowFailed⟩ :=
    Behaviour.answer_saveIf (Shared.answer_eq_some hswap.answered).1
  · exact absurd rfl hlost
  have hleads : read.LeadsTo row :=
    leadsTo_of_prefix hstored ((List.prefix_append ..).trans hearlier) hrow
  have hsome : read.claimedAt.isSome := by
    rw [Option.isSome_iff_ne_none, Ne, hlegal.claimedAt_eq_none, hfailed]
    decide
  have hswaps : SwapsOnce moves n p first b row := by
    refine ⟨hfirst, hrow, hrowFailed, hleads.origin.symm.trans horigin, ?_, hstore, ?_⟩
    · exact hclaimed.trans (hleads.claimedAt hsome).symm
    · exact fun _ _ hother hne => store_of_other_turn ht hpast hswap hfirst hother hne
  rw [hpast]
  exact ⟨rfl, hstatus, hcount, hmax, hreason, hnext, hhash, ⟨first, b, row, hswaps⟩, rfl, rfl⟩

/-- A retry could not read the store, or it read the record that was stored then: one that is
missing or has not failed is its answer, unless the retry crashes on a clock that stands before
1970. -/
inductive Looked (moves : List (served policy).Move) (n : Nat) (id : PayoutId)
    (past : List (Exchange interface)) : Outcome Payout → Prop where
  | unread (e : Error) (h : past = [reading id (.error e)]) :
    Looked moves n id past (.error (.error e))
  | read (first : List (served policy).Move) (b : Behaviour) (o : Outcome Payout)
      (hfirst : first ++ [.resume n b] <+: moves)
      (hturn : Turn (served policy) n first b [] (reading id (.ok ((storeOf first).find? id))))
      (hmissing : (storeOf first).find? id = none → o = missing id)
      (hrefused : ∀ row, (storeOf first).find? id = some row → row.status ≠ .failed →
        o = notFailed id row.status ∨ o = .error .crash ∧ ReadEarly past) :
    Looked moves n id past o

theorem read_of_retryEnds (h : RetryEnds policy id past o) :
    (∃ e, past = [reading id (.error e)] ∧ o = .error (.error e)) ∨
      ∃ found, [reading id (.ok found)] <+: past ∧ (found = none → o = missing id) ∧
        ∀ read, found = some read → read.status ≠ .failed →
          o = notFailed read.id read.status ∨ o = .error .crash ∧ ReadEarly past := by
  cases h with
  | unread e => exact .inl ⟨e, rfl, rfl⟩
  | missing => exact .inr ⟨none, List.prefix_rfl, fun _ => rfl, by simp⟩
  | untimed read now hnow =>
      refine .inr ⟨some read, List.prefix_append .., by simp, ?_⟩
      rintro _ ⟨⟩ -
      exact .inr ⟨rfl, now, by simp, hnow⟩
  | refused read now hstatus =>
      refine .inr ⟨some read, List.prefix_append .., by simp, ?_⟩
      rintro _ ⟨⟩ -
      exact .inl rfl
  | unwritten read p now e hreset | lostUnread read p now e hreset | lostMissing read p now hreset
  | lost read p current now hreset | granted read p now hreset =>
      refine .inr ⟨some read, List.prefix_append .., by simp, ?_⟩
      rintro _ ⟨⟩ hstatus
      exact absurd (Payout.resetForRetry_eq_ok hreset).1 hstatus

theorem looked_of_ends (ht : ((served policy).run moves).threads[n]? = some t)
    (h : RetryEnds policy id t.past o) : Looked moves n id t.past o := by
  rcases read_of_retryEnds h with ⟨e, hpast, rfl⟩ | ⟨found, hfound, hmissing, hrefused⟩
  · exact .unread e hpast
  rw [← List.nil_append [reading id (.ok found)]] at hfound
  obtain ⟨first, b, hfirst, hturn⟩ := exists_turn ht hfound
  obtain rfl := stored_of_turn hturn
  refine .read first b o hfirst hturn hmissing fun row hrow hstatus => ?_
  rw [← MemoryStore.find?_id hrow]
  exact hrefused row hrow hstatus

/-- What a request has done by its end. -/
structure Accounted (moves : List (served policy).Move) (n : Nat) (d : Demand)
    (past : List (Exchange interface)) (o : Outcome Payout) : Prop where
  refused : ∀ e, o = .error e → Traceless moves n past
  granted : ∀ id p, d = .retry id → o = .ok p → Reset moves n id p past
  looked : ∀ id, d = .retry id → Looked moves n id past o

theorem accounted_of_ends (hlate : ∀ e, .resume n (.failAfter e) ∉ moves)
    (ht : ((served policy).run moves).threads[n]? = some t) (h : d.Ends policy t.past o) :
    Accounted moves n d t.past o where
  refused := by
    rintro e rfl
    exact traceless_of hlate ht h.leavesTrace
  granted := by
    rintro id p rfl rfl
    have hends : RetryEnds policy id t.past (.ok p) := h
    generalize hpast : t.past = past at hends
    cases hends with
    | granted read p now hreset => exact hpast ▸ reset_of_granted ht hreset hpast
  looked := by
    rintro id rfl
    exact looked_of_ends ht h

/-- Thread `n` is accounted for, if it asks for a write; another web request leaves no trace. -/
structure Answerable (moves : List (served policy).Move) (n : Nat)
    (t : (served policy).Thread) : Prop where
  demand : ∀ d value, t.op.demand? = some d → t.rest = .done value →
    ∃ o, t.op.Yields value d o ∧ Accounted moves n d t.past o
  reading : ∀ r, t.op = .web r → r.demand? = none → Traceless moves n t.past

theorem answerable_of_mem_run (hlate : ∀ e, .resume n (.failAfter e) ∉ moves)
    (ht : ((served policy).run moves).threads[n]? = some t) : Answerable moves n t where
  demand d value hdemand hrest := by
    have hends := (abides_served (List.mem_of_getElem? ht)).rest
    rw [hrest] at hends
    obtain ⟨o, hyields, hends⟩ := hends d hdemand
    exact ⟨o, hyields, accounted_of_ends hlate ht hends⟩
  reading _ hop hdemand := traceless_of_reads hlate ht hop hdemand

/-- A retry of the sample over the network. -/
def sampleRequest : Api.Request where
  method := "POST"
  target := s!"/payouts/{sampleId.toText}/retry"
  contentType := none
  body := none

/-- A move of the engine as a move of the server. -/
def atServer : (concurrent policy).Move → (served policy).Move
  | .start op => .start (.engine op)
  | .resume n b => .resume n b

/-- A payout that may not be tried again is refused by the ledger. -/
def sampleFailed : List (served samplePolicy).Move :=
  (sampleClaim (some 0) ++ sampleRefusal 2).map atServer

/-- It is retried by thread 3, at the web interface. -/
def sampleRetried : List (served samplePolicy).Move :=
  sampleFailed ++ [.start (.web sampleRequest)] ++
    [.resume 3 .plain, .resume 3 (.clock .epoch), .resume 3 .plain, .resume 3 .plain]

theorem answerable_sampleRetried :
    ∃ t value o, ((served samplePolicy).run sampleRetried).threads[3]? = some t ∧
      t.rest = .done value ∧ t.op.Yields value (.retry sampleId) o ∧
      Accounted sampleRetried 3 (.retry sampleId) t.past o ∧ dispatched t.past = [sampleId] := by
  have hstart : ((served samplePolicy).run
      (sampleFailed ++ [.start (.web sampleRequest)])).threads[3]? =
        some (.start (.web sampleRequest)) := by
    have hlen : ((served samplePolicy).run sampleFailed).threads.length = 3 := by decide +kernel
    rw [run_append_singleton, ← hlen]
    exact List.getElem?_concat_length
  obtain ⟨t, ht, hop, -⟩ := exists_thread_later hstart
    [.resume 3 .plain, .resume 3 (.clock .epoch), .resume 3 .plain, .resume 3 .plain]
  have hlate : ∀ e, .resume 3 (.failAfter e) ∉ sampleRetried := by
    intro e
    simp [sampleRetried, sampleFailed, sampleClaim, sampleRefusal, atServer]
  have hends : ∀ t ∈ ((served samplePolicy).run sampleRetried).threads[3]?,
      t.isDone = true ∧ dispatched t.past = [sampleId] := by
    decide +kernel
  obtain ⟨hdone, hdispatched⟩ := hends t ht
  have hdemand : t.op.demand? = some (.retry sampleId) := by
    rw [hop]
    exact Api.demand?_of_retry rfl rfl
  cases hrest : t.rest with
  | ask r next => simp [Thread.isDone, hrest] at hdone
  | done value =>
      obtain ⟨o, hyields, haccounted⟩ :=
        (answerable_of_mem_run hlate ht).demand _ value hdemand hrest
      exact ⟨t, value, o, ht, hrest, hyields, haccounted, hdispatched⟩

end Disburse.Engine
