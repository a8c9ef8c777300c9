import Disburse.Proofs.Engine.Journal
import Disburse.Proofs.Engine.LostUpdate

namespace Disburse.Engine

open Disburse.Machine

section Thread

variable {op : Operation} {past before : List (Exchange interface)} {x : Exchange interface}
  {id : PayoutId}

theorem isSubmission_eq_true (h : isSubmission x = true) :
    ∃ request, x.request = .transfer (.submit request) := by
  unfold isSubmission at h
  split at h
  · rename_i request hrequest
    exact ⟨request, hrequest⟩
  · cases h

theorem Entry.Submits.request {s : MemoryStore} (h : Entry.Submits ⟨x, s⟩ id) :
    ∃ request, x.request = .transfer (.submit request) ∧ request.memo = id.toText := by
  unfold Entry.Submits Entry.memo? at h
  split at h
  · rename_i request hrequest
    exact ⟨request, hrequest, Option.some.inj h⟩
  · cases h

theorem submission_allowed {request : TransferRequest} (h : (conduct op).allows before x.request)
    (hrequest : x.request = .transfer (.submit request)) :
    (∃ q, op.executed? = some q.id ∧ ⟨.store (.get q.id), .ok (some q)⟩ ∈ before ∧
      q.status = .processing ∧ request = requestOf q) ∧ ∀ y ∈ before, isSubmission y = false := by
  rw [hrequest] at h
  exact h.2

theorem countP_isSubmission_le
    (h : ∀ before x, before ++ [x] <+: past → (conduct op).allows before x.request) :
    past.countP isSubmission ≤ 1 := by
  induction past using List.reverseRecOn with
  | nil => simp
  | append_singleton past x ih =>
      have ih := ih fun before y hy => h before y (hy.trans (List.prefix_append ..))
      cases hx : isSubmission x with
      | false => simpa [List.countP_append, hx] using ih
      | true =>
          obtain ⟨request, hrequest⟩ := isSubmission_eq_true hx
          have hfirst := (submission_allowed (h past x (List.prefix_refl _)) hrequest).2
          have hnone : past.countP isSubmission = 0 :=
            List.countP_eq_zero.mpr fun y hy => by simp [hfirst y hy]
          simp [List.countP_append, hx, hnone]

/-- The transfers that an operation submits for a payout: at most one if it executes the payout,
and otherwise none. -/
theorem countP_submits_le {s : MemoryStore}
    (h : ∀ before x, before ++ [x] <+: past → (conduct op).allows before x.request) :
    past.countP (fun x => Entry.Submits ⟨x, s⟩ id) ≤
      if op.executed? = some id then 1 else 0 := by
  split
  · refine Nat.le_trans (List.countP_mono_left fun x _ hx => ?_) (countP_isSubmission_le h)
    obtain ⟨request, hrequest, -⟩ := Entry.Submits.request (of_decide_eq_true hx)
    simp [isSubmission, hrequest]
  · rename_i hother
    refine Nat.le_of_eq (List.countP_eq_zero.mpr fun x hx hsubmits => hother ?_)
    obtain ⟨request, hrequest, hmemo⟩ := Entry.Submits.request (of_decide_eq_true hsubmits)
    obtain ⟨before, after, rfl⟩ := List.append_of_mem hx
    obtain ⟨⟨q, hop, -, -, rfl⟩, -⟩ := submission_allowed (h before x ⟨after, by simp⟩) hrequest
    rw [hop, PayoutId.toText_injective hmemo]

end Thread

theorem countP_flatMap_le {α β : Type} {f : α → List β} {p : β → Bool} {q : α → Prop}
    [DecidablePred q] {l : List α} (h : ∀ a ∈ l, (f a).countP p ≤ if q a then 1 else 0) :
    (l.flatMap f).countP p ≤ l.countP fun a => q a := by
  induction l with
  | nil => simp
  | cons a l ih =>
      have ha := h a List.mem_cons_self
      have ih := ih fun b hb => h b (List.mem_cons_of_mem a hb)
      rw [List.flatMap_cons, List.countP_append, List.countP_cons]
      simp only [decide_eq_true_eq]
      omega

theorem count_execution {id : PayoutId} {cs : List (Payout × Payout)}
    (h : ∀ change ∈ cs, change.2.id = id) :
    (cs.filterMap Notice.ofChange?).count (.execution id) =
      (cs.filter fun change => Enters change).length := by
  induction cs with
  | nil => rfl
  | cons change cs ih =>
      have hid := h change List.mem_cons_self
      have ih := ih fun c hc => h c (List.mem_cons_of_mem change hc)
      by_cases henters : Enters change
      · simp [Notice.ofChange?, henters, hid, ih]
      · by_cases hfails : Fails change <;> simp [Notice.ofChange?, henters, hfails, ih]

section Run

variable {policy : RetryPolicy} {distinct : Bool} {opens : Operation → Bool → Bool}
  {moves : List (machine policy distinct opens).Move} {t : (machine policy distinct opens).Thread}
  {id : PayoutId}

/-- Only services are started from outside, and no answer comes late. -/
def isOrderly : (machine policy distinct opens).Move → Bool
  | .start op => op.isService
  | .resume _ (.failAfter _) => false
  | .resume _ _ => true

theorem isPrompt_of_isOrderly {move : (machine policy distinct opens).Move}
    (h : isOrderly move = true) : isPrompt move = true := by
  cases move with
  | start op => rfl
  | resume position b => cases b <;> first | rfl | cases h

/-- How many executions of a payout were started. -/
def executions (id : PayoutId) (threads : List (machine policy distinct opens).Thread) : Nat :=
  threads.countP fun t => t.op.executed? = some id

theorem executed?_of_isService {op : Operation} (h : op.isService = true) :
    op.executed? = none := by
  cases op <;> first | rfl | cases h

theorem executions_eq_count (hmoves : ∀ move ∈ moves, isOrderly move = true) :
    executions id ((machine policy distinct opens).run moves).threads =
      ((((machine policy distinct opens).run moves).state.log.map Entry.exchange).filterMap
        fun x => Notice.given? x.request).count (.execution id) := by
  refine run_induction (M := machine policy distinct opens)
    (P := fun c => executions id c.threads = ((c.state.log.map Entry.exchange).filterMap
      fun x => Notice.given? x.request).count (.execution id))
    (K := fun move => isOrderly move = true) rfl ?_ ?_ hmoves
  · intro moves op hservice ih
    simpa [executions, Thread.start, executed?_of_isService hservice] using ih
  · intro moves position b before op past r next after a s _ hthreads hanswer _ ih
    have hspawned : executions id (((machine policy distinct opens).spawned r).map
        Thread.start).toList = ((Notice.given? r).toList).count (.execution id) := by
      cases r with
      | dispatch id' => by_cases hid : id' = id <;>
          simp [executions, Thread.start, Operation.executed?, Notice.given?, hid]
      | publish e => cases e <;> simp [executions, Notice.given?]
      | store _ | transfer _ | now | freshId | pause _ => rfl
    rw [hthreads] at ih
    rw [(Shared.answer_eq_some hanswer).2.2.1, List.map_append, List.filterMap_append,
      List.count_append, ← ih]
    have hlast : ([⟨r, a⟩] : List (Exchange interface)).filterMap
        (fun x => Notice.given? x.request) = (Notice.given? r).toList := by
      cases h : Notice.given? r <;> simp [h]
    rw [List.map_cons, List.map_nil, hlast, ← hspawned]
    simp only [executions, List.countP_append, List.countP_cons]

theorem dispatches_of_owed (ht : t ∈ ((machine policy distinct opens).run moves).threads)
    (howed : owed t.past = some (.execution id)) : t.op.dispatches = true ∧ t.isDone = false := by
  obtain ⟨op, past, rest⟩ := t
  have hrest := (abides ht).rest
  cases rest with
  | done value =>
      rw [show owed past = none from hrest] at howed
      cases howed
  | ask r next =>
      obtain ⟨⟨hgiven, hproper⟩, -⟩ := hrest
      rw [howed] at hgiven
      refine ⟨?_, rfl⟩
      cases r with
      | dispatch _ => exact hproper
      | publish e => cases e <;> cases hgiven
      | store _ | transfer _ | now | freshId | pause _ => cases hgiven

/-- An execution is started for each entry of a record into processing, or it is still owed. -/
theorem entered_eq_executions (hmoves : ∀ move ∈ moves, isOrderly move = true) :
    (entered id ((machine policy distinct opens).run moves).state.log).length =
      executions id ((machine policy distinct opens).run moves).threads +
        (((machine policy distinct opens).run moves).threads.flatMap
          fun t => (owed t.past).toList).count (.execution id) := by
  rw [executions_eq_count hmoves, ← List.count_append, ← due_perm_given.count_eq, entered,
    ← count_execution fun _ => id_of_mem_changes,
    filterMap_changes fun move hmove => isPrompt_of_isOrderly (hmoves move hmove)]
  exact List.count_filter (by simp [Notice.id])

theorem countP_submits_le_executions :
    ((machine policy distinct opens).run moves).state.log.countP (fun e => e.Submits id) ≤
      executions id ((machine policy distinct opens).run moves).threads := by
  have hlog : ((machine policy distinct opens).run moves).state.log.countP
      (fun e => e.Submits id) = (((machine policy distinct opens).run moves).state.log.map
        Entry.exchange).countP fun x => Entry.Submits ⟨x, .empty⟩ id := by
    rw [List.countP_map]
    rfl
  rw [hlog, exchanges_perm.countP_eq]
  exact countP_flatMap_le fun t ht => countP_submits_le (abides ht).allowed

end Run

/-- For each entry of a payout into processing one execution is started, once all that send payouts
into processing have ended; an execution submits at most once, and only what it has read as
processing. So there are at no time more submissions than entries. -/
theorem execution_per_entry {policy : RetryPolicy} {moves : List (concurrent policy).Move}
    (hmoves : ∀ move ∈ moves, isOrderly move = true) (id : PayoutId) :
    let c := (concurrent policy).run moves
    ((∀ t ∈ c.threads, t.op.dispatches = true → t.isDone = true) →
      executions id c.threads = (entered id c.state.log).length) ∧
    (∀ t ∈ c.threads, t.op.executed? = some id → t.past.countP isSubmission ≤ 1 ∧
      ∀ before x, before ++ [x] <+: t.past → isSubmission x = true →
        ∃ q, ⟨.store (.get id), .ok (some q)⟩ ∈ before ∧ q.status = .processing ∧
          x.request = .transfer (.submit (requestOf q))) ∧
    c.state.log.countP (fun e => e.Submits id) ≤ (entered id c.state.log).length := by
  intro c
  have hentered : (entered id c.state.log).length = executions id c.threads +
      (c.threads.flatMap fun t => (owed t.past).toList).count (.execution id) :=
    entered_eq_executions hmoves
  refine ⟨fun hended => ?_, fun t ht hop => ⟨countP_isSubmission_le (abides ht).allowed, ?_⟩, ?_⟩
  · have hnone : (c.threads.flatMap fun t => (owed t.past).toList).count (.execution id) = 0 := by
      refine List.count_eq_zero.mpr fun hmem => ?_
      obtain ⟨t, ht, howed⟩ := List.mem_flatMap.mp hmem
      obtain ⟨hop, hdone⟩ := dispatches_of_owed ht (Option.mem_toList.mp howed)
      rw [hended t ht hop] at hdone
      cases hdone
    omega
  · intro before x hbefore hx
    obtain ⟨request, hrequest⟩ := isSubmission_eq_true hx
    obtain ⟨⟨q, hq, hread, hstatus, rfl⟩, -⟩ :=
      submission_allowed ((abides ht).allowed before x hbefore) hrequest
    obtain rfl : q.id = id := Option.some.inj (hq.symm.trans hop)
    exact ⟨q, hread, hstatus, hrequest⟩
  · have hsubmits : c.state.log.countP (fun e => e.Submits id) ≤ executions id c.threads :=
      countP_submits_le_executions
    omega

/-- A sweep requeues the payout that is due, and its execution is refused again. -/
def sampleRequeue : List (concurrent samplePolicy).Move :=
  sampleDue ++ [.resume 3 .plain, .resume 3 .plain] ++ sampleRefusal 4

theorem execution_per_entry_sampleRequeue :
    executions sampleId ((concurrent samplePolicy).run sampleRequeue).threads = 2 ∧
      (entered sampleId ((concurrent samplePolicy).run sampleRequeue).state.log).length = 2 ∧
      ((concurrent samplePolicy).run sampleRequeue).state.log.countP
        (fun e => e.Submits sampleId) ≤ 2 := by
  have hmoves : ∀ move ∈ sampleRequeue, isOrderly move = true := by decide +kernel
  have hended : ∀ t ∈ ((concurrent samplePolicy).run sampleRequeue).threads,
      t.op.dispatches = true → t.isDone = true := by
    decide +kernel
  have hentered :
      (entered sampleId ((concurrent samplePolicy).run sampleRequeue).state.log).length = 2 := by
    decide +kernel
  obtain ⟨hequal, -, hsubmits⟩ := execution_per_entry hmoves sampleId
  exact ⟨(hequal hended).trans hentered, hentered, hsubmits.trans_eq hentered⟩

end Disburse.Engine
