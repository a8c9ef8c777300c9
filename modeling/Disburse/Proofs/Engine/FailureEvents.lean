import Disburse.Proofs.Engine.Journal
import Disburse.Proofs.Engine.LostUpdate

namespace Disburse.Engine

open Disburse.Machine

/-- The failure of a payout that a notice is about. -/
def Notice.failure? (id : PayoutId) : Notice → Option Event
  | .execution _ => none
  | .failure e => if e.id = id then some e else none

@[simp] theorem Notice.failure?_execution {id id' : PayoutId} :
    Notice.failure? id (.execution id') = none :=
  rfl

@[simp] theorem Notice.failure?_failure {id : PayoutId} {e : Event} :
    Notice.failure? id (.failure e) = if e.id = id then some e else none :=
  rfl

section Log

variable {id : PayoutId} {log : List Entry}

theorem published_failed :
    published "payout.failed" id log =
      ((log.map Entry.exchange).filterMap fun x => Notice.given? x.request).filterMap
        (Notice.failure? id) := by
  induction log with
  | nil => rfl
  | cons e log ih =>
      obtain ⟨⟨r, a⟩, s⟩ := e
      unfold published at ih ⊢
      rw [List.map_cons, List.filterMap_cons, List.filterMap_cons]
      cases r with
      | publish event =>
          cases event with
          | processed => simpa [Entry.event?, Notice.given?, Event.name] using ih
          | failed id' recipient reason =>
              by_cases hid : id' = id <;>
                simpa [Entry.event?, Notice.given?, Event.name, Event.id, hid,
                  List.filterMap_cons] using ih
      | dispatch _ => simpa [Entry.event?, Notice.given?, List.filterMap_cons] using ih
      | store _ | transfer _ | now | freshId | pause _ =>
          simpa [Entry.event?, Notice.given?] using ih

theorem filterMap_failure?_filter (ns : List Notice) :
    (ns.filter fun n => n.id = id).filterMap (Notice.failure? id) =
      ns.filterMap (Notice.failure? id) := by
  induction ns with
  | nil => rfl
  | cons n ns ih =>
      cases n with
      | execution id' => by_cases hid : id' = id <;> simp [hid, ih, List.filterMap_cons]
      | failure e => by_cases hid : e.id = id <;> simp [hid, ih]

theorem filterMap_failure? {cs : List (Payout × Payout)} (h : ∀ change ∈ cs, change.2.id = id) :
    (cs.filterMap Notice.ofChange?).filterMap (Notice.failure? id) =
      (cs.filter fun change => Fails change).map fun change => failureEvent change.2 := by
  induction cs with
  | nil => rfl
  | cons change cs ih =>
      have hid : (failureEvent change.2).id = id := h change List.mem_cons_self
      have ih := ih fun c hc => h c (List.mem_cons_of_mem change hc)
      by_cases henters : Enters change
      · have hfails : ¬ Fails change := fun hfails => henters.1 hfails.1
        simp [Notice.ofChange?, henters, hfails, ih, List.filterMap_cons]
      · by_cases hfails : Fails change <;>
          simp [Notice.ofChange?, henters, hfails, hid, ih]

end Log

theorem Notice.due?_eq_some {x : Exchange interface} {n : Notice} (h : due? x = some n) :
    ∃ p expected, x = wonSwap p expected ∧ ofWrite? p expected = some n := by
  unfold due? at h
  split at h
  · rename_i p expected
    exact ⟨p, expected, rfl, h⟩
  · cases h

theorem Notice.ofWrite?_eq_failure {p : Payout} {expected : Status} {e : Event}
    (h : ofWrite? p expected = some (.failure e)) :
    (p.status = .retryScheduled ∨ p.status = .failed) ∧ e = failureEvent p := by
  unfold ofWrite? at h
  split at h
  · cases h
  · split at h
    all_goals cases h
  · cases h
  · rename_i hstatus
    cases h
    exact ⟨.inl hstatus, rfl⟩
  · rename_i hstatus
    cases h
    exact ⟨.inr hstatus, rfl⟩

/-- A failure that a thread tells listeners of is the one that it has just written, in the place of
a processing record. -/
theorem wonSwap_of_failed {op : Operation} {past before : List (Exchange interface)}
    {x : Exchange interface} {id : PayoutId} {recipient reason : String}
    (h : ∀ before x, before ++ [x] <+: past → (conduct op).allows before x.request)
    (hx : before ++ [x] <+: past) (hrequest : x.request = .publish (.failed id recipient reason)) :
    ∃ row, before.getLast? = some (wonSwap row .processing) ∧
      (row.status = .retryScheduled ∨ row.status = .failed) ∧
      failureEvent row = .failed id recipient reason := by
  have howed := (h before x hx).1
  rw [hrequest] at howed
  obtain ⟨y, hlast, hdue⟩ := Option.bind_eq_some_iff.mp howed.symm
  obtain ⟨row, expected, rfl, hwrite⟩ := Notice.due?_eq_some hdue
  obtain ⟨hstatus, hevent⟩ := Notice.ofWrite?_eq_failure hwrite
  obtain ⟨first, rfl⟩ := List.getLast?_eq_some_iff.mp hlast
  have hswap : Swappable first row expected :=
    (h first _ ((List.prefix_append ..).trans hx)).2
  obtain rfl := hswap.failed hstatus
  exact ⟨row, hlast, hstatus, hevent.symm⟩

/-- At the end of all tasks, listeners have been told of one failure for each write of a record
from processing to a failure, with its recipient and its reason. Each of these events comes right
behind the write of its task, so that a booking that writes nothing tells nothing. -/
theorem failure_events_mirror_writes {policy : RetryPolicy}
    {moves : List (concurrent policy).Move} (hmoves : ∀ move ∈ moves, isPrompt move = true)
    (id : PayoutId) :
    let c := (concurrent policy).run moves
    (c.isIdle = true → (published "payout.failed" id c.state.log).Perm
      ((failures id c.state.log).map fun change => failureEvent change.2)) ∧
    (∀ change ∈ failures id c.state.log, change.2.failureReason.isSome) ∧
    ∀ t ∈ c.threads, ∀ before x id recipient reason, before ++ [x] <+: t.past →
      x.request = .publish (.failed id recipient reason) →
        ∃ row, before.getLast? = some (wonSwap row .processing) ∧
          (row.status = .retryScheduled ∨ row.status = .failed) ∧
          failureEvent row = .failed id recipient reason := by
  intro c
  refine ⟨fun hidle => ?_, fun change hchange => ?_, fun t ht before x _ _ _ hx hrequest =>
    wonSwap_of_failed (abides ht).allowed hx hrequest⟩
  · have hnone : c.threads.flatMap (fun t => (owed t.past).toList) = [] := by
      refine List.flatMap_eq_nil_iff.mpr fun t ht => ?_
      rw [owed_of_isDone ht (List.all_eq_true.mp hidle t ht)]
      rfl
    have hgiven : ((c.state.log.map Entry.exchange).filterMap Notice.due?).Perm
        ((c.state.log.map Entry.exchange).filterMap (fun x => Notice.given? x.request) ++
          c.threads.flatMap fun t => (owed t.past).toList) := due_perm_given
    rw [hnone, List.append_nil] at hgiven
    rw [published_failed, failures, ← filterMap_failure? fun _ => id_of_mem_changes,
      filterMap_changes hmoves, filterMap_failure?_filter]
    exact (hgiven.filterMap _).symm
  · obtain ⟨hchange, hfails⟩ := List.mem_filter.mp hchange
    obtain ⟨e, he, hfind⟩ := exists_of_mem_changes hchange
    exact (legal_of_mem_log he (MemoryStore.mem_of_find? hfind)).failureReason_isSome
      (of_decide_eq_true hfails).2.symm

/-- A payout is claimed, its submission is refused, and its retry is scheduled. -/
def sampleRefused : List (concurrent samplePolicy).Move :=
  sampleClaim none ++ sampleRefusal 2

theorem failure_events_mirror_sampleRefused :
    (published "payout.failed" sampleId
        ((concurrent samplePolicy).run sampleRefused).state.log).Perm
      [.failed sampleId "GDEST" (Error.executionFailed "no route to ledger").message] := by
  have hmoves : ∀ move ∈ sampleRefused, isPrompt move = true := by decide +kernel
  have hidle : ((concurrent samplePolicy).run sampleRefused).isIdle = true := by decide +kernel
  have hfailures : (failures sampleId
      ((concurrent samplePolicy).run sampleRefused).state.log).map
        (fun change => failureEvent change.2) =
      [.failed sampleId "GDEST" (Error.executionFailed "no route to ledger").message] := by
    decide +kernel
  exact hfailures ▸ (failure_events_mirror_writes hmoves sampleId).1 hidle

end Disburse.Engine
