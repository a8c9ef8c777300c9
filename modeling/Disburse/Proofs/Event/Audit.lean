import Disburse.Event.Audit
import Disburse.Proofs.Json.Text

/-!
What the audit log holds of the events that were published while its listener did not run: each of
those that the bus has kept, in their order, and behind which gap they come.
-/

namespace Disburse

namespace Bus

variable {α : Type} {bus : Bus α} {size listener next : Nat} {published : List α} {a : α}

/-- Messages were published on a bus of some size whose only listener is about to read the one at a
position. -/
structure Awaits (bus : Bus α) (size listener : Nat) (published : List α) (next : Nat) : Prop where
  capacity : bus.capacity = size
  kept : bus.kept = published.drop (published.length - size)
  position : bus.position = published.length
  subscriptions : bus.subscriptions = [⟨listener, next⟩]

def publishAll (bus : Bus α) (published : List α) : Bus α :=
  published.foldl (fun bus a => (bus.publish a).2) bus

namespace Awaits

theorem oldest (h : bus.Awaits size listener published next) :
    bus.oldest = published.length - size := by
  rw [Bus.oldest, h.position, h.kept, List.length_drop]
  omega

theorem moveTo (h : bus.Awaits size listener published next) (next' : Nat) :
    (bus.moveTo listener next').Awaits size listener published next' where
  capacity := h.capacity
  kept := h.kept
  position := h.position
  subscriptions := by simp [Bus.moveTo, h.subscriptions]

theorem close (h : bus.Awaits size listener published next) :
    bus.close.2.Awaits size listener published next :=
  ⟨h.capacity, h.kept, h.position, h.subscriptions⟩

theorem publish (h : bus.Awaits size listener published next) (hopen : bus.isOpen = true) (a : α) :
    (bus.publish a).2.Awaits size listener (published ++ [a]) next ∧
      (bus.publish a).2.isOpen = true := by
  have hpublish : bus.publish a = (some bus.subscriptions.length,
      { bus with
        kept := (bus.kept ++ [a]).drop ((bus.kept ++ [a]).length - bus.capacity)
        position := bus.position + 1 }) := by
    simp [Bus.publish, hopen, h.subscriptions]
  rw [hpublish]
  have hkept : bus.kept ++ [a] = (published ++ [a]).drop (published.length - size) := by
    rw [h.kept, List.drop_append_of_le_length (Nat.sub_le ..)]
  refine ⟨⟨h.capacity, ?_, ?_, h.subscriptions⟩, hopen⟩
  · dsimp only
    rw [hkept, h.capacity, List.drop_drop, List.length_drop, List.length_append]
    congr 1
    simp only [List.length_singleton]
    omega
  · simp [h.position]

theorem publishAll (h : bus.Awaits size listener published next) (hopen : bus.isOpen = true)
    (more : List α) : (bus.publishAll more).Awaits size listener (published ++ more) next := by
  induction more generalizing bus published with
  | nil =>
      rw [List.append_nil]
      exact h
  | cons a more ih =>
      obtain ⟨h', hopen'⟩ := h.publish hopen a
      rw [List.append_cons]
      exact ih h' hopen'

theorem receive_lagged (h : bus.Awaits size listener published next)
    (hnext : next < published.length - size) :
    bus.receive listener = (.lagged (published.length - size - next),
      bus.moveTo listener (published.length - size)) := by
  simp [receive, h.subscriptions, h.oldest, hnext]

theorem receive_message (h : bus.Awaits size listener published next)
    (hkept : published.length - size ≤ next) (hnext : published[next]? = some a) :
    bus.receive listener = (.message a, bus.moveTo listener (next + 1)) := by
  simp [receive, h.subscriptions, h.oldest, h.kept, hkept, hnext, Nat.not_lt.mpr hkept]

theorem receive_closed (h : bus.Awaits size listener published published.length)
    (hclosed : bus.isOpen = false) : bus.receive listener = (.closed, bus) := by
  simp [receive, h.subscriptions, h.oldest, h.kept, hclosed]

end Awaits

theorem awaits_of_make? {capacity : Nat} (h : make? capacity = some bus) (listener : Nat) :
    (bus.subscribe listener).Awaits (max capacity 1).nextPowerOfTwo listener [] 0 ∧
      (bus.subscribe listener).isOpen = true := by
  unfold make? at h
  split at h
  · obtain rfl := Option.some.inj h
    exact ⟨⟨rfl, List.drop_nil.symm, rfl, rfl⟩, rfl⟩
  · cases h

end Bus

namespace Audit

/-- What a listener logs that reads until the bus is closed and drained. There is nothing to say of
one that waits for more. -/
inductive Listens (listener : Nat) : Bus Event → List AuditEntry → Prop where
  | event {bus bus' : Bus Event} {e : Event} {log : List AuditEntry}
      (h : bus.receive listener = (.message e, bus')) (hrest : Listens listener bus' log) :
      Listens listener bus (.event e :: log)
  | lagged {bus bus' : Bus Event} {missed : Nat} {log : List AuditEntry}
      (h : bus.receive listener = (.lagged missed, bus')) (hrest : Listens listener bus' log) :
      Listens listener bus (.lagged missed :: log)
  | closed {bus bus' : Bus Event} (h : bus.receive listener = (.closed, bus')) :
      Listens listener bus [.stopped]

variable {bus : Bus Event} {capacity size listener next : Nat} {events : List Event}
  {log log' : List AuditEntry}

theorem Listens.unique (h : Listens listener bus log) (h' : Listens listener bus log') :
    log = log' := by
  induction h generalizing log' with
  | event h _ ih =>
      cases h' with
      | event h' hrest' =>
          cases h.symm.trans h'
          rw [ih hrest']
      | lagged h' _ | closed h' => cases h.symm.trans h'
  | lagged h _ ih =>
      cases h' with
      | lagged h' hrest' =>
          cases h.symm.trans h'
          rw [ih hrest']
      | event h' _ | closed h' => cases h.symm.trans h'
  | closed h =>
      cases h' with
      | closed _ => rfl
      | event h' _ | lagged h' _ => cases h.symm.trans h'

theorem Listens.length_pos (h : Listens listener bus log) : 0 < log.length := by
  cases h <;> exact Nat.zero_lt_succ _

theorem Listens.drain_eq (h : Listens listener bus log) {fuel : Nat}
    (hfuel : log.length ≤ fuel + 1) : drain fuel bus listener = log := by
  induction h generalizing fuel with
  | event h hrest ih | lagged h hrest ih =>
      have hrest := hrest.length_pos
      rw [List.length_cons] at hfuel
      obtain ⟨fuel, rfl⟩ : ∃ n, fuel = n + 1 := ⟨fuel - 1, by omega⟩
      rw [drain, h]
      exact congrArg _ (ih (Nat.le_of_succ_le_succ hfuel))
  | closed h =>
      cases fuel with
      | zero => rfl
      | succ fuel => rw [drain, h]

/-- The events that were published while the listener was away for too long. -/
def gap (size : Nat) (events : List Event) : List AuditEntry :=
  if size < events.length then [.lagged (events.length - size)] else []

/-- What is logged of events that were published on a bus of some size. -/
def account (size : Nat) (events : List Event) : List AuditEntry :=
  gap size events ++ (events.drop (events.length - size)).map .event ++ [.stopped]

theorem listens_kept (h : bus.Awaits size listener events next) (hclosed : bus.isOpen = false)
    (hkept : events.length - size ≤ next) (hnext : next ≤ events.length) :
    Listens listener bus ((events.drop next).map .event ++ [.stopped]) := by
  induction hrest : events.drop next generalizing bus next with
  | nil =>
      obtain rfl : next = events.length :=
        Nat.le_antisymm hnext (List.drop_eq_nil_iff.mp hrest)
      exact .closed (h.receive_closed hclosed)
  | cons e rest ih =>
      have he : events[next]? = some e := by
        rw [← List.head?_drop, hrest, List.head?_cons]
      have hlt : next < events.length := (List.getElem?_eq_some_iff.mp he).1
      have hrest' : events.drop (next + 1) = rest := by
        rw [← List.tail_drop, hrest, List.tail_cons]
      exact .event (h.receive_message hkept he)
        (ih (h.moveTo (next + 1)) hclosed (Nat.le_succ_of_le hkept) hlt hrest')

theorem listens_account (h : bus.Awaits size listener events 0) (hclosed : bus.isOpen = false) :
    Listens listener bus (account size events) := by
  by_cases hgap : size < events.length
  · rw [account, gap, if_pos hgap]
    refine .lagged (h.receive_lagged (Nat.sub_pos_of_lt hgap)) ?_
    exact listens_kept (h.moveTo _) hclosed (Nat.le_refl _) (Nat.sub_le ..)
  · have hall : events.length - size = 0 := Nat.sub_eq_zero_of_le (Nat.not_lt.mp hgap)
    rw [account, gap, if_neg hgap, hall]
    exact listens_kept h hclosed (Nat.le_of_eq hall) (Nat.zero_le _)

theorem length_account_le (size : Nat) (events : List Event) :
    (account size events).length ≤ (events.drop (events.length - size)).length + 2 := by
  have hgap : (gap size events).length ≤ 1 := by
    rw [gap]
    split <;> simp
  rw [account, List.length_append, List.length_append, List.length_map, List.length_singleton]
  omega

theorem session_eq (bus : Bus Event) (events : List Event) :
    (session bus events false).2 = Audit.log ((bus.subscribe 0).publishAll events).close.2 0 := by
  have hpublish : ∀ (events : List Event) (counts : List Nat) (bus : Bus Event),
      (events.foldl (fun (state : List Nat × Bus Event) e =>
        (state.1 ++ [(state.2.publish e).1.getD 0], (state.2.publish e).2)) (counts, bus)).2 =
        bus.publishAll events := by
    intro events
    induction events with
    | nil => exact fun _ _ => rfl
    | cons e events ih => exact fun counts bus => ih _ _
  exact congrArg (fun bus => Audit.log (Bus.close bus).2 0) (hpublish events [] (bus.subscribe 0))

def logged (log : List AuditEntry) : List Event :=
  log.filterMap fun entry =>
    match entry with
    | .event e => some e
    | _ => none

def missed : List AuditEntry → Nat
  | [] => 0
  | .lagged k :: log => k + missed log
  | _ :: log => missed log

theorem logged_account (size : Nat) (events : List Event) :
    logged (account size events) = events.drop (events.length - size) := by
  have hgap : logged (gap size events) = [] := by
    rw [gap]
    split <;> rfl
  have hevents : ∀ rest : List Event, logged (rest.map .event ++ [.stopped]) = rest := by
    intro rest
    induction rest with
    | nil => rfl
    | cons e rest ih => exact congrArg (e :: ·) ih
  rw [account, List.append_assoc, logged, List.filterMap_append, ← logged, hgap, ← logged, hevents,
    List.nil_append]

theorem missed_account (size : Nat) (events : List Event) :
    missed (account size events) = events.length - size := by
  have hevents : ∀ rest : List Event, missed (rest.map .event ++ [.stopped]) = 0 := by
    intro rest
    induction rest with
    | nil => rfl
    | cons e rest ih => exact ih
  rw [account, List.append_assoc, gap]
  split
  · exact congrArg (events.length - size + ·) (hevents _)
  · rename_i hgap
    rw [Nat.sub_eq_zero_of_le (Nat.not_lt.mp hgap)]
    exact hevents _

theorem isPlain_toJson (e : Event) : e.toJson.IsPlain := by
  cases e with
  | processed => exact ⟨trivial, trivial, trivial, trivial, trivial, trivial⟩
  | failed => exact ⟨trivial, trivial, trivial, trivial, trivial⟩

/-- The log of events that were published on a bus of some size before it was closed. -/
structure Accounts (size : Nat) (events : List Event) (log : List AuditEntry) : Prop where
  entries : log = (if size < events.length then [.lagged (events.length - size)] else []) ++
    (events.drop (events.length - size)).map .event ++ [.stopped]
  /-- Every event is counted or logged. -/
  complete : missed log + (logged log).length = events.length
  /-- The events that are logged are the last ones, in their order and each of them once. -/
  suffix : logged log <:+ events
  payload : ∀ e ∈ logged log, ∃ text,
    (AuditEntry.event e).toJson.member? "payload" = some (.str text) ∧
      Json.parse? text = some e.toJson

theorem accounts (size : Nat) (events : List Event) :
    Accounts size events (account size events) where
  entries := rfl
  complete := by
    rw [missed_account, logged_account, List.length_drop]
    omega
  suffix := by
    rw [logged_account]
    exact List.drop_suffix ..
  payload e _ := ⟨e.toJson.render, rfl, Json.parse?_render (isPlain_toJson e)⟩

/-- A listener that only runs once its bus is closed comes to an end, in one way only, and has then
accounted for every event. -/
theorem session_accounts {bus : Bus Event} (hmake : Bus.make? capacity = some bus)
    (events : List Event) :
    Accounts (max capacity 1).nextPowerOfTwo events (session bus events false).2 ∧
      ∀ log, Listens 0 ((bus.subscribe 0).publishAll events).close.2 log ↔
        log = (session bus events false).2 := by
  obtain ⟨hempty, hopen⟩ := Bus.awaits_of_make? hmake 0
  have hawaits : (((bus.subscribe 0).publishAll events).close.2).Awaits
      (max capacity 1).nextPowerOfTwo 0 events 0 :=
    (hempty.publishAll hopen events).close
  have hlistens := listens_account hawaits rfl
  have hsession : (session bus events false).2 =
      account (max capacity 1).nextPowerOfTwo events := by
    rw [session_eq]
    refine hlistens.drain_eq (Nat.le_trans (length_account_le _ events) ?_)
    rw [hawaits.kept]
    exact Nat.le_succ _
  rw [hsession]
  refine ⟨accounts _ events, fun log => ⟨fun h => h.unique hlistens, ?_⟩⟩
  rintro rfl
  exact hlistens

/-- Events that can be told apart. -/
def sampleEvent (n : Nat) : Event :=
  .failed (.ofNat n) "GDEST" "down"

/-- More events than the sample bus keeps. -/
def sampleEvents : List Event :=
  [sampleEvent 1, sampleEvent 2, sampleEvent 3, sampleEvent 4, sampleEvent 5, sampleEvent 6]

/-- A bus for three events keeps four. -/
theorem session_accounts_sampleEvents :
    ∃ bus, Bus.make? 3 = some bus ∧ (session bus sampleEvents false).2 =
      [.lagged 2, .event (sampleEvent 3), .event (sampleEvent 4), .event (sampleEvent 5),
        .event (sampleEvent 6), .stopped] := by
  have hsize : (max 3 1).nextPowerOfTwo = 4 := by
    decide +kernel
  obtain ⟨bus, hmake⟩ : ∃ bus, Bus.make? 3 = some bus := ⟨_, rfl⟩
  refine ⟨bus, hmake, ?_⟩
  rw [(session_accounts hmake sampleEvents).1.entries, hsize]
  rfl

end Audit

end Disburse
