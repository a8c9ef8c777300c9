import Disburse.Proofs.Engine.Calm

/-!
The recording of a confirmed transfer against other writers. Before every call of the store they
may replace the record by any other version, and any call may fail without effect. Whatever they
do, a completed record is never replaced, and what the recording returns and publishes is true of
the last row that it saw.
-/

namespace Disburse.Engine

open Disburse.Task

/-- A call of the store, between the store that it found and the one that it left. -/
structure Moment where
  found : MemoryStore
  exchange : Exchange interface
  left : MemoryStore

/-- The store, and its calls so far, the first one first. -/
structure Arena where
  store : MemoryStore
  moments : List Moment

def Arena.next (w : Arena) (m : Moment) : Arena :=
  ⟨m.left, w.moments ++ [m]⟩

/-- Other writers of one record, a store that may fail without acting, and a clock that stands in
1970 or later. What they do next may depend on all calls so far. -/
structure Adversary (id : PayoutId) where
  writes : List Moment → Option {row : Payout // row.id = id}
  fails : List Moment → Option Error
  clock : List Moment → {t : Instant // 0 ≤ t.seconds}

variable {id : PayoutId} {adversary : Adversary id} {w w' : Arena} {m : Moment} {k l : Nat}
  {p q current row : Payout} {receipt : TransferReceipt} {past : List (Exchange interface)}

namespace Adversary

/-- The store that the next call finds. -/
def found (adversary : Adversary id) (w : Arena) : MemoryStore :=
  match adversary.writes w.moments with
  | none => w.store
  | some row => w.store.overwrite row

/-- The answers that a task gets against an adversary. -/
def answer (adversary : Adversary id) : Surroundings interface Arena
  | .store c, w =>
    let found := adversary.found w
    match adversary.fails w.moments with
    | some e => (.error e, w.next ⟨found, ⟨.store c, .error e⟩, found⟩)
    | none =>
      let result := found.answer c
      (result.1, w.next ⟨found, ⟨.store c, result.1⟩, result.2⟩)
  | .transfer _, w => (.error .crash, w)
  | .now, w => ((adversary.clock w.moments).1, w)
  | .freshId, w => (id, w)
  | .publish _, w => ((), w)
  | .dispatch _, w => ((), w)
  | .pause _, w => ((), w)

theorem answer_failed {c : StoreCall} {e : Error} (h : adversary.fails w.moments = some e) :
    adversary.answer (.store c) w = (.error e,
      w.next ⟨adversary.found w, ⟨.store c, .error e⟩, adversary.found w⟩) := by
  simp [answer, h]

theorem answer_served {c : StoreCall} (h : adversary.fails w.moments = none) :
    adversary.answer (.store c) w = (((adversary.found w).answer c).1,
      w.next ⟨adversary.found w, ⟨.store c, ((adversary.found w).answer c).1⟩,
        ((adversary.found w).answer c).2⟩) := by
  simp [answer, h]

theorem exists_found (h : ∃ row, w.store.find? id = some row) :
    ∃ row, (adversary.found w).find? id = some row := by
  obtain ⟨row, hrow⟩ := h
  unfold found
  split
  · exact ⟨row, hrow⟩
  · rename_i q hq
    obtain ⟨q, rfl⟩ := q
    exact ⟨q, MemoryStore.find?_overwrite_self hrow⟩

end Adversary

def Moment.isSwap (m : Moment) : Bool :=
  match m.exchange.request with
  | .store (.saveIf ..) => true
  | _ => false

def isWon : Exchange interface → Bool
  | ⟨.store (.saveIf ..), .ok true⟩ => true
  | _ => false

/-- A call that wrote nothing. -/
structure Moment.IsIdle (m : Moment) : Prop where
  same : m.left = m.found
  lost : isWon m.exchange = false

/-- A call that wrote nothing, or a swap that replaced a record that was not completed. -/
def Moment.Spares (id : PayoutId) (m : Moment) : Prop :=
  m.IsIdle ∨ ∃ q row, m.exchange = wonSwap q row.status ∧ m.found.find? id = some row ∧
    row.status ≠ .completed ∧ m.left = m.found.overwrite q

/-- A history in which nothing was written, by a number of swaps at most. -/
structure Undecided (id : PayoutId) (k : Nat) (w : Arena) : Prop where
  row : ∃ row, w.store.find? id = some row
  idle : ∀ m ∈ w.moments, m.IsIdle
  swaps : w.moments.countP Moment.isSwap ≤ k

/-- A history that ends with a call behind which a record is stored. -/
structure Decided (id : PayoutId) (k : Nat) (row : Payout) (w : Arena) : Prop where
  last : ∃ m, w.moments.getLast? = some m ∧ m.left.find? id = some row
  spared : ∀ m ∈ w.moments, m.Spares id
  swaps : w.moments.countP Moment.isSwap ≤ k

/-- A history that ends with a call that read a record. -/
def LastRead (id : PayoutId) (row : Payout) (w : Arena) : Prop :=
  ∃ m, w.moments.getLast? = some m ∧ m.exchange = ⟨.store (.get id), .ok (some row)⟩ ∧
    m.left.find? id = some row

theorem LastRead.id_eq (h : LastRead id row w) : row.id = id := by
  obtain ⟨m, -, -, hfind⟩ := h
  exact MemoryStore.find?_id hfind

theorem Undecided.next {s : MemoryStore} {x : Exchange interface} (h : Undecided id k w)
    (hrow : s.find? id = some row) (hlost : isWon x = false)
    (hl : k + (Moment.isSwap ⟨s, x, s⟩).toNat ≤ l) : Undecided id l (w.next ⟨s, x, s⟩) where
  row := ⟨row, hrow⟩
  idle := by
    intro m hm
    rcases List.mem_append.mp hm with hm | hm
    · exact h.idle m hm
    · exact List.mem_singleton.mp hm ▸ ⟨rfl, hlost⟩
  swaps := by
    have := h.swaps
    have hcount : List.countP Moment.isSwap (w.moments ++ [⟨s, x, s⟩]) =
        w.moments.countP Moment.isSwap + List.countP Moment.isSwap [⟨s, x, s⟩] :=
      List.countP_append
    cases hswap : Moment.isSwap ⟨s, x, s⟩ <;> simp_all [Arena.next] <;> omega

theorem Undecided.win (h : Undecided id k w) {s : MemoryStore} (hid : q.id = id)
    (hrow : s.find? id = some row) (hstatus : row.status ≠ .completed) :
    Decided id (k + 1) q (w.next ⟨s, wonSwap q row.status, s.overwrite q⟩) where
  last := by
    obtain rfl := hid
    exact ⟨_, List.getLast?_concat, MemoryStore.find?_overwrite_self hrow⟩
  spared := by
    intro m hm
    rcases List.mem_append.mp hm with hm | hm
    · exact .inl (h.idle m hm)
    · exact List.mem_singleton.mp hm ▸ .inr ⟨q, row, rfl, hrow, hstatus, rfl⟩
  swaps := by
    have := h.swaps
    simp [Arena.next, List.countP_append, Moment.isSwap, wonSwap]
    omega

theorem Undecided.mono (h : Undecided id k w) (hk : k ≤ l) : Undecided id l w :=
  { h with swaps := h.swaps.trans hk }

theorem Decided.mono (h : Decided id k row w) (hk : k ≤ l) : Decided id l row w :=
  { h with swaps := h.swaps.trans hk }

theorem Undecided.decided (h : Undecided id k w) (hread : LastRead id row w) :
    Decided id k row w where
  last := hread.imp fun _ hm => ⟨hm.1, hm.2.2⟩
  spared m hm := .inl (h.idle m hm)
  swaps := h.swaps

/-- What a recording of a transfer returns, publishes and leaves. -/
structure Withstands (p : Payout) (receipt : TransferReceipt) (o : Outcome Bool) (w : Arena)
    (past : List (Exchange interface)) : Prop where
  spared : ∀ m ∈ w.moments, m.Spares p.id
  swaps : w.moments.countP Moment.isSwap ≤ writeAttempts * writeAttempts
  recorded : o = .ok true → ∃ m row, w.moments.getLast? = some m ∧
    m.left.find? p.id = some row ∧ row.status = .completed ∧
      row.transactionRef = some receipt.transactionRef ∧
        events past = [.processed p.id row.recipient row.amount receipt.transactionRef]
  superseded : o = .ok false → ∃ row, LastRead p.id row w ∧ row.status = .completed ∧
    row.transactionRef ≠ some receipt.transactionRef ∧ events past = []
  /-- It never crashes, and returns an error only if it wrote nothing. -/
  failed : ∀ e, o = .error e → (∃ e', e = .error e') ∧ (∀ m ∈ w.moments, m.IsIdle) ∧
    events past = []

namespace Adversary

theorem ends_load (h : Undecided id k w) :
    (load id).Ends adversary.answer (fun o w' past' =>
      events past' = events past ∧ Undecided id k w' ∧
        ((∃ row, o = .ok row ∧ LastRead id row w') ∨ ∃ e, o = .error (.error e))) w past := by
  obtain ⟨row, hrow⟩ := adversary.exists_found h.row
  unfold load
  rw [ends_bind, ends_store]
  cases hfails : adversary.fails w.moments with
  | some e =>
      rw [answer_failed hfails]
      exact ⟨by simp [events], h.next hrow rfl (Nat.le_refl k), .inr ⟨e, rfl⟩⟩
  | none =>
      have hanswer : (adversary.found w).answer (.get id) = (.ok (some row), adversary.found w) :=
        congrArg (fun found => (Except.ok found, adversary.found w)) hrow
      rw [answer_served hfails, hanswer]
      refine ends_pure.mpr ⟨by simp [events], h.next hrow rfl (Nat.le_refl k), .inl ⟨row, rfl, ?_⟩⟩
      exact ⟨_, List.getLast?_concat, rfl, hrow⟩

theorem ends_saveIf {expected : Status} (h : Undecided id k w) (hid : q.id = id)
    (hexpected : expected ≠ .completed) :
    Task.Ends adversary.answer (store (.saveIf q expected)) (fun o w' past' =>
      events past' = events past ∧ ((o = .ok true ∧ Decided id (k + 1) q w') ∨
        ((o = .ok false ∨ ∃ e, o = .error (.error e)) ∧ Undecided id (k + 1) w'))) w past := by
  obtain ⟨row, hrow⟩ := adversary.exists_found h.row
  rw [ends_store]
  refine ⟨by simp [events], ?_⟩
  cases hfails : adversary.fails w.moments with
  | some e =>
      rw [answer_failed hfails]
      exact .inr ⟨.inr ⟨e, rfl⟩, h.next hrow rfl (Nat.le_refl _)⟩
  | none =>
      have hanswer : (adversary.found w).answer (.saveIf q expected) =
          if row.status = expected then (.ok true, (adversary.found w).overwrite q)
          else (.ok false, adversary.found w) := by
        show (adversary.found w).saveIf q expected = _
        simp only [MemoryStore.saveIf, hid, hrow]
      rw [answer_served hfails, hanswer]
      split
      · rename_i hstatus
        subst hstatus
        exact .inl ⟨rfl, h.win hid hrow hexpected⟩
      · exact .inr ⟨.inl rfl, h.next hrow rfl (Nat.le_refl _)⟩

/-- What some tries to record a transfer come to. Nothing was written unless a record is
returned. -/
def Tried (id : PayoutId) (receipt : TransferReceipt) (k : Nat) :
    Outcome (Option Payout) → Arena → Prop
  | .ok (some done), w => Decided id k done w ∧ done.status = .completed ∧
      done.transactionRef = some receipt.transactionRef
  | .ok none, w => Undecided id k w ∧ ∃ row, LastRead id row w ∧ row.status = .completed ∧
      row.transactionRef ≠ some receipt.transactionRef
  | .error (.error _), w => Undecided id k w
  | .error .crash, _ => False

theorem Tried.mono {o : Outcome (Option Payout)} (h : Tried id receipt k o w) (hk : k ≤ l) :
    Tried id receipt l o w := by
  rcases o with (e | _) | _ | done
  · exact Undecided.mono h hk
  · exact h
  · exact h.imp_left fun hw => hw.mono hk
  · exact h.imp_left fun hw => hw.mono hk

theorem ends_writeCompletion (tries : Nat) (h : Undecided id k w) (hid : current.id = id)
    (hread : current.status = .completed → LastRead id current w) :
    (writeCompletion id receipt current tries).Ends adversary.answer (fun o w' past' =>
      events past' = events past ∧ Tried id receipt (k + tries) o w') w past := by
  induction tries generalizing k w current past with
  | zero => exact ends_fail.mpr ⟨rfl, h⟩
  | succ tries ih =>
      unfold Engine.writeCompletion
      split
      · rename_i hcompleted
        rw [ends_pure]
        refine ⟨rfl, ?_⟩
        split
        · rename_i href
          exact ⟨(h.decided (hread hcompleted)).mono (by omega), hcompleted, href⟩
        · rename_i href
          exact ⟨h.mono (by omega), current, hread hcompleted, hcompleted, href⟩
      rename_i hstatus
      rw [ends_bind, ends_now_of_nonneg (adversary.clock w.moments).2]
      generalize (adversary.answer .now w).1 = t
      dsimp only
      rw [ends_bind]
      have hdone : (current.markCompleted receipt.transactionRef receipt.ledgerRef t).id = id := hid
      refine (ends_saveIf h hdone hstatus).imp ?_
      rintro o w₁ past₁ ⟨hevents₁, ⟨rfl, hdecided⟩ | ⟨rfl | ⟨e, rfl⟩, hundecided⟩⟩
      · exact ends_pure.mpr ⟨hevents₁.trans (by simp [events]), hdecided.mono (by omega), rfl, rfl⟩
      · dsimp only
        rw [if_neg (by simp), ends_bind]
        refine (ends_load hundecided).imp ?_
        rintro o w₂ past₂ ⟨hevents₂, hw₂, ⟨row, rfl, hlast⟩ | ⟨e, rfl⟩⟩
        · refine (ih hw₂ hlast.id_eq fun _ => hlast).imp ?_
          rintro o w' past' ⟨hevents', htried⟩
          refine ⟨hevents'.trans (hevents₂.trans (hevents₁.trans (by simp [events]))), ?_⟩
          exact htried.mono (by omega)
        · exact ⟨hevents₂.trans (hevents₁.trans (by simp [events])), hw₂.mono (by omega)⟩
      · exact ⟨hevents₁.trans (by simp [events]), hundecided.mono (by omega)⟩

theorem ends_round {adversary : Adversary p.id} {n : Nat} (h : Undecided p.id k w)
    (hstatus : p.status ≠ .completed) :
    Task.Ends adversary.answer (do
      let current ← if n = 0 then pure p else load p.id
      writeCompletion p.id receipt current writeAttempts) (fun o w' past' =>
        events past' = events past ∧ Tried p.id receipt (k + writeAttempts) o w') w past := by
  split
  · rw [ends_bind, ends_pure]
    exact ends_writeCompletion writeAttempts h rfl fun hp => absurd hp hstatus
  rw [ends_bind]
  refine (ends_load h).imp ?_
  rintro o w₁ past₁ ⟨hevents₁, hw₁, ⟨row, rfl, hlast⟩ | ⟨e, rfl⟩⟩
  · refine (ends_writeCompletion writeAttempts hw₁ hlast.id_eq fun _ => hlast).imp ?_
    exact fun o w' past' h' => h'.imp_left fun hevents' => hevents'.trans hevents₁
  · exact ⟨hevents₁, hw₁.mono (by omega)⟩

/-- Whatever other writers do, a recording of a transfer spares completed records, tells the truth
about the last row, and gives up in the end. -/
theorem ends_complete {adversary : Adversary p.id} (h : Undecided p.id 0 w)
    (hstatus : p.status ≠ .completed) (hevents : events past = []) :
    (complete p receipt).Ends adversary.answer
      (fun o w' past' => Withstands p receipt o w' past') w past := by
  unfold complete
  rw [ends_bind]
  refine (ends_persist (n := 0)
    (P := fun n w' past' => Undecided p.id (n * writeAttempts) w' ∧ events past' = [])
    (R := fun n a w' past' =>
      Tried p.id receipt ((n + 1) * writeAttempts) (.ok a) w' ∧ events past' = [])
    ?_ ?_ (writeAttempts - 1) ⟨h.mono (by omega), hevents⟩).imp ?_
  · rintro n w past ⟨hw, hevents⟩
    refine (ends_round hw hstatus).imp ?_
    rintro ((e | _) | a) w' past' ⟨hevents', htried⟩
    · exact .inr ⟨e, rfl, htried.mono (by rw [Nat.succ_mul]), hevents'.trans hevents⟩
    · exact htried.elim
    · exact .inl ⟨a, rfl, htried.mono (by rw [Nat.succ_mul]), hevents'.trans hevents⟩
  · rintro n k w past ⟨hw, hevents⟩
    exact ⟨hw, by simpa [events] using hevents⟩
  -- A round swaps at most `writeAttempts` times, and there are as many rounds.
  have hbound : ∀ n ≤ 0 + (writeAttempts - 1), (n + 1) * writeAttempts ≤
      writeAttempts * writeAttempts := by
    intro n hn
    exact Nat.mul_le_mul_right writeAttempts (by unfold writeAttempts at hn ⊢; omega)
  rintro o w' past' (⟨_ | done, n, rfl, hn, htried, hevents'⟩ | ⟨e, rfl, hw', hevents'⟩)
  · obtain ⟨hw', row, hlast, hcompleted, href⟩ := htried.mono (hbound n hn)
    dsimp only
    rw [ends_pure]
    refine ⟨fun m hm => .inl (hw'.idle m hm), hw'.swaps, nofun, fun _ => ?_, nofun⟩
    exact ⟨row, hlast, hcompleted, href, hevents'⟩
  · obtain ⟨⟨⟨m, hlast, hfind⟩, hspared, hswaps⟩, hcompleted, href⟩ := htried.mono (hbound n hn)
    dsimp only
    rw [ends_bind, ends_publish, ends_pure]
    refine ⟨hspared, hswaps, fun _ => ?_, nofun, nofun⟩
    refine ⟨m, done, hlast, hfind, hcompleted, href, ?_⟩
    rw [events_append, hevents']
    rfl
  · refine ⟨fun m hm => .inl (hw'.idle m hm), hw'.swaps, nofun, nofun, fun e' he => ?_⟩
    cases he
    exact ⟨⟨e, rfl⟩, hw'.idle, hevents'⟩

end Adversary

/-- The recording of a confirmed transfer for a payout that was read as processing, against any
other writers of its row. -/
theorem withstands_contention (adversary : Adversary p.id) {s : MemoryStore}
    (hrow : ∃ row, s.find? p.id = some row) (hstatus : p.status = .processing)
    (receipt : TransferReceipt) :
    (complete p receipt).Ends adversary.answer
      (fun o w past => Withstands p receipt o w past) ⟨s, []⟩ [] :=
  Adversary.ends_complete ⟨hrow, List.forall_mem_nil _, Nat.le_refl 0⟩ (by rw [hstatus]; decide) rfl

/-- The row is scheduled for a retry in front of the first swap, and the reload behind it fails. -/
def sampleAdversary : Adversary sampleId where
  writes
    | [] => some ⟨{ sampleClaimed none with status := .retryScheduled }, rfl⟩
    | _ => none
  fails log := if log.length = 1 then some (.database .poolTimedOut) else none
  clock _ := ⟨.epoch, by decide⟩

theorem withstands_sampleAdversary :
    (complete (sampleClaimed none) ⟨"hash", 7⟩).Ends sampleAdversary.answer
      (fun o w past => o = .ok true ∧ w.moments.countP Moment.isSwap = 2 ∧
        Withstands (sampleClaimed none) ⟨"hash", 7⟩ o w past)
      ⟨MemoryStore.empty.insert (sampleClaimed none), []⟩ [] := by
  refine ⟨by decide +kernel, by decide +kernel, ?_⟩
  exact withstands_contention (p := sampleClaimed none) sampleAdversary
    ⟨_, MemoryStore.find?_insert_self⟩ rfl ⟨"hash", 7⟩

end Disburse.Engine
