import Disburse.Proofs.Engine.Dispatch

namespace Disburse.Engine

open Disburse.Machine Disburse.Task

variable {σ τ α : Type} {answer : Surroundings interface σ} {view : σ → MemoryStore} {u : σ}
  {policy : RetryPolicy} {p current row : Payout} {id : PayoutId} {s s' : MemoryStore}
  {past past' past'' : List (Exchange interface)} {hash : String} {receipt : TransferReceipt}
  {t : Instant} {m n : Nat}

/-- Any call of the store may fail, with or without doing what it was asked. Nothing else touches
the store. -/
structure Flaky (answer : Surroundings interface σ) (view : σ → MemoryStore) : Prop where
  served : ∀ c u, ∃ b : Behaviour, b.answer (.store c) (view u) =
    some ((answer (.store c) u).1, view (answer (.store c) u).2)
  kept : ∀ r u, (∀ c, r ≠ .store c) → view (answer r u).2 = view u

/-- Time stands still, and the transfer of a payout is accepted and confirmed. -/
structure Confirming (answer : Surroundings interface σ) (p : Payout) (hash : String)
    (receipt : TransferReceipt) (t : Instant) : Prop where
  clock : ∀ u, (answer .now u).1 = t
  readable : 0 ≤ t.seconds
  accepted : ∀ u, (answer (.transfer (.submit (requestOf p))) u).1 = .ok hash
  confirmed : ∀ u, (answer (.transfer (.awaitConfirmation hash)) u).1 = .ok receipt

/-- A call of the store that reports an error. -/
def isFault : Exchange interface → Bool
  | ⟨.store _, .error _⟩ => true
  | _ => false

/-- The number of store calls that reported an error. -/
def faults (past : List (Exchange interface)) : Nat :=
  past.countP isFault

def isConfirmation : Exchange interface → Bool
  | ⟨.transfer (.awaitConfirmation _), _⟩ => true
  | _ => false

/-- What was asked since the answer to the first wait for a confirmation. -/
def behindConfirmation (past : List (Exchange interface)) : List (Exchange interface) :=
  (past.dropWhile fun x => !isConfirmation x).tail

theorem isConfirmation_of_calls (h : calls past = []) : ∀ x ∈ past, isConfirmation x = false := by
  rintro ⟨r, a⟩ hx
  have hcall : ¬ isTransfer ⟨r, a⟩ = true := List.filter_eq_nil_iff.mp h _ hx
  cases r with
  | transfer c => exact absurd rfl hcall
  | store _ | now | freshId | publish _ | dispatch _ | pause _ => rfl

theorem behindConfirmation_append {xs : List (Exchange interface)}
    (h : ∀ x ∈ past, isConfirmation x = false) :
    behindConfirmation (past ++ confirmation hash receipt :: xs) = xs := by
  have hpast : ∀ x ∈ past, (!isConfirmation x) = true := fun x hx => by simp [h x hx]
  rw [behindConfirmation, List.dropWhile_append_of_pos hpast]
  rfl

/-- Some requests later, with a number of faults among them, but no executor call and no event. -/
def Quietly (n : Nat) (past past' : List (Exchange interface)) : Prop :=
  ∃ xs, past' = past ++ xs ∧ calls xs = [] ∧ events xs = [] ∧ faults xs = n

namespace Quietly

theorem refl (past : List (Exchange interface)) : Quietly 0 past past :=
  ⟨[], by simp [calls, events, faults]⟩

theorem trans (h : Quietly m past past') (h' : Quietly n past' past'') :
    Quietly (m + n) past past'' := by
  obtain ⟨xs, rfl, hcalls, hevents, rfl⟩ := h
  obtain ⟨ys, rfl, hcalls', hevents', rfl⟩ := h'
  refine ⟨xs ++ ys, List.append_assoc .., ?_, ?_, List.countP_append⟩
  · rw [calls, List.filter_append, ← calls, ← calls, hcalls, hcalls', List.append_nil]
  · rw [events_append, hevents, hevents', List.append_nil]

theorem zero_trans (h : Quietly 0 past past') (h' : Quietly n past' past'') :
    Quietly n past past'' := by
  rw [← Nat.zero_add n]
  exact h.trans h'

theorem now : Quietly 0 past (past ++ [⟨.now, t⟩]) :=
  ⟨_, rfl, rfl, rfl, rfl⟩

theorem pause {k : Nat} : Quietly 0 past (past ++ [⟨.pause k, ()⟩]) :=
  ⟨_, rfl, rfl, rfl, rfl⟩

theorem answered {c : StoreCall} {value : c.Value} :
    Quietly 0 past (past ++ [⟨.store c, .ok value⟩]) :=
  ⟨_, rfl, rfl, rfl, rfl⟩

theorem failed {c : StoreCall} {e : Error} : Quietly 1 past (past ++ [⟨.store c, .error e⟩]) :=
  ⟨_, rfl, rfl, rfl, rfl⟩

end Quietly

/-- A record is under way while its checkpoint is tried. -/
def Checkpointing (p : Payout) (s : MemoryStore) (past : List (Exchange interface))
    (s' : MemoryStore) (past' : List (Exchange interface)) : Prop :=
  (∃ row, Underway p s row s') ∧ ∃ k, Quietly k past past'

/-- What a record under way becomes when its transfer is recorded at a time. -/
structure Completed (receipt : TransferReceipt) (t : Instant) (p : Payout) (s : MemoryStore)
    (done : Payout) (s' : MemoryStore) : Prop where
  written : done = p.markCompleted receipt.transactionRef receipt.ledgerRef t
  stored : s' = s.overwrite done
  found : s'.find? done.id = some done

/-- The store while the transfer of a record is being recorded. -/
inductive Recording (receipt : TransferReceipt) (t : Instant) (p : Payout) (s : MemoryStore) :
    MemoryStore → Prop where
  | underway {row : Payout} {s' : MemoryStore} (h : Underway p s row s') :
      Recording receipt t p s s'
  | completed {done : Payout} {s' : MemoryStore} (h : Completed receipt t p s done s') :
      Recording receipt t p s s'

/-- One try to record a transfer: it succeeds, or a single call of the store fails. -/
def Records (receipt : TransferReceipt) (t : Instant) (p : Payout) (s : MemoryStore)
    (past : List (Exchange interface)) (o : Outcome (Option Payout)) (s' : MemoryStore)
    (past' : List (Exchange interface)) : Prop :=
  (∃ done, o = .ok (some done) ∧ Completed receipt t p s done s' ∧ Quietly 0 past past') ∨
    ∃ e, o = .error (.error e) ∧ Recording receipt t p s s' ∧ Quietly 1 past past'

/-- Behind a number of tries to record a transfer, each of which has failed once. A first try goes
on from the record as it was known, a later one from what the store holds. -/
structure Retrying (receipt : TransferReceipt) (t : Instant) (p : Payout) (s : MemoryStore)
    (past : List (Exchange interface)) (n : Nat) (s' : MemoryStore)
    (past' : List (Exchange interface)) : Prop where
  recording : Recording receipt t p s s'
  first : n = 0 → ∃ row, Underway p s row s'
  quiet : Quietly n past past'

/-- Behind a number of failed tries to record a transfer, and one that has succeeded. -/
def Retried (receipt : TransferReceipt) (t : Instant) (p : Payout) (s : MemoryStore)
    (past : List (Exchange interface)) (n : Nat) (a : Option Payout) (s' : MemoryStore)
    (past' : List (Exchange interface)) : Prop :=
  (∃ done, a = some done ∧ Completed receipt t p s done s') ∧ Quietly n past past'

theorem Records.of_quietly {o : Outcome (Option Payout)}
    (h : Records receipt t p s past' o s' past'') (hquiet : Quietly 0 past past') :
    Records receipt t p s past o s' past'' := by
  rcases h with ⟨done, rfl, hdone, hquiet'⟩ | ⟨e, rfl, hrecording, hquiet'⟩
  · exact .inl ⟨done, rfl, hdone, hquiet.zero_trans hquiet'⟩
  · exact .inr ⟨e, rfl, hrecording, hquiet.zero_trans hquiet'⟩

/-- What an execution leaves whose transfer is confirmed. -/
structure Succeeds (receipt : TransferReceipt) (p : Payout) (s : MemoryStore) (done : Payout)
    (o : Outcome Unit) (s' : MemoryStore) (past : List (Exchange interface)) : Prop where
  outcome : o = .ok ()
  stored : s' = s.overwrite done
  told : events past = [.processed p.id p.recipient p.amount receipt.transactionRef]

namespace Flaky

variable (flaky : Flaky answer view)

include flaky

theorem now_bind {f : Instant → Work α} {Q : Outcome α → σ → List (Exchange interface) → Prop}
    (confirming : Confirming answer p hash receipt t)
    (h : ∀ u', view u' = view u → Task.Ends answer (f t) Q u' (past ++ [⟨.now, t⟩])) :
    Task.Ends answer (now >>= f) Q u past := by
  have hnow : 0 ≤ (answer .now u).1.seconds := by
    rw [confirming.clock]
    exact confirming.readable
  rw [ends_bind, ends_now_of_nonneg hnow, confirming.clock]
  exact h _ (flaky.kept _ _ (by simp))

theorem ends_load {Q : Outcome Payout → σ → List (Exchange interface) → Prop}
    (hfound : (view u).find? id = some p)
    (hok : ∀ u', view u' = view u → Q (.ok p) u' (past ++ [⟨.store (.get id), .ok (some p)⟩]))
    (hfault : ∀ e u', (answer (.store (.get id)) u).1 = .error e → view u' = view u →
      Q (.error (.error e)) u' (past ++ [⟨.store (.get id), .error e⟩])) :
    Task.Ends answer (load id) Q u past := by
  unfold load
  rw [ends_bind, ends_store]
  obtain ⟨b, hb⟩ := flaky.served (.get id) u
  obtain ⟨hstore, hanswer | ⟨e, hanswer⟩⟩ := Behaviour.answer_lookup rfl rfl hb
  · have hsome : ((view u).answer (.get id)).1 = .ok (some p) := congrArg Except.ok hfound
    rw [hanswer, hsome]
    exact ends_pure.mpr (hok _ hstore)
  · rw [hanswer]
    exact hfault e _ hanswer hstore

/-- A swap of a record that is in the expected state wins, or it fails, perhaps after all. -/
theorem ends_saveIf {expected : Status} {Q : Outcome Bool → σ → List (Exchange interface) → Prop}
    (hfound : (view u).find? p.id = some row) (hstatus : row.status = expected)
    (hwon : ∀ u', view u' = (view u).overwrite p →
      Q (.ok true) u' (past ++ [wonSwap p expected]))
    (hfault : ∀ e u', view u' = view u ∨ view u' = (view u).overwrite p →
      Q (.error (.error e)) u' (past ++ [⟨.store (.saveIf p expected), .error e⟩])) :
    Task.Ends answer (store (.saveIf p expected)) Q u past := by
  have hswap : (view u).answer (.saveIf p expected) = (.ok true, (view u).overwrite p) := by
    show (view u).saveIf p expected = _
    simp [MemoryStore.saveIf, hfound, hstatus]
  rw [ends_store]
  obtain ⟨b, hb⟩ := flaky.served (.saveIf p expected) u
  rcases Behaviour.answer_store rfl hb with hanswer | ⟨⟨e, hanswer⟩, hstore⟩
  · obtain ⟨hanswer, hstore⟩ := Prod.mk.inj (hanswer.symm.trans hswap)
    rw [hanswer]
    exact hwon _ hstore
  · rw [hswap] at hstore
    rw [hanswer]
    exact hfault e _ hstore

theorem checkpointing_pause {k : Nat} (h : Checkpointing p s past (view u) past') :
    Checkpointing p s past (view (answer (.pause k) u).2) (past' ++ [⟨.pause k, ()⟩]) := by
  obtain ⟨hrow, j, hquiet⟩ := h
  rw [flaky.kept _ _ (by simp)]
  exact ⟨hrow, j + 0, hquiet.trans .pause⟩

theorem ends_checkpoint {submitted : Payout} (hversion : Version p submitted)
    (hstatus : p.status = .processing) (h : Checkpointing p s past (view u) past') :
    Task.Ends answer (store (.saveIf submitted .processing)) (fun o u' past'' =>
      (∃ won, o = .ok won ∧ Checkpointing p s past (view u') past'') ∨
        ∃ e, o = .error (.error e) ∧ Checkpointing p s past (view u') past'') u past' := by
  obtain ⟨⟨row, hrow⟩, k, hquiet⟩ := h
  have hid : submitted.id = row.id :=
    hversion.sameOrigin.id.trans hrow.version.sameOrigin.id.symm
  have hnext : Underway p s submitted ((view u).overwrite submitted) := hrow.next hversion
  have hprocessing : row.status = .processing := hrow.version.status.trans hstatus
  refine flaky.ends_saveIf (hid ▸ hrow.found) hprocessing (fun u' hu' => ?_) ?_
  · rw [← hu'] at hnext
    exact .inl ⟨true, rfl, ⟨submitted, hnext⟩, k + 0, hquiet.trans .answered⟩
  · rintro e u' (hu' | hu')
    · rw [← hu'] at hrow
      exact .inr ⟨e, rfl, ⟨row, hrow⟩, k + 1, hquiet.trans .failed⟩
    · rw [← hu'] at hnext
      exact .inr ⟨e, rfl, ⟨submitted, hnext⟩, k + 1, hquiet.trans .failed⟩

theorem ends_recordSubmission (confirming : Confirming answer p hash receipt t)
    (hrow : Underway p s row (view u)) (hstatus : p.status = .processing) :
    (recordSubmission p hash).Ends answer (fun o u' past' =>
      o = .ok (p.markSubmitted hash t) ∧ Checkpointing p s past (view u') past') u past := by
  have hversion : Version p (p.markSubmitted hash t) := .checkpoint hash t
  unfold recordSubmission
  refine flaky.now_bind confirming fun u₁ hu₁ => ?_
  rw [← hu₁] at hrow
  have hbefore : Checkpointing p s past (view u₁) (past ++ [⟨.now, t⟩]) := ⟨⟨row, hrow⟩, 0, .now⟩
  dsimp only
  rw [ends_bind, ends_attempt]
  refine (ends_persist (P := fun _ u' past' => Checkpointing p s past (view u') past')
    (fun _ _ _ h => flaky.ends_checkpoint hversion hstatus h)
    (fun _ _ _ _ h => flaky.checkpointing_pause h) (writeAttempts - 1) hbefore).imp ?_
  rintro o u' past' (⟨won, m, rfl, hm, hbehind⟩ | ⟨e, rfl, hbehind⟩)
  · exact ends_pure.mpr ⟨rfl, hbehind⟩
  · exact ends_pure.mpr ⟨rfl, hbehind⟩

theorem ends_writeCompletion {tries : Nat} (confirming : Confirming answer p hash receipt t)
    (hcurrent : Version p current) (hrow : Underway p s row (view u))
    (hstatus : p.status = .processing) :
    (writeCompletion id receipt current (tries + 1)).Ends answer
      (fun o u' past' => Records receipt t p s past o (view u') past') u past := by
  let done := p.markCompleted receipt.transactionRef receipt.ledgerRef t
  have hid : done.id = row.id := hrow.version.sameOrigin.id.symm
  unfold Engine.writeCompletion
  rw [hcurrent.status, hstatus, if_neg (by decide)]
  refine flaky.now_bind confirming fun u₁ hu₁ => ?_
  rw [← hu₁] at hrow
  rw [hcurrent.markCompleted]
  have hcompleted : Completed receipt t p s done ((view u₁).overwrite done) :=
    ⟨rfl, hrow.overwrite hid, MemoryStore.find?_overwrite_self (hid ▸ hrow.found)⟩
  dsimp only
  rw [ends_bind]
  refine flaky.ends_saveIf (hid ▸ hrow.found) (hrow.version.status.trans hstatus)
    (fun u' hu' => ?_) ?_
  · rw [← hu'] at hcompleted
    exact ends_pure.mpr (.inl ⟨done, rfl, hcompleted, Quietly.now.zero_trans .answered⟩)
  · rintro e u' (hu' | hu')
    · rw [← hu'] at hrow
      exact .inr ⟨e, rfl, .underway hrow, Quietly.now.zero_trans .failed⟩
    · rw [← hu'] at hcompleted
      exact .inr ⟨e, rfl, .completed hcompleted, Quietly.now.zero_trans .failed⟩

theorem ends_reload {tries : Nat} (confirming : Confirming answer p hash receipt t)
    (hrecording : Recording receipt t p s (view u)) (hstatus : p.status = .processing) :
    Task.Ends answer (load p.id >>= fun next => writeCompletion id receipt next (tries + 1))
      (fun o u' past' => Records receipt t p s past o (view u') past') u past := by
  have hfault : ∀ e u', (answer (.store (.get p.id)) u).1 = .error e → view u' = view u →
      Records receipt t p s past (.error (.error e)) (view u')
        (past ++ [⟨.store (.get p.id), .error e⟩]) := by
    intro e u' _ hu'
    rw [← hu'] at hrecording
    exact .inr ⟨e, rfl, hrecording, .failed⟩
  rw [ends_bind]
  cases hrecording with
  | underway hrow =>
      have hfound := hrow.found
      rw [hrow.version.sameOrigin.id] at hfound
      refine flaky.ends_load hfound (fun u₁ hu₁ => ?_) hfault
      rw [← hu₁] at hrow
      refine (flaky.ends_writeCompletion confirming hrow.version hrow hstatus).imp ?_
      exact fun o u' past' h => h.of_quietly .answered
  | completed hdone =>
      rename_i done
      have hid : done.id = p.id := by
        rw [hdone.written]
        rfl
      have hlands : Lands receipt p done := by
        rw [hdone.written]
        exact lands_markCompleted receipt p t
      refine flaky.ends_load (hid ▸ hdone.found) (fun u₁ hu₁ => ?_) hfault
      rw [← hu₁] at hdone
      dsimp only
      unfold Engine.writeCompletion
      rw [if_pos hlands.status, if_pos hlands.transactionRef]
      exact ends_pure.mpr (.inl ⟨done, rfl, hdone, .answered⟩)

theorem ends_completion (confirming : Confirming answer p hash receipt t)
    (hcurrent : Version p current) (hstatus : p.status = .processing)
    (h : Retrying receipt t p s past n (view u) past') :
    Task.Ends answer (do
      let next ← if n = 0 then pure current else load current.id
      writeCompletion current.id receipt next writeAttempts)
      (fun o u' past'' => (∃ a, o = .ok a ∧ Retried receipt t p s past n a (view u') past'') ∨
        ∃ e, o = .error (.error e) ∧ Retrying receipt t p s past (n + 1) (view u') past'')
      u past' := by
  have hrecords : Task.Ends answer (do
      let next ← if n = 0 then pure current else load current.id
      writeCompletion current.id receipt next writeAttempts)
      (fun o u' past'' => Records receipt t p s past' o (view u') past'') u past' := by
    by_cases hn : n = 0
    · obtain ⟨row, hrow⟩ := h.first hn
      rw [if_pos hn, ends_bind, ends_pure]
      exact flaky.ends_writeCompletion confirming hcurrent hrow hstatus
    · rw [if_neg hn, hcurrent.sameOrigin.id]
      exact flaky.ends_reload confirming h.recording hstatus
  refine hrecords.imp ?_
  rintro o u' past'' (⟨done, rfl, hdone, hquiet⟩ | ⟨e, rfl, hrecording, hquiet⟩)
  · exact .inl ⟨some done, rfl, ⟨done, rfl, hdone⟩, h.quiet.trans hquiet⟩
  · exact .inr ⟨e, rfl, hrecording, by simp, h.quiet.trans hquiet⟩

theorem retrying_pause {k : Nat} (h : Retrying receipt t p s past n (view u) past') :
    Retrying receipt t p s past n (view (answer (.pause k) u).2) (past' ++ [⟨.pause k, ()⟩]) := by
  rw [flaky.kept _ _ (by simp)]
  exact ⟨h.recording, h.first, h.quiet.trans .pause⟩

theorem ends_complete (confirming : Confirming answer p hash receipt t)
    (hcurrent : Version p current) (hrow : Underway p s row (view u))
    (hstatus : p.status = .processing) :
    (complete current receipt).Ends answer (fun o u' past' =>
      ∃ xs, past' = past ++ xs ∧ (faults xs < writeAttempts →
        o = .ok true ∧ (∃ done, Completed receipt t p s done (view u')) ∧
          events xs = [.processed p.id p.recipient p.amount receipt.transactionRef])) u past := by
  have hbefore : Retrying receipt t p s past 0 (view u) past :=
    ⟨.underway hrow, fun _ => ⟨row, hrow⟩, .refl past⟩
  unfold complete
  rw [ends_bind]
  refine (ends_persist (P := fun n u' past' => Retrying receipt t p s past n (view u') past')
    (R := fun n a u' past' => Retried receipt t p s past n a (view u') past')
    (fun _ _ _ h => flaky.ends_completion confirming hcurrent hstatus h)
    (fun _ _ _ _ h => flaky.retrying_pause h) (writeAttempts - 1) hbefore).imp ?_
  rintro o u' past' (⟨_, n, rfl, -, ⟨done, rfl, hdone⟩, xs, rfl, -, hevents, -⟩ | ⟨e, rfl, h⟩)
  · dsimp only
    rw [ends_bind, ends_publish]
    rw [ends_pure]
    refine ⟨_, List.append_assoc .., fun _ => ⟨rfl, ⟨done, ?_⟩, ?_⟩⟩
    · rwa [flaky.kept _ _ (by simp)]
    · rw [events_append, hevents, hdone.written, hcurrent.sameOrigin.id]
      rfl
  · -- Every try has failed once, which is as often as it takes.
    obtain ⟨xs, rfl, -, -, hfaults⟩ := h.quiet
    refine ⟨xs, rfl, fun hfew => ?_⟩
    rw [hfaults] at hfew
    exact absurd hfew (by decide)

theorem ends_confirmed (confirming : Confirming answer p hash receipt t)
    (hrow : Underway p s row (view u)) (hstatus : p.status = .processing)
    (hunconfirmed : ∀ x ∈ past, isConfirmation x = false) (huntold : events past = []) :
    Task.Ends answer (do let _ ← complete (p.markSubmitted hash t) receipt) (fun o u' past' =>
      faults (behindConfirmation past') < writeAttempts →
        Succeeds receipt p s (p.markCompleted receipt.transactionRef receipt.ledgerRef t)
          o (view u') past') u (past ++ [confirmation hash receipt]) := by
  rw [ends_bind]
  refine (flaky.ends_complete confirming (.checkpoint hash t) hrow hstatus).imp ?_
  rintro o u' past' ⟨xs, rfl, hrecorded⟩
  have hbehind : behindConfirmation (past ++ [confirmation hash receipt] ++ xs) = xs := by
    rw [List.append_assoc]
    exact behindConfirmation_append hunconfirmed
  rcases o with e | won
  · intro hfew
    rw [hbehind] at hfew
    cases (hrecorded hfew).1
  · refine ends_pure.mpr fun hfew => ?_
    rw [hbehind] at hfew
    obtain ⟨-, ⟨done, hdone⟩, htold⟩ := hrecorded hfew
    refine ⟨rfl, ?_, ?_⟩
    · rw [hdone.stored, hdone.written]
    · rw [events_append, events_append, huntold, htold]
      rfl

/-- An execution reaches its confirmation whatever becomes of the checkpoints, and behind that it
records the transfer. -/
theorem ends_execute (confirming : Confirming answer p hash receipt t)
    (hfound : (view u).find? p.id = some p) (hstatus : p.status = .processing)
    (hcounts : p.attempt?.isSome) (hread : ∀ e, (answer (.store (.get p.id)) u).1 ≠ .error e) :
    (execute policy p.id).Ends answer (fun o u' past =>
      faults (behindConfirmation past) < writeAttempts →
        Succeeds receipt p (view u) (p.markCompleted receipt.transactionRef receipt.ledgerRef t)
          o (view u') past) u [] := by
  obtain ⟨attempt, hattempt⟩ := Option.isSome_iff_exists.mp hcounts
  unfold execute
  rw [ends_bind]
  refine flaky.ends_load hfound (fun u₁ hu₁ => ?_) (fun e _ herror => absurd herror (hread e))
  dsimp only
  rw [if_neg (by simp [hstatus]), hattempt, ends_bind, ends_ofOutcome]
  refine ends_transfer_ok (confirming.accepted u₁) ?_
  have hrow : Underway p (view u) p (view (answer (.transfer (.submit (requestOf p))) u₁).2) := by
    rw [flaky.kept _ _ (by simp), hu₁]
    exact .refl hfound
  dsimp only
  rw [ends_bind]
  refine (flaky.ends_recordSubmission confirming hrow hstatus).imp ?_
  rintro o u₂ past₂ ⟨rfl, ⟨row₂, hrow₂⟩, k, xs, rfl, hcalls, hevents, -⟩
  dsimp only
  refine ends_transfer_ok (confirming.confirmed u₂) ?_
  rw [← flaky.kept (.transfer (.awaitConfirmation hash)) u₂ (by simp)] at hrow₂
  refine flaky.ends_confirmed confirming hrow₂ hstatus (fun x hx => ?_) ?_
  · rw [List.mem_append] at hx
    rcases hx with hx | hx
    · simp only [List.nil_append, List.cons_append, List.mem_cons, List.not_mem_nil,
        or_false] at hx
      rcases hx with rfl | rfl <;> rfl
    · exact isConfirmation_of_calls hcalls x hx
  · rw [events_append, hevents]
    rfl

end Flaky

theorem Calm.ends_confirmed_execution (calm : Calm answer view)
    (confirming : Confirming answer p hash receipt t)
    (hfound : (view u).find? p.id = some p) (hstatus : p.status = .processing)
    (hcounts : p.attempt?.isSome) :
    (execute policy p.id).Ends answer (fun o u' past =>
      Succeeds receipt p (view u) (p.markCompleted receipt.transactionRef receipt.ledgerRef t)
        o (view u') past) u [] := by
  obtain ⟨attempt, hattempt⟩ := Option.isSome_iff_exists.mp hcounts
  unfold execute
  rw [ends_bind]
  refine calm.ends_load hfound fun u₁ _ hu₁ => ?_
  dsimp only
  rw [if_neg (by simp [hstatus]), hattempt, ends_bind, ends_ofOutcome]
  refine ends_transfer_ok (confirming.accepted u₁) ?_
  have hfound₂ : (view (answer (.transfer (.submit (requestOf p))) u₁).2).find? p.id = some p := by
    rwa [calm.kept_transfer, hu₁]
  dsimp only
  rw [ends_bind]
  refine (calm.ends_recordSubmission hfound₂ hstatus).imp ?_
  rintro o u₂ past₂ ⟨now, rfl, hu₂, rfl⟩
  dsimp only
  refine ends_transfer_ok (confirming.confirmed u₂) ?_
  have hu₃ : view (answer (.transfer (.awaitConfirmation hash)) u₂).2 =
      (view u).overwrite (p.markSubmitted hash now) := by
    rw [calm.kept_transfer, hu₂, calm.kept_transfer, hu₁]
  have hfound₃ : (view (answer (.transfer (.awaitConfirmation hash)) u₂).2).find? p.id =
      some (p.markSubmitted hash now) := by
    rw [hu₃]
    exact MemoryStore.find?_overwrite_self hfound
  dsimp only
  rw [ends_bind]
  refine (calm.ends_complete (p := p.markSubmitted hash now) hfound₃ hstatus).imp ?_
  rintro o u₄ past₄ ⟨done, hdone, rfl, hu₄, rfl⟩
  have hversion : Version p (p.markSubmitted hash now) := .checkpoint hash now
  rw [confirming.clock, hversion.markCompleted] at hdone
  rw [ends_pure]
  refine ⟨rfl, ?_, rfl⟩
  rw [hu₄, hu₃, hdone]
  exact MemoryStore.overwrite_overwrite rfl

/-- However often the store fails behind a submission, and whether or not the calls that it fails
have acted: unless it fails as often behind the confirmation as a completion is tried, the record
and the events are those of a run in which it does not fail. -/
theorem faults_invisible {answer' : Surroundings interface τ} {view' : τ → MemoryStore} {v : τ}
    (flaky : Flaky answer view) (confirming : Confirming answer p hash receipt t)
    (calm : Calm answer' view') (confirming' : Confirming answer' p hash receipt t)
    (hstore : view' v = view u) (hfound : (view u).find? p.id = some p)
    (hstatus : p.status = .processing) (hcounts : p.attempt?.isSome)
    (hread : ∀ e, (answer (.store (.get p.id)) u).1 ≠ .error e)
    (hfaults : (execute policy p.id).Ends answer
      (fun _ _ past => faults (behindConfirmation past) < writeAttempts) u []) :
    ∃ done, Lands receipt p done ∧ done.submittedHash = none ∧
      (execute policy p.id).Ends answer
        (fun o u' past => Succeeds receipt p (view u) done o (view u') past) u [] ∧
      (execute policy p.id).Ends answer'
        (fun o v' past => Succeeds receipt p (view u) done o (view' v') past) v [] := by
  refine ⟨p.markCompleted receipt.transactionRef receipt.ledgerRef t,
    lands_markCompleted receipt p t, rfl, ?_, ?_⟩
  · exact flaky.ends_execute confirming hfound hstatus hcounts hread hfaults
  · rw [← hstore] at hfound ⊢
    exact calm.ends_confirmed_execution confirming' hfound hstatus hcounts

/-- Time stands still, and every transfer is confirmed under one hash. -/
def sampleConfirmations : Surroundings interface Unit
  | .store _, _ => (.error (.notFound ""), ())
  | .transfer (.submit _), _ => (.ok "hash", ())
  | .transfer (.awaitConfirmation hash), _ => (.ok ⟨hash, 7⟩, ())
  | .transfer (.lookup _), _ => (.error .crash, ())
  | .now, _ => (.epoch, ())
  | .freshId, _ => (sampleId, ())
  | .publish _, _ => ((), ())
  | .dispatch _, _ => ((), ())
  | .pause _, _ => ((), ())

/-- A store whose calls fail as a script says, one behaviour for each call. -/
def respondBy : MemoryStore × List Behaviour → (c : StoreCall) →
    c.Answer × MemoryStore × List Behaviour
  | (s, .fail e :: script), _ => (.error e, s, script)
  | (s, .failAfter e :: script), c => (.error e, (s.answer c).2, script)
  | (s, script), c => ((s.answer c).1, (s.answer c).2, script.tail)

theorem confirming_sampleConfirmations {S : Type} (respond : S → (c : StoreCall) → c.Answer × S) :
    Confirming (beside respond sampleConfirmations) p "hash" ⟨"hash", 7⟩ .epoch where
  clock _ := rfl
  readable := Int.le_refl 0
  accepted _ := rfl
  confirmed _ := rfl

theorem calm_beside : Calm (beside MemoryStore.answer sampleConfirmations) Prod.fst where
  answered _ _ := rfl
  stored _ _ := rfl
  kept r u hr := by
    cases r with
    | store c => exact absurd rfl (hr c)
    | transfer _ | now | freshId | publish _ | dispatch _ | pause _ => rfl
  clock _ := Int.le_refl 0

theorem flaky_beside_respondBy : Flaky (beside respondBy sampleConfirmations) fun u => u.1.1 where
  served c u := by
    rcases u with ⟨⟨s, _ | ⟨b, script⟩⟩, w⟩
    · exact ⟨.plain, rfl⟩
    cases b with
    | fail e => exact ⟨.fail e, rfl⟩
    | failAfter e => exact ⟨.failAfter e, rfl⟩
    | plain | shuffled _ | submitted _ | confirmed _ | found _ | clock _ | draw _ =>
        exact ⟨.plain, rfl⟩
  kept r u hr := by
    cases r with
    | store c => exact absurd rfl (hr c)
    | transfer _ | now | freshId | publish _ | dispatch _ | pause _ => rfl

/-- All checkpoints fail, the first completion is written although it fails, and so does the
reload behind it. -/
def sampleScript : List Behaviour :=
  let down : Error := .database .poolTimedOut
  [.plain, .fail down, .fail down, .fail down, .failAfter down, .fail down]

/-- A store with one record, in processing. -/
def sampleProcessing : MemoryStore :=
  MemoryStore.empty.insert (sampleClaimed none)

theorem faults_invisible_sampleScript :
    ∃ done, Lands ⟨"hash", 7⟩ (sampleClaimed none) done ∧
      (execute samplePolicy sampleId).Ends (beside respondBy sampleConfirmations) (fun o u' past =>
        faults past = 5 ∧
          Succeeds ⟨"hash", 7⟩ (sampleClaimed none) sampleProcessing done o u'.1.1 past)
        ((sampleProcessing, sampleScript), ()) [] ∧
      (execute samplePolicy sampleId).Ends (beside MemoryStore.answer sampleConfirmations)
        (fun o v' past =>
          Succeeds ⟨"hash", 7⟩ (sampleClaimed none) sampleProcessing done o v'.1 past)
        (sampleProcessing, ()) [] := by
  have hfaults : (execute samplePolicy sampleId).Ends (beside respondBy sampleConfirmations)
      (fun _ _ past => faults past = 5 ∧ faults (behindConfirmation past) < writeAttempts)
      ((sampleProcessing, sampleScript), ()) [] := by
    unfold Task.Ends Program.Ends
    decide +kernel
  obtain ⟨done, hlands, -, hflaky, hcalm⟩ := faults_invisible (p := sampleClaimed none)
    (u := ((sampleProcessing, sampleScript), ())) (v := (sampleProcessing, ()))
    flaky_beside_respondBy (confirming_sampleConfirmations _) calm_beside
    (confirming_sampleConfirmations _) rfl (by decide +kernel) rfl rfl (fun _ => nofun) hfaults.2
  exact ⟨done, hlands, ⟨hfaults.1, hflaky⟩, hcalm⟩

end Disburse.Engine
