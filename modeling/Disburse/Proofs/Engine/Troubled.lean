import Disburse.Engine.Sweep
import Disburse.Proofs.Concurrency.Alike
import Disburse.Proofs.Engine.Scope

/-!
Recoveries in trouble. Look-ups of a record may fail; a swap may fail, before or after it has
acted, or be lost to another writer of the record; the ledger may say anything. A recovery gets
over all of this: it comes to an end without a crash, what it reports is in the store, and it is
about one record only.
-/

namespace Disburse.Engine

open Disburse.Task

variable {σ α β : Type} {answer : Surroundings interface σ} {view : σ → MemoryStore} {u : σ}
  {policy : RetryPolicy} {p current : Payout} {id : PayoutId} {past : List (Exchange interface)}
  {expected : Status} {receipt : TransferReceipt} {n : Nat}

/-- How a swap may end, and the store that it leaves. -/
inductive SwapEnds (s : MemoryStore) (p : Payout) (expected : Status) :
    Except Error Bool → MemoryStore → Prop where
  | served (b : Behaviour) (a : Except Error Bool) (s' : MemoryStore)
      (h : b.answer (.store (.saveIf p expected)) s = some (a, s')) :
    SwapEnds s p expected a s'
  /-- Another writer of the record came first. -/
  | lost (row : Payout) (h : row.id = p.id) : SwapEnds s p expected (.ok false) (s.overwrite row)

theorem SwapEnds.find?_of_won {s s' : MemoryStore} (h : SwapEnds s p expected (.ok true) s') :
    s'.find? p.id = some p := by
  cases h with
  | served b _ _ h =>
      rcases Behaviour.answer_saveIf h with ⟨-, hlost⟩ | ⟨rfl, -, row, hrow, -⟩
      · exact absurd rfl hlost
      · exact MemoryStore.find?_overwrite_self hrow

theorem SwapEnds.find?_of_ne {s s' : MemoryStore} {a : Except Error Bool}
    (h : SwapEnds s p expected a s') (hid : id ≠ p.id) : s'.find? id = s.find? id := by
  cases h with
  | served b _ _ h =>
      rcases Behaviour.answer_saveIf h with ⟨rfl, -⟩ | ⟨rfl, -⟩
      · rfl
      · exact MemoryStore.find?_overwrite_of_ne hid
  | lost row hrow => exact MemoryStore.find?_overwrite_of_ne (hrow ▸ hid)

/-- A store whose batches come in any order among equal times, and whose calls for single records
may fail. Nothing but swaps touches it. The ledger may give any status or error. -/
structure Troubled (answer : Surroundings interface σ) (view : σ → MemoryStore) : Prop where
  stale : ∀ status before limit u, ∃ s : MemoryStore, s.rows.Perm (view u).rows ∧
    (answer (.store (.findStale status before limit)) u).1 = .ok (s.findStale status before limit)
  due : ∀ status now limit u, ∃ s : MemoryStore, s.rows.Perm (view u).rows ∧
    (answer (.store (.findDue status now limit)) u).1 = .ok (s.findDue status now limit)
  got : ∀ id u, (answer (.store (.get id)) u).1 = .ok ((view u).find? id) ∨
    ∃ e, (answer (.store (.get id)) u).1 = .error e
  swapped : ∀ p expected u, SwapEnds (view u) p expected
    (answer (.store (.saveIf p expected)) u).1 (view (answer (.store (.saveIf p expected)) u).2)
  looked : ∀ hash u, (answer (.transfer (.lookup hash)) u).1 ≠ .error .crash
  kept : ∀ r u, (∀ c, r = .store c → c.isRead = true) → view (answer r u).2 = view u
  clock : ∀ u, 0 ≤ (answer .now u).1.seconds

/-- A task comes to an end without a crash, and this can be said of its value and the store. -/
def Survives (answer : Surroundings interface σ) (view : σ → MemoryStore) (t : Work α)
    (R : α → MemoryStore → Prop) (u : σ) : Prop :=
  ∀ past, t.Ends answer (fun o u' _ =>
    (∃ a, o = .ok a ∧ R a (view u')) ∨ ∃ e, o = .error (.error e)) u past

namespace Survives

variable {R : α → MemoryStore → Prop} {S : β → MemoryStore → Prop}

theorem pure {a : α} (h : R a (view u)) : Survives answer view (pure a) R u := by
  intro _
  rw [ends_pure]
  exact .inl ⟨a, rfl, h⟩

theorem fail {e : Error} : Survives answer view (Task.fail e) R u := by
  intro _
  rw [ends_fail]
  exact .inr ⟨e, rfl⟩

theorem bind {t : Work α} {f : α → Work β} (ht : Survives answer view t R u)
    (hf : ∀ a u', R a (view u') → Survives answer view (f a) S u') :
    Survives answer view (t >>= f) S u := by
  intro past
  rw [ends_bind]
  refine (ht past).imp ?_
  rintro o u' past' (⟨a, rfl, ha⟩ | ⟨e, rfl⟩)
  · exact hf a u' ha past'
  · exact .inr ⟨e, rfl⟩

theorem attempt {t : Work α} (h : Survives answer view t R u) :
    Survives answer view t.attempt (fun result s => ∀ a, result = .ok a → R a s) u := by
  intro past
  rw [ends_attempt]
  refine (h past).imp ?_
  rintro o u' past' (⟨a, rfl, ha⟩ | ⟨e, rfl⟩)
  · exact .inl ⟨.ok a, rfl, fun b hb => Except.ok.inj hb ▸ ha⟩
  · exact .inl ⟨.error e, rfl, nofun⟩

theorem persist {act : Nat → Work α} (hact : ∀ n u, Survives answer view (act n) R u)
    (tries n : Nat) (u : σ) : Survives answer view (persist act n tries) R u := by
  induction tries generalizing n u with
  | zero => exact hact n u
  | succ tries ih =>
      refine (hact n u).attempt.bind ?_
      rintro (e | a) u' ha
      · refine Survives.bind (R := fun _ _ => True) (fun _ => .inl ⟨(), rfl, trivial⟩) ?_
        exact fun _ u'' _ => ih (n + 1) u''
      · exact pure (ha a rfl)

end Survives

/-- The status that a recovery reports is that of the stored record, which is no more in
processing. -/
def Reported (id : PayoutId) (status : Option Status) (s : MemoryStore) : Prop :=
  ∀ reported, status = some reported → reported ≠ .processing ∧
    ∃ row, s.find? id = some row ∧ row.status = reported

namespace Troubled

variable (troubled : Troubled answer view)

include troubled

theorem now (u : σ) : Survives answer view now
    (fun t s => s = view u ∧ ∃ u', t = (answer .now u').1) u := by
  intro past
  rw [ends_now_of_nonneg (troubled.clock u)]
  exact .inl ⟨_, rfl, troubled.kept _ u (by simp), u, rfl⟩

theorem publish (e : Event) (u : σ) :
    Survives answer view (publish e) (fun _ s => s = view u) u := by
  intro _
  exact .inl ⟨_, rfl, troubled.kept _ u (by simp)⟩

theorem lookup (hash : String) (u : σ) :
    Survives answer view (transfer (.lookup hash)) (fun _ s => s = view u) u := by
  intro _
  rw [ends_transfer]
  have hstore : view (answer (.transfer (.lookup hash)) u).2 = view u :=
    troubled.kept _ u (by simp)
  cases hfound : (answer (.transfer (.lookup hash)) u).1 with
  | ok status => exact .inl ⟨status, rfl, hstore⟩
  | error e =>
      cases e with
      | error e => exact .inr ⟨e, rfl⟩
      | crash => exact absurd hfound (troubled.looked hash u)

theorem load (id : PayoutId) (u : σ) :
    Survives answer view (load id) (fun p s => s = view u ∧ s.find? id = some p) u := by
  have hget : Survives answer view (store (.get id))
      (fun found s => s = view u ∧ found = s.find? id) u := by
    intro _
    rw [ends_store]
    have hstore : view (answer (.store (.get id)) u).2 = view u :=
      troubled.kept _ u fun c hc => by cases hc; rfl
    rcases troubled.got id u with hfound | ⟨e, herror⟩
    · rw [hfound]
      exact .inl ⟨_, rfl, hstore, by rw [hstore]⟩
    · rw [herror]
      exact .inr ⟨e, rfl⟩
  refine hget.bind ?_
  rintro (_ | p) u' ⟨hstore, hfound⟩
  · exact .fail
  · exact .pure ⟨hstore, hfound.symm⟩

theorem saveIf (p : Payout) (expected : Status) (u : σ) :
    Survives answer view (store (.saveIf p expected))
      (fun won s => won = true → s.find? p.id = some p) u := by
  intro _
  rw [ends_store]
  have hswap := troubled.swapped p expected u
  cases hwon : (answer (.store (.saveIf p expected)) u).1 with
  | error e => exact .inr ⟨e, rfl⟩
  | ok won =>
      refine .inl ⟨won, rfl, ?_⟩
      rintro rfl
      exact (hwon ▸ hswap).find?_of_won

theorem bookFailure {reason : String} (hbudget : p.Budgeted) (hstatus : p.status = .processing)
    (hrange : ∀ u, policy.Schedules p.maxRetries (answer .now u).1) (u : σ) :
    Survives answer view (bookFailure policy p reason) (Reported p.id) u := by
  refine (troubled.now u).bind ?_
  rintro t u₁ ⟨-, u', rfl⟩
  obtain ⟨failed, hfailed⟩ : ∃ failed, p.recordFailure? reason policy (answer .now u').1 =
      some failed := hbudget.exists_recordFailure? hstatus (hrange u')
  have hbooks := books_recordFailure? hfailed
  rw [hfailed]
  refine (Survives.pure (R := fun q _ => q = failed) rfl).bind ?_
  rintro _ u₂ rfl
  refine (troubled.saveIf _ _ u₂).bind ?_
  rintro (_ | _) u₃ hwon
  · exact .pure nofun
  · refine (troubled.publish _ u₃).bind ?_
    intro _ u₄ hstore
    refine .pure fun reported hreported => ?_
    obtain rfl := Option.some.inj hreported
    refine ⟨?_, _, ?_, rfl⟩
    · rcases hbooks.status with h | h <;> simp [h]
    · rw [hstore, ← hbooks.origin.id]
      exact hwon rfl

theorem writeCompletion (hid : current.id = id)
    (hdone : current.status = .completed → (view u).find? id = some current) :
    Survives answer view (writeCompletion id receipt current n) (fun done s =>
      done.isSome → ∃ row, s.find? id = some row ∧ row.status = .completed) u := by
  induction n generalizing current u with
  | zero => exact .fail
  | succ n ih =>
      unfold Engine.writeCompletion
      split
      · rename_i hstatus
        split
        · exact .pure fun _ => ⟨current, hdone hstatus, hstatus⟩
        · exact .pure fun hnone => by cases hnone
      · refine (troubled.now u).bind fun t u₁ _ => (troubled.saveIf _ _ u₁).bind ?_
        rintro (_ | _) u₂ hwon
        · refine (troubled.load id u₂).bind ?_
          rintro q u₃ ⟨-, hq⟩
          exact ih (MemoryStore.find?_id hq) fun _ => hq
        · exact .pure fun _ => ⟨_, hid ▸ hwon rfl, rfl⟩

theorem complete (hstatus : p.status = .processing) (u : σ) :
    Survives answer view (complete p receipt) (fun isDone s =>
      isDone = true → ∃ row, s.find? p.id = some row ∧ row.status = .completed) u := by
  refine (Survives.persist (R := fun done s =>
    done.isSome → ∃ row, s.find? p.id = some row ∧ row.status = .completed) ?_ _ 0 u).bind ?_
  · intro n u
    dsimp only
    split
    · refine (Survives.pure (R := fun q _ => q = p) rfl).bind ?_
      rintro _ u₁ rfl
      exact troubled.writeCompletion rfl fun h => by rw [hstatus] at h; cases h
    · refine (troubled.load p.id u).bind ?_
      rintro q u₁ ⟨-, hq⟩
      exact troubled.writeCompletion (MemoryStore.find?_id hq) fun _ => hq
  · rintro (_ | done) u₁ hdone
    · exact .pure nofun
    · refine (troubled.publish _ u₁).bind ?_
      intro _ u₂ hstore
      refine .pure fun _ => ?_
      rw [hstore]
      exact hdone rfl

/-- A recovery of a record whose failures can be counted and scheduled. -/
theorem recover (hrow : ∀ p, (view u).find? id = some p → p.Budgeted ∧
      ∀ u, policy.Schedules p.maxRetries (answer .now u).1) :
    Survives answer view (recover policy id) (Reported id) u := by
  refine (troubled.load id u).bind ?_
  rintro p u₁ ⟨hstore, hp⟩
  obtain ⟨hbudget, hrange⟩ := hrow p (hstore ▸ hp)
  obtain rfl := MemoryStore.find?_id hp
  split
  · exact .pure nofun
  rename_i hstatus
  rw [not_not] at hstatus
  split
  · exact troubled.bookFailure hbudget hstatus hrange u₁
  rename_i hash _
  refine (troubled.lookup hash u₁).bind ?_
  rintro (ledger | result | _) u₂ -
  · refine (troubled.complete hstatus u₂).bind ?_
    rintro (_ | _) u₃ hdone
    · exact .pure nofun
    · obtain ⟨row, hrow, hcompleted⟩ := hdone rfl
      refine .pure fun reported hreported => ?_
      obtain rfl := Option.some.inj hreported
      exact ⟨by simp, row, hrow, hcompleted⟩
  · exact troubled.bookFailure hbudget hstatus hrange u₂
  · exact troubled.bookFailure hbudget hstatus hrange u₂

end Troubled

end Disburse.Engine
