import Disburse.Proofs.Concurrency.Solo
import Disburse.Proofs.Engine.Conduct
import Disburse.Proofs.Payout.Schedule
import Disburse.Proofs.Time.Instant

namespace Disburse.Engine

open Disburse.Task

variable {σ α : Type} {answer : Surroundings interface σ} {view : σ → MemoryStore} {u : σ}
  {past : List (Exchange interface)} {policy : RetryPolicy} {p row : Payout} {id : PayoutId}

/-- Surroundings whose store makes no errors and belongs to one task, under a sound clock. -/
structure Calm (answer : Surroundings interface σ) (view : σ → MemoryStore) : Prop where
  answered : ∀ c u, (answer (.store c) u).1 = ((view u).answer c).1
  stored : ∀ c u, view (answer (.store c) u).2 = ((view u).answer c).2
  kept : ∀ r u, (∀ c, r ≠ .store c) → view (answer r u).2 = view u
  clock : ∀ u, 0 ≤ (answer .now u).1.seconds

/-- A store that answers its calls, and the rest of the world beside it. -/
def beside {S ω : Type} (respond : S → (c : StoreCall) → c.Answer × S)
    (rest : Surroundings interface ω) : Surroundings interface (S × ω)
  | .store c, (s, w) => ((respond s c).1, (respond s c).2, w)
  | .transfer c, (s, w) => ((rest (.transfer c) w).1, s, (rest (.transfer c) w).2)
  | .now, (s, w) => ((rest .now w).1, s, (rest .now w).2)
  | .freshId, (s, w) => ((rest .freshId w).1, s, (rest .freshId w).2)
  | .publish e, (s, w) => ((), s, (rest (.publish e) w).2)
  | .dispatch id, (s, w) => ((), s, (rest (.dispatch id) w).2)
  | .pause k, (s, w) => ((), s, (rest (.pause k) w).2)

/-- The events that were published. -/
def events (past : List (Exchange interface)) : List Event :=
  past.filterMap fun x =>
    match x.request with
    | .publish e => some e
    | _ => none

/-- The executions that were started. -/
def dispatched (past : List (Exchange interface)) : List PayoutId :=
  past.filterMap fun x =>
    match x.request with
    | .dispatch id => some id
    | _ => none

def isTransfer (x : Exchange interface) : Bool :=
  match x.request with
  | .transfer _ => true
  | _ => false

/-- The calls of the transfer executor. -/
def calls (past : List (Exchange interface)) : List (Exchange interface) :=
  past.filter isTransfer

@[simp] theorem events_append (xs ys : List (Exchange interface)) :
    events (xs ++ ys) = events xs ++ events ys :=
  List.filterMap_append

@[simp] theorem dispatched_append (xs ys : List (Exchange interface)) :
    dispatched (xs ++ ys) = dispatched xs ++ dispatched ys :=
  List.filterMap_append

theorem ends_store {c : StoreCall} {Q : Outcome c.Value → σ → List (Exchange interface) → Prop} :
    Task.Ends answer (store c) Q u past ↔
      Q (.ofExcept (answer (.store c) u).1) (answer (.store c) u).2
        (past ++ [⟨.store c, (answer (.store c) u).1⟩]) :=
  Iff.rfl

theorem ends_transfer {c : TransferCall}
    {Q : Outcome c.Value → σ → List (Exchange interface) → Prop} :
    Task.Ends answer (transfer c) Q u past ↔
      Q (answer (.transfer c) u).1 (answer (.transfer c) u).2
        (past ++ [⟨.transfer c, (answer (.transfer c) u).1⟩]) :=
  Iff.rfl

theorem ends_transfer_ok {c : TransferCall} {value : c.Value} {f : Except Error c.Value → Work α}
    {Q : Outcome α → σ → List (Exchange interface) → Prop}
    (hanswer : (answer (.transfer c) u).1 = .ok value)
    (h : Task.Ends answer (f (.ok value)) Q (answer (.transfer c) u).2
      (past ++ [⟨.transfer c, .ok value⟩])) :
    Task.Ends answer (Task.attempt (transfer c) >>= f) Q u past := by
  rw [ends_bind, ends_attempt, ends_transfer]
  rw [hanswer]
  exact h

theorem ends_transfer_error {c : TransferCall} {e : Error} {f : Except Error c.Value → Work α}
    {Q : Outcome α → σ → List (Exchange interface) → Prop}
    (hanswer : (answer (.transfer c) u).1 = .error (.error e))
    (h : Task.Ends answer (f (.error e)) Q (answer (.transfer c) u).2
      (past ++ [⟨.transfer c, .error (.error e)⟩])) :
    Task.Ends answer (Task.attempt (transfer c) >>= f) Q u past := by
  rw [ends_bind, ends_attempt, ends_transfer]
  rw [hanswer]
  exact h

theorem ends_supervise_iff {Q : Outcome Unit → σ → List (Exchange interface) → Prop} :
    (supervise policy id).Ends answer Q u past ↔
      (execute policy id).Ends answer (fun o u' past' =>
        match o with
        | .error .crash =>
          (recordFailure policy id "execution task panicked").Ends answer (fun o u'' past'' =>
            match o with
            | .error .crash => Q (.error .crash) u'' past''
            | _ => Q (.ok ()) u'' past'') u' past'
        | _ => Q (.ok ()) u' past') u past := by
  refine Program.ends_bind.trans ?_
  constructor
  all_goals
    refine fun h => Program.Ends.imp h ?_
    rintro ((e | _) | _) u' past' h'
    · first
        | exact Program.ends_done.mp h'
        | exact Program.ends_done.mpr h'
    · first
        | refine Program.Ends.imp (Program.ends_bind.mp h') ?_
        | refine Program.ends_bind.mpr (Program.Ends.imp h' ?_)
      rintro ((e | _) | _) u'' past'' h''
      all_goals first
        | exact Program.ends_done.mp h''
        | exact Program.ends_done.mpr h''
    · first
        | exact Program.ends_done.mp h'
        | exact Program.ends_done.mpr h'

theorem ends_now {Q : Outcome Instant → σ → List (Exchange interface) → Prop} :
    Task.Ends answer now Q u past ↔
      Q (.ofInRange (answer .now u).1.reading?) (answer .now u).2
        (past ++ [⟨.now, (answer .now u).1⟩]) :=
  Iff.rfl

theorem ends_now_of_nonneg {Q : Outcome Instant → σ → List (Exchange interface) → Prop}
    (h : 0 ≤ (answer .now u).1.seconds) :
    Task.Ends answer now Q u past ↔
      Q (.ok (answer .now u).1) (answer .now u).2 (past ++ [⟨.now, (answer .now u).1⟩]) := by
  rw [ends_now, Instant.reading?_of_nonneg h, Outcome.ofInRange]

theorem ends_freshId {Q : Outcome PayoutId → σ → List (Exchange interface) → Prop} :
    Task.Ends answer freshId Q u past ↔
      Q (.ok (answer .freshId u).1) (answer .freshId u).2
        (past ++ [⟨.freshId, (answer .freshId u).1⟩]) :=
  Iff.rfl

theorem ends_dispatch {id : PayoutId}
    {Q : Outcome Unit → σ → List (Exchange interface) → Prop} :
    Task.Ends answer (dispatch id) Q u past ↔
      Q (.ok ()) (answer (.dispatch id) u).2 (past ++ [⟨.dispatch id, ()⟩]) :=
  Iff.rfl

theorem ends_publish {e : Event} {Q : Outcome Unit → σ → List (Exchange interface) → Prop} :
    Task.Ends answer (publish e) Q u past ↔
      Q (.ok ()) (answer (.publish e) u).2 (past ++ [⟨.publish e, ()⟩]) :=
  Iff.rfl

theorem ends_pause {k : Nat} {Q : Outcome Unit → σ → List (Exchange interface) → Prop} :
    Task.Ends answer (pause k) Q u past ↔
      Q (.ok ()) (answer (.pause k) u).2 (past ++ [⟨.pause k, ()⟩]) :=
  Iff.rfl

/-- What is tried again ends with its first success, or with an error when it has failed each time:
`P` is what holds behind a number of failures, and `R` what holds behind a success. -/
theorem ends_persist {P : Nat → σ → List (Exchange interface) → Prop}
    {R : Nat → α → σ → List (Exchange interface) → Prop} {act : Nat → Work α} {n : Nat}
    (hact : ∀ n u past, P n u past → (act n).Ends answer (fun o u' past' =>
      (∃ a, o = .ok a ∧ R n a u' past') ∨ ∃ e, o = .error (.error e) ∧ P (n + 1) u' past') u past)
    (hpause : ∀ n k u past, P n u past →
      P n (answer (.pause k) u).2 (past ++ [⟨.pause k, ()⟩]))
    (tries : Nat) (h : P n u past) :
    (persist act n tries).Ends answer (fun o u' past' =>
      (∃ a m, o = .ok a ∧ m ≤ n + tries ∧ R m a u' past') ∨
        ∃ e, o = .error (.error e) ∧ P (n + tries + 1) u' past') u past := by
  induction tries generalizing n u past with
  | zero =>
      refine (hact n u past h).imp ?_
      rintro o u' past' (⟨a, rfl, hR⟩ | herror)
      · exact .inl ⟨a, n, rfl, Nat.le_refl n, hR⟩
      · exact .inr herror
  | succ tries ih =>
      unfold persist
      rw [ends_bind, ends_attempt]
      refine (hact n u past h).imp ?_
      rintro o u₁ past₁ (⟨a, rfl, hR⟩ | ⟨e, rfl, hP⟩)
      · exact ends_pure.mpr (.inl ⟨a, n, rfl, by omega, hR⟩)
      dsimp only
      rw [ends_bind, ends_pause]
      refine (ih (hpause _ _ _ _ hP)).imp ?_
      rintro o u' past' (⟨a, m, rfl, hm, hR⟩ | ⟨e, rfl, hP'⟩)
      · exact .inl ⟨a, m, rfl, by omega, hR⟩
      · exact .inr ⟨e, rfl, by rwa [show n + (tries + 1) + 1 = n + 1 + tries + 1 by omega]⟩

namespace Calm

variable (calm : Calm answer view)

include calm

theorem ends_now {Q : Outcome Instant → σ → List (Exchange interface) → Prop} :
    Task.Ends answer now Q u past ↔
      Q (.ok (answer .now u).1) (answer .now u).2 (past ++ [⟨.now, (answer .now u).1⟩]) :=
  ends_now_of_nonneg (calm.clock u)

theorem kept_now : view (answer .now u).2 = view u :=
  calm.kept _ _ (by simp)

theorem kept_publish {e : Event} : view (answer (.publish e) u).2 = view u :=
  calm.kept _ _ (by simp)

theorem kept_transfer {c : TransferCall} : view (answer (.transfer c) u).2 = view u :=
  calm.kept _ _ (by simp)

theorem ends_read {c : StoreCall} {Q : Outcome c.Value → σ → List (Exchange interface) → Prop}
    (hread : c.isRead = true)
    (h : ∀ u', u' = (answer (.store c) u).2 → view u' = view u →
      Q (.ofExcept ((view u).answer c).1) u' (past ++ [⟨.store c, ((view u).answer c).1⟩])) :
    Task.Ends answer (store c) Q u past := by
  rw [ends_store]
  rw [calm.answered]
  exact h _ rfl ((calm.stored c u).trans (MemoryStore.answer_of_isRead hread))

theorem ends_load {Q : Outcome Payout → σ → List (Exchange interface) → Prop}
    (hfound : (view u).find? id = some p)
    (h : ∀ u', u' = (answer (.store (.get id)) u).2 → view u' = view u →
      Q (.ok p) u' (past ++ [⟨.store (.get id), .ok (some p)⟩])) :
    Task.Ends answer (load id) Q u past := by
  unfold load
  rw [ends_bind]
  refine calm.ends_read rfl fun u' hu' hstore => ?_
  have hanswer : ((view u).answer (.get id)).1 = .ok (some p) := congrArg Except.ok hfound
  rw [hanswer]
  exact ends_pure.mpr (h u' hu' hstore)

theorem ends_load_none {Q : Outcome Payout → σ → List (Exchange interface) → Prop}
    (hfound : (view u).find? id = none)
    (h : ∀ u', u' = (answer (.store (.get id)) u).2 → view u' = view u →
      Q (.error (.error (.notFound id.toText))) u' (past ++ [⟨.store (.get id), .ok none⟩])) :
    Task.Ends answer (load id) Q u past := by
  unfold load
  rw [ends_bind]
  refine calm.ends_read rfl fun u' hu' hstore => ?_
  have hanswer : ((view u).answer (.get id)).1 = .ok none := congrArg Except.ok hfound
  rw [hanswer]
  exact ends_fail.mpr (h u' hu' hstore)

theorem ends_saveIf {expected : Status} {Q : Outcome Bool → σ → List (Exchange interface) → Prop}
    (hfound : (view u).find? p.id = some row) (hstatus : row.status = expected)
    (h : ∀ u', u' = (answer (.store (.saveIf p expected)) u).2 → view u' = (view u).overwrite p →
      Q (.ok true) u' (past ++ [wonSwap p expected])) :
    Task.Ends answer (store (.saveIf p expected)) Q u past := by
  have hswap : (view u).answer (.saveIf p expected) = (.ok true, (view u).overwrite p) := by
    show (view u).saveIf p expected = _
    simp [MemoryStore.saveIf, hfound, hstatus]
  have hanswer : (answer (.store (.saveIf p expected)) u).1 = .ok true := by
    rw [calm.answered, hswap]
  rw [ends_store]
  rw [hanswer]
  exact h _ rfl (by rw [calm.stored, hswap])

omit calm in
theorem ends_persist {act : Nat → Work α} {n tries : Nat}
    {Q : Outcome α → σ → List (Exchange interface) → Prop}
    (h : (act n).Ends answer (fun o u' past' => (∃ a, o = .ok a) ∧ Q o u' past') u past) :
    (persist act n (tries + 1)).Ends answer Q u past := by
  unfold persist
  rw [ends_bind, ends_attempt]
  refine h.imp ?_
  rintro o u' past' ⟨⟨a, rfl⟩, hQ⟩
  exact ends_pure.mpr hQ

end Calm

/-- The next version of a record, with one more failed attempt. -/
structure Books (policy : RetryPolicy) (reason : String) (p failed : Payout) : Prop where
  booked : ∃ now, p.recordFailure? reason policy now = some failed
  status : failed.status = .retryScheduled ∨ failed.status = .failed
  retryCount : failed.retryCount.toNat = min (p.retryCount.toNat + 1) p.maxRetries.toNat
  failureReason : failed.failureReason = some reason
  submittedHash : failed.submittedHash = none
  origin : p.SameOrigin failed

/-- The next version of a record, with its transfer on the ledger. -/
structure Lands (receipt : TransferReceipt) (p done : Payout) : Prop where
  landed : ∃ now, done = p.markCompleted receipt.transactionRef receipt.ledgerRef now
  status : done.status = .completed
  transactionRef : done.transactionRef = some receipt.transactionRef
  ledgerRef : done.ledgerRef = some receipt.ledgerRef
  retryCount : done.retryCount = p.retryCount
  origin : p.SameOrigin done

theorem books_recordFailure? {reason : String} {failed : Payout} {now : Instant}
    (h : p.recordFailure? reason policy now = some failed) : Books policy reason p failed := by
  obtain ⟨count, hcount, ⟨-, due, rfl⟩ | ⟨-, rfl⟩⟩ := Payout.recordFailure?_eq_some h
  · exact ⟨⟨now, h⟩, .inl rfl, Payout.countFailure?_eq_some hcount, rfl, rfl,
      Transition.sameOrigin_apply (T := .failure reason policy now) h⟩
  · exact ⟨⟨now, h⟩, .inr rfl, Payout.countFailure?_eq_some hcount, rfl, rfl,
      Transition.sameOrigin_apply (T := .failure reason policy now) h⟩

theorem lands_markCompleted (receipt : TransferReceipt) (p : Payout) (now : Instant) :
    Lands receipt p (p.markCompleted receipt.transactionRef receipt.ledgerRef now) where
  landed := ⟨now, rfl⟩
  status := rfl
  transactionRef := rfl
  ledgerRef := rfl
  retryCount := rfl
  origin := by constructor <;> rfl

/-- A stored record that is processing is failed, and its failure told, whatever the clock
shows. -/
theorem Calm.ends_bookFailure (calm : Calm answer view) {reason : String}
    (hfound : (view u).find? p.id = some p) (hbudget : p.Budgeted)
    (hstatus : p.status = .processing)
    (hrange : ∀ u, policy.Schedules p.maxRetries (answer .now u).1) :
    (bookFailure policy p reason).Ends answer (fun o u' past' =>
      ∃ failed, Books policy reason p failed ∧ o = .ok (some failed.status) ∧
        view u' = (view u).overwrite failed ∧
        ∃ now, past' = past ++ [⟨.now, now⟩, wonSwap failed .processing,
          ⟨.publish (.failed p.id p.recipient reason), ()⟩]) u past := by
  obtain ⟨failed, hfailed⟩ : ∃ failed, p.recordFailure? reason policy (answer .now u).1 =
      some failed := hbudget.exists_recordFailure? hstatus (hrange u)
  have hbooks := books_recordFailure? hfailed
  have hrow : (view (answer .now u).2).find? failed.id = some p := by
    rwa [calm.kept_now, hbooks.origin.id]
  unfold bookFailure
  simp only [ends_bind, calm.ends_now, hfailed, ends_ofOutcome, Outcome.ofInRange]
  refine calm.ends_saveIf hrow hstatus fun u' _ hu' => ?_
  simp only [if_true, ends_bind, ends_publish, ends_pure]
  rw [hbooks.origin.recipient]
  exact ⟨failed, hbooks, rfl, by rw [calm.kept_publish, hu', calm.kept_now],
    (answer .now u).1, by simp⟩

theorem Calm.ends_recordSubmission (calm : Calm answer view) {hash : String}
    (hfound : (view u).find? p.id = some p) (hstatus : p.status = .processing) :
    (recordSubmission p hash).Ends answer (fun o u' past' =>
      ∃ now, o = .ok (p.markSubmitted hash now) ∧
        view u' = (view u).overwrite (p.markSubmitted hash now) ∧
        past' = past ++ [⟨.now, now⟩, wonSwap (p.markSubmitted hash now) .processing]) u past := by
  let now := (answer .now u).1
  have hrow : (view (answer .now u).2).find? (p.markSubmitted hash now).id = some p := by
    rw [calm.kept_now]
    exact hfound
  unfold recordSubmission
  simp only [ends_bind, calm.ends_now, ends_attempt]
  refine Calm.ends_persist (calm.ends_saveIf hrow hstatus fun u' _ hu' => ⟨⟨true, rfl⟩, ?_⟩)
  rw [calm.kept_now] at hu'
  exact ends_pure.mpr ⟨now, rfl, hu', by simp [now]⟩

theorem Calm.ends_writeCompletion (calm : Calm answer view) {receipt : TransferReceipt}
    {tries : Nat} (hfound : (view u).find? p.id = some p) (hstatus : p.status = .processing) :
    (writeCompletion p.id receipt p (tries + 1)).Ends answer (fun o u' past' =>
      ∃ done, done = p.markCompleted receipt.transactionRef receipt.ledgerRef (answer .now u).1 ∧
        o = .ok (some done) ∧ view u' = (view u).overwrite done ∧
        past' = past ++ [⟨.now, (answer .now u).1⟩, wonSwap done .processing]) u past := by
  let done := p.markCompleted receipt.transactionRef receipt.ledgerRef (answer .now u).1
  have hrow : (view (answer .now u).2).find? done.id = some p := by
    rw [calm.kept_now]
    exact hfound
  unfold writeCompletion
  rw [if_neg (by rw [hstatus]; decide), hstatus]
  simp only [ends_bind, calm.ends_now]
  refine calm.ends_saveIf hrow hstatus fun u' _ hu' => ?_
  rw [calm.kept_now] at hu'
  exact ends_pure.mpr ⟨done, rfl, rfl, hu', by simp [done]⟩

/-- A stored record that is processing is completed, and its completion told. -/
theorem Calm.ends_complete (calm : Calm answer view) {receipt : TransferReceipt}
    (hfound : (view u).find? p.id = some p) (hstatus : p.status = .processing) :
    (complete p receipt).Ends answer (fun o u' past' =>
      ∃ done, done = p.markCompleted receipt.transactionRef receipt.ledgerRef (answer .now u).1 ∧
        o = .ok true ∧ view u' = (view u).overwrite done ∧
        past' = past ++ [⟨.now, (answer .now u).1⟩, wonSwap done .processing,
          ⟨.publish (.processed p.id p.recipient p.amount receipt.transactionRef), ()⟩])
      u past := by
  unfold complete
  rw [ends_bind]
  refine Calm.ends_persist ((calm.ends_writeCompletion hfound hstatus).imp ?_)
  rintro o u' past' ⟨done, hdone, rfl, hu', rfl⟩
  refine ⟨⟨some done, rfl⟩, ?_⟩
  dsimp only
  rw [ends_bind, ends_publish]
  rw [ends_pure]
  refine ⟨done, hdone, rfl, ?_, ?_⟩
  · rw [calm.kept_publish, hu']
  · simp [hdone, Payout.markCompleted]

theorem schedules_samplePolicy (maxRetries : UInt32) :
    samplePolicy.Schedules maxRetries .epoch := by
  intro count _ _
  refine ⟨⟨0⟩, ?_, .epoch, by decide⟩
  simp [RetryPolicy.backoff?, samplePolicy, Span.times?]
  decide

end Disburse.Engine
