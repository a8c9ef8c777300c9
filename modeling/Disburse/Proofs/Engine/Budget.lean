import Disburse.Proofs.Engine.Journal
import Disburse.Proofs.Payout.Budget

namespace Disburse.Engine

open Disburse.Code Disburse.Machine

variable {α β : Type} {R : α → Prop} {S : β → Prop} {p : Payout} {id : PayoutId}
  {policy : RetryPolicy}

/-- Records within their budget are shown, and only such are written. -/
def thrift : Code interface where
  faithful x := ∀ p ∈ recordsIn x, p.Budgeted
  allows _
    | .store (.create p) => p.Budgeted
    | .store (.save _) => False
    | .store (.saveIf p _) => p.Budgeted
    | _ => True

/-- A task that keeps to this code, and what can be said of its value. -/
def Thrifty (t : Work α) (R : α → Prop) : Prop :=
  ∀ past, thrift.Heeds t (fun o _ => ∀ a, o = .ok a → R a) past

namespace Thrifty

theorem pure {a : α} (h : R a) : Thrifty (pure a) R :=
  Minds.pure h

theorem fail {e : Error} : Thrifty (Task.fail e) R :=
  Minds.fail

theorem ofOutcome {o : Outcome α} (h : ∀ a, o = .ok a → R a) : Thrifty (Task.ofOutcome o) R :=
  Minds.ofOutcome h

theorem bind {t : Work α} {f : α → Work β} (ht : Thrifty t R) (hf : ∀ a, R a → Thrifty (f a) S) :
    Thrifty (t >>= f) S :=
  Minds.bind ht hf

theorem attempt {t : Work α} (h : Thrifty t R) :
    Thrifty t.attempt fun result => ∀ a, result = .ok a → R a :=
  Minds.attempt h

theorem transfer {c : TransferCall} : Thrifty (transfer c) fun _ => True := by
  intro _
  constructor
  · exact trivial
  · intro _ _ _ _
    exact trivial

theorem now : Thrifty now fun _ => True := by
  intro _
  constructor
  · exact trivial
  · intro _ _ _ _
    exact trivial

theorem freshId : Thrifty freshId fun _ => True := by
  intro _
  constructor
  · exact trivial
  · intro _ _ _ _
    exact trivial

theorem publish {e : Event} : Thrifty (publish e) fun _ => True := by
  intro _
  constructor
  · exact trivial
  · intro _ _ _ _
    exact trivial

theorem dispatch : Thrifty (dispatch id) fun _ => True := by
  intro _
  constructor
  · exact trivial
  · intro _ _ _ _
    exact trivial

theorem pause {n : Nat} : Thrifty (pause n) fun _ => True := by
  intro _
  constructor
  · exact trivial
  · intro _ _ _ _
    exact trivial

theorem read {c : StoreCall} (hread : c.isRead = true) :
    Thrifty (store c) fun value => ∀ p ∈ recordsIn ⟨.store c, .ok value⟩, p.Budgeted := by
  refine fun past => ⟨?_, fun (a : c.Answer) ha value hvalue => ?_⟩
  · cases c with
    | create _ | save _ | saveIf _ _ => cases hread
    | get _ | findBySubmission _ | findDue _ _ _ | findStale _ _ _ | list _ => trivial
  · cases a with
    | error e => cases hvalue
    | ok value' => exact Except.ok.inj hvalue ▸ ha

theorem saveIf {expected : Status} (h : p.Budgeted) :
    Thrifty (store (.saveIf p expected)) fun _ => True := by
  intro _
  constructor
  · exact h
  · intro _ _ _ _
    exact trivial

theorem load : Thrifty (load id) Payout.Budgeted := by
  refine (read rfl).bind ?_
  rintro (_ | p) hp
  · exact fail
  · exact pure (hp p (by simp [recordsIn]))

theorem persist {act : Nat → Work α} (hact : ∀ n, Thrifty (act n) R) (tries n : Nat) :
    Thrifty (persist act n tries) R := by
  induction tries generalizing n with
  | zero => exact hact n
  | succ tries ih =>
      refine (hact n).attempt.bind ?_
      rintro (e | a) ha
      · exact pause.bind fun _ _ => ih (n + 1)
      · exact pure (ha a rfl)

theorem bookFailure {reason : String} (h : p.Budgeted) :
    Thrifty (bookFailure policy p reason) fun _ => True := by
  refine now.bind fun t _ => ?_
  refine Thrifty.bind (Minds.ofInRange fun _ => h.recordFailure?) fun failed hfailed => ?_
  refine (saveIf hfailed).bind ?_
  rintro (_ | _) -
  · exact pure trivial
  · exact publish.bind fun _ _ => pure trivial

theorem recordFailure {reason : String} :
    Thrifty (recordFailure policy id reason) fun _ => True := by
  refine load.bind fun p hp => ?_
  split
  · exact bookFailure hp
  · exact pure trivial

theorem failAttempt {e : Error} (h : p.Budgeted) : Thrifty (failAttempt policy p e) fun _ => True :=
  (bookFailure h).bind fun _ _ => pure trivial

theorem recordSubmission {hash : String} (h : p.Budgeted) (hstatus : p.status = .processing) :
    Thrifty (recordSubmission p hash) Payout.Budgeted := by
  refine now.bind fun t _ => ?_
  have hsubmitted : (p.markSubmitted hash t).Budgeted := h.markSubmitted hstatus
  exact (persist (fun _ => saveIf hsubmitted) _ 0).attempt.bind fun _ _ => pure hsubmitted

theorem writeCompletion {receipt : TransferReceipt} {tries : Nat} (h : p.Budgeted) :
    Thrifty (writeCompletion id receipt p tries) fun _ => True := by
  induction tries generalizing p with
  | zero => exact fail
  | succ tries ih =>
      unfold Engine.writeCompletion
      split
      · exact pure trivial
      · refine now.bind fun t _ => (saveIf h.markCompleted).bind ?_
        rintro (_ | _) -
        · exact load.bind fun current hcurrent => ih hcurrent
        · exact pure trivial

theorem complete {receipt : TransferReceipt} (h : p.Budgeted) :
    Thrifty (complete p receipt) fun _ => True := by
  refine (persist (R := fun _ => True) (fun failures => ?_) _ 0).bind ?_
  · dsimp only
    split
    · exact (pure h).bind fun current hcurrent => writeCompletion hcurrent
    · exact load.bind fun current hcurrent => writeCompletion hcurrent
  · rintro (_ | done) -
    · exact pure trivial
    · exact publish.bind fun _ _ => pure trivial

theorem execute : Thrifty (execute policy id) fun _ => True := by
  refine load.bind fun p hp => ?_
  split
  · exact pure trivial
  rename_i hstatus
  rw [not_not] at hstatus
  refine (ofOutcome (R := fun _ => True) fun _ _ => trivial).bind fun _ _ => ?_
  refine transfer.attempt.bind ?_
  rintro (e | hash) -
  · exact failAttempt hp
  refine (recordSubmission hp hstatus).bind fun submitted hsubmitted => ?_
  refine transfer.attempt.bind ?_
  rintro (e | receipt) -
  · exact failAttempt hsubmitted
  · exact (complete hsubmitted).bind fun _ _ => pure trivial

theorem recover : Thrifty (recover policy id) fun _ => True := by
  refine load.bind fun p hp => ?_
  split
  · exact pure trivial
  split
  · exact bookFailure hp
  refine transfer.bind ?_
  rintro (ledger | result | _) -
  · exact (complete hp).bind fun _ _ => pure trivial
  · exact bookFailure hp
  · exact bookFailure hp

theorem supervise : Thrifty (supervise policy id) fun _ => True := by
  exact minds_supervise execute recordFailure

theorem createPayout {new : NewPayout} : Thrifty (createPayout policy new) fun _ => True := by
  refine (ofOutcome (R := fun _ => True) fun _ _ => trivial).bind fun _ _ => ?_
  refine freshId.bind fun id _ => now.bind fun t _ => ?_
  refine Thrifty.bind (R := fun _ => True) (fun past => ⟨?_, fun _ _ _ _ => trivial⟩)
    fun _ _ => pure trivial
  exact (Payout.legal_ofNew new id policy.defaultMaxRetries t).budgeted

theorem claimPayout {submissionRef recipient : String} :
    Thrifty (claimPayout submissionRef recipient) fun _ => True := by
  refine (read rfl).bind ?_
  rintro (_ | p) hp
  · exact fail
  have hbudget : p.Budgeted := hp p (by simp [recordsIn])
  dsimp only
  split
  · exact fail
  split
  · exact fail
  refine now.bind fun t _ => ?_
  refine Thrifty.bind (Minds.ofExcept fun _ => hbudget.markClaimed) fun claimed hclaimed => ?_
  refine (saveIf hclaimed).bind ?_
  rintro (_ | _) -
  · exact fail
  · exact dispatch.bind fun _ _ => pure trivial

theorem retryPayout : Thrifty (retryPayout policy id) fun _ => True := by
  refine load.bind fun p hp => now.bind fun t _ => ?_
  refine Thrifty.bind (Minds.ofExcept fun _ => hp.resetForRetry) fun reset hreset => ?_
  refine (saveIf hreset).bind ?_
  rintro (_ | _) -
  · exact load.bind fun _ _ => fail
  · exact dispatch.bind fun _ _ => pure trivial

theorem recoverEach {ps : List Payout} : Thrifty (recoverEach policy ps) fun _ => True := by
  induction ps with
  | nil => exact pure trivial
  | cons p ps ih =>
      refine recover.attempt.bind fun settled _ => ih.bind fun count _ => ?_
      split
      all_goals exact pure trivial

theorem recoverStuck {config : SchedulerConfig} {t : Instant} :
    Thrifty (recoverStuck policy config t) fun _ => True := by
  refine (ofOutcome (R := fun _ => True) fun _ _ => trivial).bind fun before _ => ?_
  exact (read rfl).bind fun _ _ => recoverEach

theorem requeueOne {t : Instant} {report : SweepReport} (h : p.Budgeted) :
    Thrifty (requeueOne t p report) fun _ => True := by
  unfold Engine.requeueOne
  cases hrequeue : p.requeue t with
  | error e => exact pure trivial
  | ok requeued =>
      refine (saveIf (h.requeue hrequeue)).attempt.bind ?_
      rintro (e | _ | _) -
      · exact pure trivial
      · exact pure trivial
      · exact dispatch.bind fun _ _ => pure trivial

theorem requeueEach {t : Instant} {ps : List Payout} {report : SweepReport}
    (h : ∀ p ∈ ps, p.Budgeted) : Thrifty (requeueEach t ps report) fun _ => True := by
  induction ps generalizing report with
  | nil => exact pure trivial
  | cons p ps ih =>
      exact (requeueOne (h p List.mem_cons_self)).bind fun _ _ =>
        ih fun q hq => h q (List.mem_cons_of_mem p hq)

theorem sweep {config : SchedulerConfig} : Thrifty (sweep policy config) fun _ => True :=
  now.bind fun _ _ => recoverStuck.bind fun _ _ => (read rfl).bind fun _ hdue => requeueEach hdue

theorem work (policy : RetryPolicy) (op : Operation) : Thrifty (op.work policy) fun _ => True := by
  cases op with
  | create new => exact createPayout
  | claim submissionRef recipient => exact claimPayout
  | retry id => exact retryPayout
  | sweep config => exact sweep
  | execute id => exact execute
  | dispatch id => exact supervise
  | recover id => exact recover
  | recordFailure id reason => exact recordFailure

end Thrifty

theorem thrift_answer {past : List (Exchange interface)} {b : Behaviour} {r : Request}
    {a : interface.Answer r} {s s' : MemoryStore} (hrows : ∀ p ∈ s.rows, p.Budgeted)
    (hallows : thrift.allows past r) (hanswer : b.answer r s = some (a, s')) :
    thrift.faithful ⟨r, a⟩ ∧ ∀ p ∈ s'.rows, p.Budgeted := by
  have hquiet : s' = s → thrift.faithful ⟨r, a⟩ ∧ ∀ p ∈ s'.rows, p.Budgeted := by
    rintro rfl
    refine ⟨fun p hp => hrows p ?_, hrows⟩
    cases r with
    | store c => exact mem_rows_of_recordsIn hanswer hp
    | transfer _ | now | freshId | publish _ | dispatch _ | pause _ => cases hp
  cases r with
  | transfer _ | now | freshId | publish _ | dispatch _ | pause _ =>
      exact hquiet (Behaviour.answer_other (by simp) hanswer)
  | store c =>
      cases c with
      | get _ | findBySubmission _ | findDue _ _ _ | findStale _ _ _ | list _ =>
          exact hquiet (Behaviour.answer_read rfl hanswer).1
      | save p => exact hallows.elim
      | create p =>
          rcases Behaviour.answer_create hanswer with rfl | rfl
          · exact hquiet rfl
          · refine ⟨fun _ hshown => absurd hshown List.not_mem_nil, fun q hq => ?_⟩
            rcases MemoryStore.mem_insert.mp hq with ⟨hq, -⟩ | rfl
            · exact hrows q hq
            · exact hallows
      | saveIf p expected =>
          rcases Behaviour.answer_saveIf hanswer with ⟨rfl, -⟩ | ⟨rfl, -⟩
          · exact hquiet rfl
          · refine ⟨fun _ hshown => absurd hshown List.not_mem_nil, fun q hq => ?_⟩
            rcases MemoryStore.mem_overwrite.mp hq with ⟨hq, -⟩ | ⟨rfl, -⟩
            · exact hrows q hq
            · exact hallows

theorem budgeted_and_abides_run {distinct : Bool} {opens : Operation → Bool → Bool}
    {final : (op : Operation) → Outcome op.Value → List (Exchange interface) → Prop}
    (hprogram : ∀ op : Operation, thrift.Obeys (op.work policy).outcome (final op) [])
    (moves : List (machine policy distinct opens).Move) :
    (∀ p ∈ ((machine policy distinct opens).run moves).state.store.rows, p.Budgeted) ∧
      ∀ t ∈ ((machine policy distinct opens).run moves).threads,
        t.Abides (fun _ => thrift) final := by
  refine invariant_and_abides_run (M := machine policy distinct opens)
    (S := fun s => ∀ p ∈ s.store.rows, p.Budgeted) (C := fun _ => thrift)
    (fun _ h => nomatch h) hprogram ?_ moves
  intro op past b r s a s' hrows hallows hanswer
  exact thrift_answer hrows hallows (Shared.answer_eq_some hanswer).1

theorem budgeted_of_mem_run {distinct : Bool} {opens : Operation → Bool → Bool}
    {moves : List (machine policy distinct opens).Move}
    (hp : p ∈ ((machine policy distinct opens).run moves).state.store.rows) : p.Budgeted :=
  (budgeted_and_abides_run (fun op => Thrifty.work policy op []) moves).1 p hp

end Disburse.Engine
