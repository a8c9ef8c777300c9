import Disburse.Proofs.Engine.Calm

namespace Disburse.Engine

open Disburse.Code

variable {α : Type} {a p : Payout} {id : PayoutId} {policy : RetryPolicy}

/-- A claim, a retry, an execution or a recovery of a payout. -/
def Operation.IsOn (a : Payout) : Operation → Prop
  | .claim submissionRef _ => a.submissionRef = some submissionRef
  | .retry id => id = a.id
  | .dispatch id => id = a.id
  | .recover id => id = a.id
  | _ => False

/-- Executions in the background, each to its end. -/
def executeEach (policy : RetryPolicy) : List PayoutId → Program interface (List (Outcome Unit))
  | [] => .done []
  | id :: ids =>
    (supervise policy id).outcome.bind fun o =>
      (executeEach policy ids).bind fun os => .done (o :: os)

/-- Versions of one payout are shown, and only such are asked for and written; listeners are told
of this payout, and executions are started for it. -/
def about (a : Payout) : Code interface where
  faithful x := ∀ p ∈ recordsIn x, a.SameOrigin p
  allows _
    | .store (.get id) => id = a.id
    | .store (.findBySubmission submissionRef) => a.submissionRef = some submissionRef
    | .store (.saveIf p _) => a.SameOrigin p
    | .store _ => False
    | .transfer _ => True
    | .now => True
    | .freshId => False
    | .publish e => e.id = a.id
    | .dispatch id => id = a.id
    | .pause _ => True

namespace about

theorem now : (about a).Minds now fun _ => True := by
  intro _
  constructor
  · exact trivial
  · intro _ _ _ _
    exact trivial

theorem pause {k : Nat} : (about a).Minds (pause k) fun _ => True := by
  intro _
  constructor
  · exact trivial
  · intro _ _ _ _
    exact trivial

theorem transfer {c : TransferCall} : (about a).Minds (transfer c) fun _ => True := by
  intro _
  constructor
  · exact trivial
  · intro _ _ _ _
    exact trivial

theorem publish {e : Event} (h : e.id = a.id) : (about a).Minds (publish e) fun _ => True := by
  intro _
  constructor
  · exact h
  · intro _ _ _ _
    exact trivial

theorem dispatch (h : id = a.id) : (about a).Minds (dispatch id) fun _ => True := by
  intro _
  constructor
  · exact h
  · intro _ _ _ _
    exact trivial

theorem saveIf {expected : Status} (h : a.SameOrigin p) :
    (about a).Minds (store (.saveIf p expected)) fun _ => True := by
  intro _
  constructor
  · exact h
  · intro _ _ _ _
    exact trivial

theorem shown {c : StoreCall} (h : ∀ past, (about a).allows past (.store c)) :
    (about a).Minds (store c) fun value =>
      ∀ p ∈ recordsIn ⟨.store c, .ok value⟩, a.SameOrigin p := by
  refine fun past => ⟨h past, fun (answer : c.Answer) hanswer value hvalue => ?_⟩
  cases answer with
  | error e => cases hvalue
  | ok value' => exact Except.ok.inj hvalue ▸ hanswer

theorem load (h : id = a.id) : (about a).Minds (load id) a.SameOrigin := by
  refine (shown (c := .get id) fun _ => h).bind ?_
  rintro (_ | p) hp
  · exact .fail
  · exact .pure (hp p (by simp [recordsIn]))

theorem persist {R : α → Prop} {act : Nat → Work α} (hact : ∀ n, (about a).Minds (act n) R)
    (tries n : Nat) : (about a).Minds (persist act n tries) R := by
  induction tries generalizing n with
  | zero => exact hact n
  | succ tries ih =>
      refine (hact n).attempt.bind ?_
      rintro (e | value) hvalue
      · exact pause.bind fun _ _ => ih (n + 1)
      · exact .pure (hvalue value rfl)

theorem bookFailure {reason : String} (h : a.SameOrigin p) :
    (about a).Minds (bookFailure policy p reason) fun _ => True := by
  refine now.bind fun t _ => ?_
  refine (Minds.ofInRange (R := a.SameOrigin) fun failed hfailed =>
    h.trans (books_recordFailure? hfailed).origin).bind fun failed hfailed => ?_
  refine (saveIf hfailed).bind ?_
  rintro (_ | _) -
  · exact .pure trivial
  · exact Minds.bind (publish (e := .failed p.id _ _) h.id) fun _ _ => .pure trivial

theorem recordFailure {reason : String} (h : id = a.id) :
    (about a).Minds (recordFailure policy id reason) fun _ => True := by
  refine (load h).bind fun p hp => ?_
  split
  · exact bookFailure hp
  · exact .pure trivial

theorem failAttempt {e : Error} (h : a.SameOrigin p) :
    (about a).Minds (failAttempt policy p e) fun _ => True :=
  (bookFailure h).bind fun _ _ => .pure trivial

theorem recordSubmission {hash : String} (h : a.SameOrigin p) :
    (about a).Minds (recordSubmission p hash) a.SameOrigin := by
  refine now.bind fun t _ => ?_
  have hsubmitted : a.SameOrigin (p.markSubmitted hash t) :=
    h.trans (Transition.sameOrigin_apply (T := .submission hash t) rfl)
  exact (persist (fun _ => saveIf hsubmitted) _ 0).attempt.bind fun _ _ => .pure hsubmitted

theorem writeCompletion {receipt : TransferReceipt} {tries : Nat} (hid : id = a.id)
    (h : a.SameOrigin p) : (about a).Minds (writeCompletion id receipt p tries) fun _ => True := by
  induction tries generalizing p with
  | zero => exact .fail
  | succ tries ih =>
      unfold Engine.writeCompletion
      split
      · exact .pure trivial
      · refine now.bind fun t _ => ?_
        refine (saveIf (h.trans (lands_markCompleted receipt p t).origin)).bind ?_
        rintro (_ | _) -
        · exact (load hid).bind fun current hcurrent => ih hcurrent
        · exact .pure trivial

theorem complete {receipt : TransferReceipt} (h : a.SameOrigin p) :
    (about a).Minds (complete p receipt) fun _ => True := by
  refine (persist (R := fun _ => True) (fun failures => ?_) _ 0).bind ?_
  · dsimp only
    split
    · exact (Minds.pure h).bind fun _ hcurrent => writeCompletion h.id hcurrent
    · exact (load h.id).bind fun _ hcurrent => writeCompletion h.id hcurrent
  · rintro (_ | done) -
    · exact .pure trivial
    · exact Minds.bind (publish (e := .processed p.id _ _ _) h.id) fun _ _ => .pure trivial

theorem execute (h : id = a.id) : (about a).Minds (execute policy id) fun _ => True := by
  refine (load h).bind fun p hp => ?_
  split
  · exact .pure trivial
  refine (Minds.ofOutcome (R := fun _ => True) fun _ _ => trivial).bind fun _ _ => ?_
  refine transfer.attempt.bind ?_
  rintro (e | hash) -
  · exact failAttempt hp
  refine (recordSubmission hp).bind fun submitted hsubmitted => ?_
  refine transfer.attempt.bind ?_
  rintro (e | receipt) -
  · exact failAttempt hsubmitted
  · exact (complete hsubmitted).bind fun _ _ => .pure trivial

theorem recover (h : id = a.id) : (about a).Minds (recover policy id) fun _ => True := by
  refine (load h).bind fun p hp => ?_
  split
  · exact .pure trivial
  split
  · exact bookFailure hp
  refine transfer.bind ?_
  rintro (ledger | result | _) -
  · exact (complete hp).bind fun _ _ => .pure trivial
  · exact bookFailure hp
  · exact bookFailure hp

theorem supervise (h : id = a.id) : (about a).Minds (supervise policy id) fun _ => True := by
  exact minds_supervise (execute h) (recordFailure h)

theorem executeEach (policy : RetryPolicy) {ids : List PayoutId} (h : ∀ id ∈ ids, id = a.id)
    (past : List (Exchange interface)) :
    (about a).Obeys (executeEach policy ids) (fun _ _ => True) past := by
  induction ids generalizing past with
  | nil => trivial
  | cons id ids ih =>
      obtain ⟨hid, hids⟩ := List.forall_mem_cons.mp h
      unfold Engine.executeEach
      rw [obeys_bind]
      refine (supervise hid past).imp fun o past' _ => ?_
      rw [obeys_bind]
      exact (ih hids past').imp fun _ _ _ => trivial

theorem claimPayout {submissionRef recipient : String} (h : a.submissionRef = some submissionRef) :
    (about a).Minds (claimPayout submissionRef recipient) fun _ => True := by
  refine (shown (c := .findBySubmission submissionRef) fun _ => h).bind ?_
  rintro (_ | p) hp
  · exact .fail
  have horigin : a.SameOrigin p := hp p (by simp [recordsIn])
  dsimp only
  split
  · exact .fail
  split
  · exact .fail
  refine now.bind fun t _ => ?_
  refine (Minds.ofExcept (R := a.SameOrigin) fun claimed hclaimed => horigin.trans
    (Transition.sameOrigin_apply (T := .claim t) (congrArg Except.toOption hclaimed))).bind
    fun claimed hclaimed => ?_
  refine (saveIf hclaimed).bind ?_
  rintro (_ | _) -
  · exact .fail
  · exact (dispatch horigin.id).bind fun _ _ => .pure trivial

theorem retryPayout (h : id = a.id) : (about a).Minds (retryPayout policy id) fun _ => True := by
  refine (load h).bind fun p hp => now.bind fun t _ => ?_
  refine (Minds.ofExcept (R := a.SameOrigin) fun reset hreset => hp.trans
    (Transition.sameOrigin_apply (T := .reset policy.defaultMaxRetries t)
      (congrArg Except.toOption hreset))).bind fun reset hreset => ?_
  refine (saveIf hreset).bind ?_
  rintro (_ | _) -
  · exact (load h).bind fun _ _ => .fail
  · exact (dispatch h).bind fun _ _ => .pure trivial

theorem work {op : Operation} (h : op.IsOn a) : (about a).Minds (op.work policy) fun _ => True := by
  cases op with
  | claim submissionRef recipient => exact claimPayout h
  | retry id => exact retryPayout h
  | dispatch id => exact supervise h
  | recover id => exact recover h
  | create _ | sweep _ | execute _ | recordFailure _ _ => exact h.elim

end about

end Disburse.Engine
