import Disburse.Proofs.Engine.Calm

namespace Disburse.Engine

open Disburse.Code

variable {α : Type} {ids : PayoutId → Prop} {extra : Request → Prop} {p : Payout} {id : PayoutId}
  {policy : RetryPolicy}

/-- Records with certain identifiers are shown, and only such are asked for and written. Nothing
is created or sent; beyond that, requests of an extra kind are in order. -/
def scope (ids : PayoutId → Prop) (extra : Request → Prop) : Code interface where
  faithful x := ∀ p ∈ recordsIn x, ids p.id
  allows _
    | .store (.get id) => ids id
    | .store (.saveIf p _) => ids p.id
    | .transfer (.lookup _) => True
    | .now => True
    | .publish _ => True
    | .pause _ => True
    | r => extra r

namespace scope

theorem now : (scope ids extra).Minds now fun _ => True := by
  intro _
  constructor
  · exact trivial
  · intro _ _ _ _
    exact trivial

theorem publish {e : Event} : (scope ids extra).Minds (publish e) fun _ => True := by
  intro _
  constructor
  · exact trivial
  · intro _ _ _ _
    exact trivial

theorem pause {k : Nat} : (scope ids extra).Minds (pause k) fun _ => True := by
  intro _
  constructor
  · exact trivial
  · intro _ _ _ _
    exact trivial

theorem lookup {hash : String} :
    (scope ids extra).Minds (transfer (.lookup hash)) fun _ => True := by
  intro _
  constructor
  · exact trivial
  · intro _ _ _ _
    exact trivial

theorem dispatch (h : extra (.dispatch id)) :
    (scope ids extra).Minds (dispatch id) fun _ => True := by
  intro _
  constructor
  · exact h
  · intro _ _ _ _
    exact trivial

theorem saveIf {expected : Status} (h : ids p.id) :
    (scope ids extra).Minds (store (.saveIf p expected)) fun _ => True := by
  intro _
  constructor
  · exact h
  · intro _ _ _ _
    exact trivial

theorem shown {c : StoreCall} (h : ∀ past, (scope ids extra).allows past (.store c)) :
    (scope ids extra).Minds (store c) fun value =>
      ∀ p ∈ recordsIn ⟨.store c, .ok value⟩, ids p.id := by
  refine fun past => ⟨h past, fun (a : c.Answer) ha value hvalue => ?_⟩
  cases a with
  | error e => cases hvalue
  | ok value' => exact Except.ok.inj hvalue ▸ ha

theorem load (h : ids id) : (scope ids extra).Minds (load id) fun p => ids p.id := by
  refine (shown (c := .get id) fun _ => h).bind ?_
  rintro (_ | p) hp
  · exact .fail
  · exact .pure (hp p (by simp [recordsIn]))

theorem persist {R : α → Prop} {act : Nat → Work α}
    (hact : ∀ n, (scope ids extra).Minds (act n) R) (tries n : Nat) :
    (scope ids extra).Minds (persist act n tries) R := by
  induction tries generalizing n with
  | zero => exact hact n
  | succ tries ih =>
      refine (hact n).attempt.bind ?_
      rintro (e | a) ha
      · exact pause.bind fun _ _ => ih (n + 1)
      · exact .pure (ha a rfl)

theorem dispatched_eq_nil {xs : List (Exchange interface)} (hextra : ∀ id, ¬ extra (.dispatch id))
    (h : ∀ x ∈ xs, ∃ before, (scope ids extra).allows before x.request) : dispatched xs = [] := by
  refine List.filterMap_eq_nil_iff.mpr fun x hx => ?_
  obtain ⟨_, hallows⟩ := h x hx
  split
  · rename_i hdispatch
    rw [hdispatch] at hallows
    exact absurd hallows (hextra _)
  · rfl

theorem bookFailure {reason : String} (h : ids p.id) :
    (scope ids extra).Minds (bookFailure policy p reason) fun _ => True := by
  refine now.bind fun t _ => ?_
  refine (Minds.ofInRange (R := fun failed => ids failed.id) ?_).bind fun failed hfailed => ?_
  · intro failed hfailed
    rw [(books_recordFailure? hfailed).origin.id]
    exact h
  · refine (saveIf hfailed).bind ?_
    rintro (_ | _) -
    · exact .pure trivial
    · exact publish.bind fun _ _ => .pure trivial

theorem writeCompletion {receipt : TransferReceipt} {tries : Nat} (hid : ids id) (h : ids p.id) :
    (scope ids extra).Minds (writeCompletion id receipt p tries) fun _ => True := by
  induction tries generalizing p with
  | zero => exact .fail
  | succ tries ih =>
      unfold Engine.writeCompletion
      split
      · exact .pure trivial
      · refine now.bind fun t _ => Minds.bind (saveIf (p := p.markCompleted _ _ t) h) ?_
        rintro (_ | _) -
        · exact (load hid).bind fun current hcurrent => ih hcurrent
        · exact .pure trivial

theorem complete {receipt : TransferReceipt} (h : ids p.id) :
    (scope ids extra).Minds (complete p receipt) fun _ => True := by
  refine (persist (R := fun _ => True) (fun failures => ?_) _ 0).bind ?_
  · dsimp only
    split
    · exact (Minds.pure (R := fun q => ids q.id) h).bind fun _ hq => writeCompletion h hq
    · exact (load h).bind fun _ hq => writeCompletion h hq
  · rintro (_ | done) -
    · exact .pure trivial
    · exact publish.bind fun _ _ => .pure trivial

theorem recover (h : ids id) : (scope ids extra).Minds (recover policy id) fun _ => True := by
  refine (load h).bind fun p hp => ?_
  split
  · exact .pure trivial
  split
  · exact bookFailure hp
  refine lookup.bind ?_
  rintro (ledger | result | _) -
  · exact (complete hp).bind fun _ _ => .pure trivial
  · exact bookFailure hp
  · exact bookFailure hp

theorem recoverEach {ps : List Payout} (h : ∀ p ∈ ps, ids p.id) :
    (scope ids extra).Minds (recoverEach policy ps) fun _ => True := by
  induction ps with
  | nil => exact .pure trivial
  | cons p ps ih =>
      obtain ⟨hp, hps⟩ := List.forall_mem_cons.mp h
      refine (recover hp).attempt.bind fun settled _ => (ih hps).bind fun count _ => ?_
      split
      all_goals exact .pure trivial

theorem requeueOne {t : Instant} {report : SweepReport} (h : ids p.id)
    (hdispatch : extra (.dispatch p.id)) :
    (scope ids extra).Minds (requeueOne t p report) fun _ => True := by
  unfold Engine.requeueOne
  cases hrequeue : p.requeue t with
  | error e => exact .pure trivial
  | ok requeued =>
      have hid : ids requeued.id := by
        rw [(Payout.requeue_eq_ok hrequeue).2]
        exact h
      refine (saveIf hid).attempt.bind ?_
      rintro (e | _ | _) -
      · exact .pure trivial
      · exact .pure trivial
      · exact (dispatch hdispatch).bind fun _ _ => .pure trivial

theorem requeueEach {t : Instant} {ps : List Payout} {report : SweepReport}
    (h : ∀ p ∈ ps, ids p.id) (hdispatch : ∀ id, extra (.dispatch id)) :
    (scope ids extra).Minds (requeueEach t ps report) fun _ => True := by
  induction ps generalizing report with
  | nil => exact .pure trivial
  | cons p ps ih =>
      obtain ⟨hp, hps⟩ := List.forall_mem_cons.mp h
      exact (requeueOne hp (hdispatch p.id)).bind fun _ _ => ih hps

end scope

end Disburse.Engine
