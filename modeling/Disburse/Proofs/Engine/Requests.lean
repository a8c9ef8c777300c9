import Disburse.Proofs.Engine.Interleaving
import Disburse.Proofs.Time.Instant

namespace Disburse.Engine

open Disburse.Machine Disburse.Machine.Discipline

variable {M : Machine interface} {τ α : Type} {D : Discipline M τ} {v : View M τ}

/-- A clock that stands before 1970 was read. -/
def ReadEarly (past : List (Exchange interface)) : Prop :=
  ∃ now : Instant, ⟨.now, now⟩ ∈ past ∧ now.seconds < 0

theorem ReadEarly.mono {past past' : List (Exchange interface)} (h : ReadEarly past)
    (hpast : past <+: past') : ReadEarly past' := by
  obtain ⟨now, hmem, hearly⟩ := h
  exact ⟨now, hpast.subset hmem, hearly⟩

theorem works_store {c : StoreCall} {Q : Outcome c.Value → View M τ → Prop} :
    D.Works (store c) Q v ↔
      D.Asks (.store c) (fun (a : c.Answer) => Q (.ofExcept a)) v :=
  Iff.rfl

theorem works_transfer {c : TransferCall} {Q : Outcome c.Value → View M τ → Prop} :
    D.Works (transfer c) Q v ↔ D.Asks (.transfer c) Q v :=
  Iff.rfl

theorem works_now {Q : Outcome Instant → View M τ → Prop} :
    D.Works now Q v ↔ D.Asks .now (fun (t : Instant) => Q (.ofInRange t.reading?)) v :=
  Iff.rfl

theorem works_freshId {Q : Outcome PayoutId → View M τ → Prop} :
    D.Works freshId Q v ↔ D.Asks .freshId (fun (id : PayoutId) => Q (.ok id)) v :=
  Iff.rfl

theorem works_publish {e : Event} {Q : Outcome Unit → View M τ → Prop} :
    D.Works (publish e) Q v ↔ D.Asks (.publish e) (fun (u : Unit) => Q (.ok u)) v :=
  Iff.rfl

theorem works_dispatch {id : PayoutId} {Q : Outcome Unit → View M τ → Prop} :
    D.Works (dispatch id) Q v ↔ D.Asks (.dispatch id) (fun (u : Unit) => Q (.ok u)) v :=
  Iff.rfl

theorem works_pause {n : Nat} {Q : Outcome Unit → View M τ → Prop} :
    D.Works (pause n) Q v ↔ D.Asks (.pause n) (fun (u : Unit) => Q (.ok u)) v :=
  Iff.rfl

theorem works_supervise_iff {policy : RetryPolicy} {id : PayoutId}
    {Q : Outcome Unit → View M τ → Prop} :
    D.Works (supervise policy id) Q v ↔ D.Works (execute policy id) (fun o v' =>
      match o with
      | .error .crash =>
        D.Works (recordFailure policy id "execution task panicked") (fun o v'' =>
          match o with
          | .error .crash => Q (.error .crash) v''
          | _ => Q (.ok ()) v'') v'
      | _ => Q (.ok ()) v') v := by
  refine secure_bind.trans ?_
  constructor
  all_goals
    refine fun h => Secure.imp h ?_
    rintro ((e | _) | _) v' h'
    · exact h'
    · first
        | refine Secure.imp (secure_bind.mp h') ?_
        | refine secure_bind.mpr (Secure.imp h' ?_)
      rintro ((e | _) | _) v'' h''
      all_goals exact h''
    · exact h'

/-- Trying something again and again: `before` holds in front of every try, and `between` behind
every error. -/
theorem works_persist {act : Nat → Work α} {Q : Outcome α → View M τ → Prop}
    (before between : Nat → View M τ → Prop)
    (hact : ∀ n v, before n v → D.Works (act n) (fun o v' =>
      Q o v' ∧ ∀ e, o = .error (.error e) → between n v') v)
    (hpause : ∀ n k v, between n v → D.Asks (.pause k) (fun _ => before (n + 1)) v)
    (tries n : Nat) (h : before n v) : D.Works (persist act n tries) Q v := by
  induction tries generalizing n v with
  | zero => exact (hact n v h).imp fun o v' h' => h'.1
  | succ tries ih =>
      refine Works.bind (R := fun (o : Outcome (Except Error α)) v' =>
        match o with
        | .ok (.ok a) => Q (.ok a) v'
        | .ok (.error _) => between n v'
        | .error e => Q (.error e) v') (works_attempt.mpr ((hact n v h).imp ?_)) ?_ ?_
      · rintro ((e | _) | a) v' ⟨hQ, hbetween⟩
        · exact hbetween e rfl
        · exact hQ
        · exact hQ
      · rintro (e | a) v' - h'
        · refine Works.bind (R := fun o v'' => o = .ok () ∧ before (n + 1) v'')
            (works_pause.mpr ((hpause n _ v' h').imp fun _ v'' hbefore => ⟨rfl, hbefore⟩)) ?_ ?_
          · exact fun _ v'' _ h'' => ih (n + 1) h''.2
          · exact fun e v'' _ h'' => nomatch h''.1
        · exact h'
      · exact fun e v' _ h' => h'

end Disburse.Engine
