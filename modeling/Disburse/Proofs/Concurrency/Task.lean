import Disburse.Proofs.Concurrency.Discipline

namespace Disburse.Machine.Discipline

variable {I : Interface} {M : Machine I} {τ : Type} {α β : Type}

def Works (D : Discipline M τ) (t : Task I α) (Q : Outcome α → View M τ → Prop) :
    View M τ → Prop :=
  D.Secure t.outcome Q

variable {D : Discipline M τ} {Q : Outcome α → View M τ → Prop} {v : View M τ}

theorem Works.imp {R : Outcome α → View M τ → Prop} {t : Task I α} (h : D.Works t Q v)
    (himp : ∀ o v', Q o v' → R o v') : D.Works t R v :=
  Secure.imp h himp

theorem Works.with_later {t : Task I α} (h : D.Works t Q v) :
    D.Works t (fun o v' => Q o v' ∧ D.later 0 v.state v'.state) v :=
  Secure.with_later h

theorem Works.with_past {t : Task I α} (h : D.Works t Q v) :
    D.Works t (fun o v' => Q o v' ∧ v.past <+: v'.past) v :=
  Secure.with_past h

theorem works_ofOutcome {o : Outcome α} : D.Works (Task.ofOutcome o) Q v ↔ Q o v :=
  Iff.rfl

theorem works_ofExcept {r : Except Error α} :
    D.Works (Task.ofOutcome (.ofExcept r)) (fun o v' => v' = v ∧ ∀ a, o = .ok a → r = .ok a) v := by
  rw [works_ofOutcome]
  refine ⟨rfl, fun a ha => ?_⟩
  cases r with
  | error e => cases ha
  | ok b => exact congrArg Except.ok (Except.ok.inj ha)

theorem works_ofInRange {r : Option α} :
    D.Works (Task.ofOutcome (.ofInRange r)) (fun o v' => v' = v ∧ ∀ a, o = .ok a → r = some a)
      v := by
  rw [works_ofOutcome]
  refine ⟨rfl, fun a ha => ?_⟩
  cases r with
  | none => cases ha
  | some b => exact congrArg some (Except.ok.inj ha)

theorem works_pure {a : α} : D.Works (pure a) Q v ↔ Q (.ok a) v :=
  Iff.rfl

theorem works_fail {e : Error} : D.Works (Task.fail e) Q v ↔ Q (.error (.error e)) v :=
  Iff.rfl

theorem works_bind {t : Task I β} {f : β → Task I α} :
    D.Works (t >>= f) Q v ↔
      D.Works t (fun o v' =>
        match o with
        | .ok b => D.Works (f b) Q v'
        | .error e => Q (.error e) v') v := by
  refine secure_bind.trans ?_
  constructor
  all_goals
    refine fun h => Secure.imp h ?_
    rintro (e | b) v' h'
    all_goals exact h'

theorem Works.bind {R : Outcome β → View M τ → Prop} {t : Task I β} {f : β → Task I α}
    (ht : D.Works t R v)
    (hf : ∀ b v', D.later 0 v.state v'.state → R (.ok b) v' → D.Works (f b) Q v')
    (herror : ∀ e v', D.later 0 v.state v'.state → R (.error e) v' → Q (.error e) v') :
    D.Works (t >>= f) Q v := by
  rw [works_bind]
  refine ht.with_later.imp ?_
  rintro (e | b) v' ⟨h, hlater⟩
  · exact herror e v' hlater h
  · exact hf b v' hlater h

theorem Works.andThen {R : Outcome β → View M τ → Prop} {t : Task I β} {f : β → Task I α}
    (ht : D.Works t R v)
    (hf : ∀ b v', D.later 0 v.state v'.state → R (.ok b) v' →
      D.Works (f b) (fun _ _ => True) v') :
    D.Works (t >>= f) (fun _ _ => True) v :=
  ht.bind hf fun _ _ _ _ => trivial

theorem works_attempt {t : Task I α} {Q : Outcome (Except Error α) → View M τ → Prop} :
    D.Works t.attempt Q v ↔
      D.Works t (fun o =>
        match o with
        | .ok a => Q (.ok (.ok a))
        | .error (.error e) => Q (.ok (.error e))
        | .error .crash => Q (.error .crash)) v := by
  refine secure_bind.trans ?_
  constructor
  all_goals
    refine fun h => Secure.imp h ?_
    rintro ((e | _) | a) v' h'
    all_goals exact h'

theorem Works.attempt {t : Task I α} {Q : View M τ → Prop} (h : D.Works t (fun _ => Q) v) :
    D.Works t.attempt (fun _ => Q) v := by
  rw [works_attempt]
  refine h.imp ?_
  rintro ((e | _) | a) v' h'
  all_goals exact h'

end Disburse.Machine.Discipline
