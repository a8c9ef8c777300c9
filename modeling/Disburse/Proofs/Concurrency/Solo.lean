import Disburse.Proofs.Concurrency.Machine

/-!
One program by itself. Surroundings that answer every request bring it to its end, and leave a
trace of what was asked and answered. How it ends is worked out backwards from what should hold
then, request by request.
-/

namespace Disburse

variable {I : Interface} {α β σ : Type}

namespace Program

/-- The requests of a program that is run by itself. -/
def trace (answer : Surroundings I σ) : Program I α → σ → List (Exchange I)
  | done _, _ => []
  | ask r next, s =>
    ⟨r, (answer r s).1⟩ :: (next (answer r s).1).trace answer (answer r s).2

/-- A program, run from a state behind a past, ends as `Q` says. -/
def Ends (answer : Surroundings I σ) (p : Program I α) (Q : α → σ → List (Exchange I) → Prop)
    (s : σ) (past : List (Exchange I)) : Prop :=
  Q (p.run answer s).1 (p.run answer s).2 (past ++ p.trace answer s)

variable {answer : Surroundings I σ} {s : σ} {past : List (Exchange I)}

theorem ends_done {a : α} {Q : α → σ → List (Exchange I) → Prop} :
    (done a).Ends answer Q s past ↔ Q a s past := by
  simp [Ends, run, trace]

theorem ends_ask {r : I.Request} {next : I.Answer r → Program I α}
    {Q : α → σ → List (Exchange I) → Prop} :
    (ask r next).Ends answer Q s past ↔
      (next (answer r s).1).Ends answer Q (answer r s).2 (past ++ [⟨r, (answer r s).1⟩]) := by
  simp [Ends, run, trace]

theorem ends_bind {p : Program I α} {f : α → Program I β}
    {Q : β → σ → List (Exchange I) → Prop} :
    (p.bind f).Ends answer Q s past ↔
      p.Ends answer (fun a s' past' => (f a).Ends answer Q s' past') s past := by
  induction p generalizing s past with
  | done a =>
      exact (ends_done (Q := fun a s' past' => (f a).Ends answer Q s' past')).symm
  | ask r next ih => exact ends_ask.trans ((ih _).trans ends_ask.symm)

theorem Ends.imp {p : Program I α} {Q R : α → σ → List (Exchange I) → Prop}
    (h : p.Ends answer Q s past) (himp : ∀ a s' past', Q a s' past' → R a s' past') :
    p.Ends answer R s past :=
  himp _ _ _ h

theorem run_related_of_trace {R : σ → σ → Prop} {K : I.Request → Prop} (hrefl : ∀ s, R s s)
    (htrans : ∀ {s s' s''}, R s s' → R s' s'' → R s s'')
    (hanswer : ∀ r s, K r → R s (answer r s).2) (p : Program I α) (s : σ)
    (h : ∀ x ∈ p.trace answer s, K x.request) : R s (p.run answer s).2 := by
  induction p generalizing s with
  | done a => exact hrefl s
  | ask r next ih =>
      obtain ⟨hr, hnext⟩ := List.forall_mem_cons.mp h
      exact htrans (hanswer r s hr) (ih _ _ hnext)

theorem run_related {R : σ → σ → Prop} (hrefl : ∀ s, R s s)
    (htrans : ∀ {s s' s''}, R s s' → R s' s'' → R s s'') (hanswer : ∀ r s, R s (answer r s).2)
    (p : Program I α) (s : σ) : R s (p.run answer s).2 :=
  run_related_of_trace (K := fun _ => True) hrefl htrans (fun r s _ => hanswer r s) p s
    fun _ _ => trivial

theorem run_bind (p : Program I α) (f : α → Program I β) (s : σ) :
    (p.bind f).run answer s = (f (p.run answer s).1).run answer (p.run answer s).2 := by
  induction p generalizing s with
  | done a => rfl
  | ask r next ih => exact ih _ _

theorem run_supply {J : Interface} {f : (r : I.Request) → Program J (I.Answer r)}
    {answer : Surroundings J σ} (p : Program I α) (s : σ) :
    (p.supply f).run answer s = p.run (fun r s => (f r).run answer s) s := by
  induction p generalizing s with
  | done a => rfl
  | ask r next ih => exact (run_bind _ _ _).trans (ih _ _)

end Program

namespace Task

open Program

/-- A task, run from a state behind a past, ends as `Q` says. -/
def Ends (answer : Surroundings I σ) (t : Task I α)
    (Q : Outcome α → σ → List (Exchange I) → Prop) : σ → List (Exchange I) → Prop :=
  t.outcome.Ends answer Q

variable {answer : Surroundings I σ} {s : σ} {past : List (Exchange I)}
  {Q : Outcome α → σ → List (Exchange I) → Prop}

theorem Ends.imp {R : Outcome α → σ → List (Exchange I) → Prop} {t : Task I α}
    (h : t.Ends answer Q s past) (himp : ∀ o s' past', Q o s' past' → R o s' past') :
    t.Ends answer R s past :=
  Program.Ends.imp h himp

theorem ends_ofOutcome {o : Outcome α} : (ofOutcome o).Ends answer Q s past ↔ Q o s past :=
  ends_done

theorem ends_pure {a : α} : Ends answer (pure a : Task I α) Q s past ↔ Q (.ok a) s past :=
  ends_done

theorem ends_fail {e : Error} : Ends answer (fail e) Q s past ↔ Q (.error (.error e)) s past :=
  ends_done

theorem ends_bind {t : Task I β} {f : β → Task I α} :
    Ends answer (t >>= f) Q s past ↔
      t.Ends answer (fun o s' past' =>
        match o with
        | .ok b => (f b).Ends answer Q s' past'
        | .error e => Q (.error e) s' past') s past := by
  refine Program.ends_bind.trans ?_
  constructor
  all_goals
    refine fun h => Program.Ends.imp h ?_
    rintro (e | b) s' past' h'
  · exact ends_done.mp h'
  · exact h'
  · exact ends_done.mpr h'
  · exact h'

theorem Ends.related {R : σ → σ → Prop} {K : I.Request → Prop} {t : Task I α} (hrefl : ∀ s, R s s)
    (htrans : ∀ {s s' s''}, R s s' → R s' s'' → R s s'')
    (hanswer : ∀ r s, K r → R s (answer r s).2) (h : t.Ends answer Q s past) :
    t.Ends answer (fun o s' past' => Q o s' past' ∧
      ∃ xs, past' = past ++ xs ∧ ((∀ x ∈ xs, K x.request) → R s s')) s past :=
  ⟨h, _, rfl, run_related_of_trace hrefl htrans hanswer t.outcome s⟩

theorem ends_attempt {t : Task I α} {Q : Outcome (Except Error α) → σ → List (Exchange I) → Prop} :
    t.attempt.Ends answer Q s past ↔
      t.Ends answer (fun o =>
        match o with
        | .ok a => Q (.ok (.ok a))
        | .error (.error e) => Q (.ok (.error e))
        | .error .crash => Q (.error .crash)) s past := by
  refine Program.ends_bind.trans ?_
  constructor
  all_goals
    refine fun h => Program.Ends.imp h ?_
    rintro ((e | _) | a) s' past' h'
    all_goals first
      | exact (ends_done (Q := Q)).mp h'
      | exact (ends_done (Q := Q)).mpr h'

end Task

end Disburse
