import Disburse.Proofs.Concurrency.Conduct
import Disburse.Proofs.Concurrency.Solo

/-!
One program in surroundings that differ. What a program asks and how it ends is decided by the
answers that it gets, so that it runs alike wherever the requests that its code allows are answered
alike.
-/

namespace Disburse

variable {I : Interface} {α σ τ : Type}

/-- What two programs asked and were told, where a request behind the same exchanges is answered
the same. -/
def AnsweredAlike (xs ys : List (Exchange I)) : Prop :=
  ∀ before x y, before ++ [x] <+: xs → before ++ [y] <+: ys → x.request = y.request → x = y

theorem AnsweredAlike.tail {x : Exchange I} {xs ys : List (Exchange I)}
    (h : AnsweredAlike (x :: xs) (x :: ys)) : AnsweredAlike xs ys := by
  intro before y z hy hz hrequest
  refine h (x :: before) y z ?_ ?_ hrequest
  · exact (List.prefix_cons_inj x).mpr hy
  · exact (List.prefix_cons_inj x).mpr hz

namespace Program

theorem reaches_trace (answer : Surroundings I σ) (p : Program I α) (s : σ) :
    p.Reaches (p.trace answer s) (.done (p.run answer s).1) := by
  induction p generalizing s with
  | done a => exact .refl _
  | ask r next ih => exact .ask (ih _ _)

theorem Reaches.unique {p : Program I α} {xs ys : List (Exchange I)} {a b : α}
    (h : p.Reaches xs (.done a)) (h' : p.Reaches ys (.done b)) (halike : AnsweredAlike xs ys) :
    xs = ys ∧ a = b := by
  generalize hend : Program.done a = last at h
  induction h generalizing ys with
  | refl p =>
      subst hend
      cases h' with
      | refl _ => exact ⟨rfl, rfl⟩
  | @ask r next answer xs last _ ih =>
      cases h' with
      | @ask _ _ answer' ys _ h' =>
          have hsame : (⟨r, answer⟩ : Exchange I) = ⟨r, answer'⟩ :=
            halike [] _ _ (by simp) (by simp) rfl
          cases hsame
          obtain ⟨rfl, rfl⟩ := ih h' halike.tail hend
          exact ⟨rfl, rfl⟩

end Program

namespace Code

open Program

variable {C : Code I} {p : Program I α} {Q : α → List (Exchange I) → Prop}
  {past : List (Exchange I)} {answer : Surroundings I σ} {s : σ}

/-- What is kept by the answers to requests in order, and makes these answers count, holds when a
program that obeys the code has ended. -/
theorem Obeys.ends {S : σ → Prop} (h : C.Obeys p Q past)
    (hanswer : ∀ past r s, S s → C.allows past r →
      C.faithful ⟨r, (answer r s).1⟩ ∧ S (answer r s).2)
    (hs : S s) :
    p.Ends answer (fun a s' past' => Q a past' ∧ S s' ∧
      ∃ xs, past' = past ++ xs ∧ ∀ x ∈ xs, ∃ before, C.allows before x.request) s past := by
  induction p generalizing s past with
  | done a => exact Program.ends_done.mpr ⟨h, hs, [], (List.append_nil past).symm, by simp⟩
  | ask r next ih =>
      obtain ⟨hfaithful, hs'⟩ := hanswer past r s hs h.1
      rw [Program.ends_ask]
      refine (ih _ (h.2 _ hfaithful) hs').imp ?_
      rintro a s' past' ⟨hQ, hS, xs, rfl, hxs⟩
      refine ⟨hQ, hS, ⟨r, (answer r s).1⟩ :: xs, by simp, ?_⟩
      rintro x (_ | ⟨_, hx⟩)
      · exact ⟨past, h.1⟩
      · exact hxs x hx

/-- Two surroundings in which the requests that a code allows are answered alike, as long as their
states are related. -/
def AlikeUnder (C : Code I) (answer : Surroundings I σ) (answer' : Surroundings I τ)
    (R : σ → τ → Prop) : Prop :=
  ∀ past r s t, R s t → C.allows past r →
    (answer r s).1 = (answer' r t).1 ∧ C.faithful ⟨r, (answer r s).1⟩ ∧
      R (answer r s).2 (answer' r t).2

theorem Obeys.run_alike {answer' : Surroundings I τ} {R : σ → τ → Prop} {t : τ}
    (h : C.Obeys p Q past) (halike : C.AlikeUnder answer answer' R) (hst : R s t) :
    (p.run answer s).1 = (p.run answer' t).1 ∧ p.trace answer s = p.trace answer' t ∧
      R (p.run answer s).2 (p.run answer' t).2 := by
  induction p generalizing s t past with
  | done a => exact ⟨rfl, rfl, hst⟩
  | ask r next ih =>
      obtain ⟨hanswer, hfaithful, hst'⟩ := halike past r s t hst h.1
      obtain ⟨hvalue, htrace, hlast⟩ := ih _ (h.2 _ hfaithful) hst'
      rw [hanswer] at hvalue htrace hlast
      have hrun : (ask r next).run answer s =
          (next (answer' r t).1).run answer (answer r s).2 := by
        rw [← hanswer]
        rfl
      rw [hrun, Program.trace, Program.trace, hanswer, htrace]
      exact ⟨hvalue, rfl, hlast⟩

end Code

end Disburse
