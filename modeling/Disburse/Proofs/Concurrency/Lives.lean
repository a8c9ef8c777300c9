import Disburse.Proofs.Concurrency.Discipline

namespace Disburse.Machine

variable {I : Interface} {M : Machine I} {τ : Type}

namespace Discipline

variable {D : Discipline M τ}

theorem Keeps.final_of_done {c : M.Config} {t : M.Thread} (h : D.Keeps c) (ht : t ∈ c.threads)
    (hdone : t.isDone = true) : ∃ value own, D.final t.op value t.past own := by
  obtain ⟨total, hstaffed, -⟩ := h
  obtain ⟨before, after, hthreads⟩ := List.append_of_mem ht
  rw [hthreads] at hstaffed
  obtain ⟨-, -, -, -, own, -, -, hguards, -⟩ := staffed_append.mp hstaffed
  obtain ⟨op, past, rest⟩ := t
  cases rest with
  | done value =>
      obtain ⟨-, left, hfinal⟩ := hguards
      exact ⟨value, left, hfinal⟩
  | ask r next => simp [Thread.isDone] at hdone

end Discipline

end Disburse.Machine
