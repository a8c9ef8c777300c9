import Disburse.Proofs.Concurrency.Machine
import Mathlib.Data.List.Induction

/-!
The turns of one thread. A run is followed to a move that resumes the thread; what the thread has
asked by the end is what it asked in its turns, each once.
-/

namespace Disburse.Machine

variable {I : Interface} {M : Machine I} {c : M.Config} {n : Nat} {t t' : M.Thread}
  {moves more first : List M.Move} {move : M.Move} {choice : M.Choice}
  {past : List (Exchange I)} {x : Exchange I}

/-- Thread `n`, with a past, asks behind some moves, and gets its answer by one more. -/
structure Turn (M : Machine I) (n : Nat) (first : List M.Move) (choice : M.Choice)
    (past : List (Exchange I)) (x : Exchange I) : Prop where
  thread : ∃ op next, (M.run first).threads[n]? = some ⟨op, past, .ask x.request next⟩ ∧
    (M.run (first ++ [.resume n choice])).threads[n]? = some ⟨op, past ++ [x], next x.answer⟩
  answered : M.answer choice x.request (M.run first).state =
    some (x.answer, (M.run (first ++ [.resume n choice])).state)

/-- One request of a thread. -/
def Thread.Continues (t : M.Thread) (x : Exchange I) (t' : M.Thread) : Prop :=
  ∃ op past next, t = ⟨op, past, .ask x.request next⟩ ∧ t' = ⟨op, past ++ [x], next x.answer⟩

theorem Config.resume_cases (c : M.Config) (n : Nat) (choice : M.Choice) :
    c.step (.resume n choice) = c ∨
      ∃ t x t', c.threads[n]? = some t ∧ t.Continues x t' ∧
        M.answer choice x.request c.state = some (x.answer, (c.step (.resume n choice)).state) ∧
        (c.step (.resume n choice)).threads =
          c.threads.set n t' ++ ((M.spawned x.request).map Thread.start).toList := by
  cases hadvance : c.threads[n]?.bind fun t => t.advance choice c.state with
  | none => exact .inl (by simp [step, hadvance])
  | some result =>
      obtain ⟨t', started, s⟩ := result
      obtain ⟨t, ht, hadvance'⟩ := Option.bind_eq_some_iff.mp hadvance
      obtain ⟨op, past, r, next, a, rfl, hanswer, rfl, rfl⟩ := Thread.advance_eq_some hadvance'
      refine .inr ⟨_, ⟨r, a⟩, _, ht, ⟨op, past, next, rfl, rfl⟩, ?_, ?_⟩
      · simpa [step, hadvance] using hanswer
      · simp [step, hadvance]

theorem Config.thread_step (ht : c.threads[n]? = some t) (move : M.Move) :
    (c.step move).threads[n]? = some t ∨
      ∃ choice x t', move = .resume n choice ∧ t.Continues x t' ∧
        (c.step move).threads[n]? = some t' ∧
        M.answer choice x.request c.state = some (x.answer, (c.step move).state) := by
  have hlt : n < c.threads.length := (List.getElem?_eq_some_iff.mp ht).1
  cases move with
  | start op =>
      left
      by_cases hopens : M.opens op c.isIdle
      · simpa [step, hopens, List.getElem?_append_left hlt] using ht
      · simpa [step, hopens] using ht
  | resume position choice =>
      rcases c.resume_cases position choice with hstep | ⟨t₀, x, t', ht₀, hnext, hanswer, hthreads⟩
      · exact .inl (by rwa [hstep])
      rw [hthreads, List.getElem?_append_left (by simpa using hlt)]
      by_cases hposition : position = n
      · subst hposition
        obtain rfl := Option.some.inj (ht₀.symm.trans ht)
        exact .inr ⟨choice, x, t', rfl, hnext, List.getElem?_set_self hlt, hanswer⟩
      · exact .inl (by rwa [List.getElem?_set_ne hposition])

theorem Config.thread_step_new (hnone : c.threads[n]? = none)
    (ht : (c.step move).threads[n]? = some t) : t.past = [] := by
  have hlen : c.threads.length ≤ n := List.getElem?_eq_none_iff.mp hnone
  obtain hstep | ⟨op, -, -, hstep⟩ |
    ⟨_, _, -, before, op, past, r, next, after, a, s, hthreads, -, hstep⟩ := c.step_cases move
  · rw [hstep, hnone] at ht
    cases ht
  · rw [hstep] at ht
    dsimp only at ht
    rw [List.getElem?_append_right hlen] at ht
    have hmem := List.mem_of_getElem? ht
    rw [List.mem_singleton.mp hmem]
    rfl
  · rw [hstep] at ht
    dsimp only at ht
    rw [hthreads] at hlen
    rw [List.getElem?_append_right (by simpa using hlen)] at ht
    have hmem := List.mem_of_getElem? ht
    rw [Option.mem_toList, Option.map_eq_some_iff] at hmem
    obtain ⟨started, -, rfl⟩ := hmem
    rfl

theorem exists_thread_later (ht : (M.run moves).threads[n]? = some t) (more : List M.Move) :
    ∃ t', (M.run (moves ++ more)).threads[n]? = some t' ∧ t'.op = t.op ∧ t.past <+: t'.past := by
  induction more using List.reverseRecOn with
  | nil => exact ⟨t, by simpa using ht, rfl, List.prefix_rfl⟩
  | append_singleton more move ih =>
      obtain ⟨t₁, ht₁, hop, hpast⟩ := ih
      rw [← List.append_assoc, run_append_singleton]
      obtain hsame | ⟨choice, x, t₂, -, ⟨op, past, next, rfl, rfl⟩, ht₂, -⟩ :=
        Config.thread_step ht₁ move
      · exact ⟨t₁, hsame, hop, hpast⟩
      · exact ⟨_, ht₂, hop, hpast.trans (List.prefix_append ..)⟩

theorem exists_turn (ht : (M.run moves).threads[n]? = some t) (hx : past ++ [x] <+: t.past) :
    ∃ first choice, first ++ [.resume n choice] <+: moves ∧ Turn M n first choice past x := by
  induction moves using List.reverseRecOn generalizing t with
  | nil => simp [run, Machine.start] at ht
  | append_singleton moves move ih =>
      have hprefix : moves <+: moves ++ [move] := List.prefix_append ..
      have hrun := run_append_singleton moves move
      rw [hrun] at ht
      cases ht₀ : (M.run moves).threads[n]? with
      | none =>
          rw [Config.thread_step_new ht₀ ht] at hx
          simp at hx
      | some t₀ =>
          obtain hsame | ⟨choice, y, t₁, rfl, ⟨op, past₀, next, rfl, rfl⟩, ht₁, hanswer⟩ :=
            Config.thread_step ht₀ move
          · obtain rfl := Option.some.inj (hsame.symm.trans ht)
            obtain ⟨first, choice, hfirst, hturn⟩ := ih ht₀ hx
            exact ⟨first, choice, hfirst.trans hprefix, hturn⟩
          obtain rfl := Option.some.inj (ht₁.symm.trans ht)
          rcases List.prefix_concat_iff.mp hx with heq | hx
          · obtain ⟨rfl, hlast⟩ := List.append_inj' heq rfl
            obtain rfl := List.singleton_inj.mp hlast
            exact ⟨moves, choice, List.prefix_rfl, ⟨op, next, ht₀, hrun ▸ ht₁⟩, hrun ▸ hanswer⟩
          · obtain ⟨first, choice', hfirst, hturn⟩ := ih ht₀ hx
            exact ⟨first, choice', hfirst.trans hprefix, hturn⟩

theorem turn_of_resume (ht : (M.run moves).threads[n]? = some t)
    (hfirst : first ++ [.resume n choice] <+: moves) :
    (M.run (first ++ [.resume n choice])).state = (M.run first).state ∨
      ∃ past x, past ++ [x] <+: t.past ∧ Turn M n first choice past x := by
  have hrun := run_append_singleton first (.resume n choice)
  obtain hstep | ⟨_, x, _, ht₀, ⟨op, past, next, rfl, rfl⟩, hanswer, hthreads⟩ :=
    (M.run first).resume_cases n choice
  · exact .inl (by rw [hrun, hstep])
  rw [← hrun] at hanswer hthreads
  have hlt : n < (M.run first).threads.length := (List.getElem?_eq_some_iff.mp ht₀).1
  have ht₁ : (M.run (first ++ [.resume n choice])).threads[n]? =
      some ⟨op, past ++ [x], next x.answer⟩ := by
    rw [hthreads, List.getElem?_append_left (by simpa using hlt), List.getElem?_set_self hlt]
  refine .inr ⟨past, x, ?_, ⟨op, next, ht₀, ht₁⟩, hanswer⟩
  obtain ⟨more, rfl⟩ := hfirst
  obtain ⟨t', ht', -, hpast⟩ := exists_thread_later ht₁ more
  obtain rfl := Option.some.inj (ht'.symm.trans ht)
  exact hpast

/-- A thread has each of its turns once. -/
theorem Turn.unique {second : List M.Move} {choice' : M.Choice} {y : Exchange I}
    (h : Turn M n first choice past x) (h' : Turn M n second choice' past y)
    (hfirst : first ++ [.resume n choice] <+: moves)
    (hsecond : second ++ [.resume n choice'] <+: moves) : first = second := by
  have hle : ∀ {first second : List M.Move} {choice choice' x y},
      Turn M n first choice past x → Turn M n second choice' past y →
      first ++ [.resume n choice] <+: moves → second ++ [.resume n choice'] <+: moves →
      second.length ≤ first.length := by
    intro first second choice choice' x y h h' hfirst hsecond
    by_contra hlt
    have hprefix : first ++ [.resume n choice] <+: second :=
      List.prefix_of_prefix_length_le hfirst ((List.prefix_append ..).trans hsecond)
        (by simp; omega)
    obtain ⟨op, next, -, ht⟩ := h.thread
    obtain ⟨op', next', ht', -⟩ := h'.thread
    obtain ⟨more, rfl⟩ := hprefix
    obtain ⟨t, ht'', -, hpast⟩ := exists_thread_later ht more
    obtain rfl := Option.some.inj (ht''.symm.trans ht')
    have hlen : (past ++ [x]).length ≤ past.length := hpast.length_le
    rw [List.length_append, List.length_singleton] at hlen
    omega
  exact (List.prefix_of_prefix_length_le ((List.prefix_append ..).trans hfirst)
    ((List.prefix_append ..).trans hsecond) (hle h' h hsecond hfirst)).eq_of_length_le
      (hle h h' hfirst hsecond)

end Disburse.Machine
