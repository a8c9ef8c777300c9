import Disburse.Proofs.Concurrency.Machine
import Mathlib.Algebra.Order.Group.Multiset
import Mathlib.Data.List.Induction

/-!
Threads that keep to a discipline. A discipline says what always holds of the shared state, how
the state may change behind the back of a thread, and what each request may do. Threads own
tokens, each of which belongs to one thread at a time, so that a thread may rely on more than the
others guarantee in general. If every program keeps to the discipline by itself, whatever the
others do between its requests, then every run of all of them together keeps to it.
-/

namespace Disburse.Machine

variable {I : Interface} {M : Machine I} {τ : Type}

/-- What one thread can tell: the shared state, its tokens, and its own requests so far. -/
structure View (M : Machine I) (τ : Type) where
  state : M.State
  own : Multiset τ
  past : List (Exchange I)

/-- How threads share what nobody else may touch: by tokens that they own and hand on. -/
structure Discipline (M : Machine I) (τ : Type) where
  /-- What always holds of the state and the tokens of all threads together. -/
  holds : M.State → Multiset τ → Prop
  /-- How the state may change while a thread with these tokens waits. -/
  later : Multiset τ → M.State → M.State → Prop
  /-- What a request may do, given the earlier requests of its thread. -/
  permits : List (Exchange I) → (r : I.Request) → I.Answer r → M.State → M.State → Prop
  /-- What an operation may count on when it starts. -/
  entry : M.Op → M.State → Multiset τ → Prop
  /-- What an operation leaves behind when it ends. -/
  final : (op : M.Op) → M.Value op → List (Exchange I) → Multiset τ → Prop
  later_refl : ∀ own s, later own s s
  later_trans : ∀ {own s s' s''}, later own s s' → later own s' s'' → later own s s''
  later_mono : ∀ {own all s s'}, own ≤ all → later all s s' → later own s s'
  release : ∀ {op value past own others s}, final op value past own →
    holds s (own + others) → holds s others

namespace Discipline

variable (D : Discipline M τ)

/-- What a request hands over to the thread that it starts. -/
def Hands (r : I.Request) (s : M.State) (given : Multiset τ) : Prop :=
  match M.spawned r with
  | none => given = 0
  | some op => D.entry op s given

/-- A request is in order from a view on, whatever happens before it, and leads to a view that
satisfies `Q`. -/
def Asks (r : I.Request) (Q : I.Answer r → View M τ → Prop) (v : View M τ) : Prop :=
  ∀ s others, D.later v.own v.state s → D.holds s (v.own + others) →
    ∀ choice a s', M.answer choice r s = some (a, s') →
      ∃ own given, D.holds s' (own + given + others) ∧ D.permits v.past r a s s' ∧
        D.later others s s' ∧ D.Hands r s' given ∧ Q a ⟨s', own, v.past ++ [⟨r, a⟩]⟩

/-- All requests of a program are in order, and it ends in a view that satisfies `Q`. -/
def Secure {α : Type} : Program I α → (α → View M τ → Prop) → View M τ → Prop
  | .done a, Q => Q a
  | .ask r next, Q => D.Asks r fun a => Secure (next a) Q

variable {D} {α β : Type}

theorem Asks.imp {r : I.Request} {Q R : I.Answer r → View M τ → Prop} {v : View M τ}
    (h : D.Asks r Q v) (himp : ∀ a v', Q a v' → R a v') : D.Asks r R v := by
  intro s others hlater hholds choice a s' hanswer
  obtain ⟨own, given, hholds', hpermits, hlater', hhands, hQ⟩ :=
    h s others hlater hholds choice a s' hanswer
  exact ⟨own, given, hholds', hpermits, hlater', hhands, himp _ _ hQ⟩

theorem Asks.of_later {r : I.Request} {Q : I.Answer r → View M τ → Prop} {s s' : M.State}
    {own : Multiset τ} {past : List (Exchange I)} (h : D.Asks r Q ⟨s, own, past⟩)
    (hlater : D.later own s s') : D.Asks r Q ⟨s', own, past⟩ := by
  intro s'' others hlater'
  exact h s'' others (D.later_trans hlater hlater')

theorem Secure.imp {p : Program I α} {Q R : α → View M τ → Prop} {v : View M τ}
    (h : D.Secure p Q v) (himp : ∀ a v', Q a v' → R a v') : D.Secure p R v := by
  induction p generalizing v with
  | done a => exact himp a v h
  | ask r next ih => exact Asks.imp h fun a v' hnext => ih a hnext

theorem secure_bind {p : Program I α} {f : α → Program I β} {Q : β → View M τ → Prop}
    {v : View M τ} :
    D.Secure (p.bind f) Q v ↔ D.Secure p (fun a => D.Secure (f a) Q) v := by
  induction p generalizing v with
  | done a => rfl
  | ask r next ih =>
      constructor
      · exact fun h => Asks.imp h fun a v' => (ih a).mp
      · exact fun h => Asks.imp h fun a v' => (ih a).mpr

theorem Secure.with_later {p : Program I α} {Q : α → View M τ → Prop} {v : View M τ}
    (h : D.Secure p Q v) :
    D.Secure p (fun a v' => Q a v' ∧ D.later 0 v.state v'.state) v := by
  induction p generalizing v with
  | done a => exact ⟨h, D.later_refl ..⟩
  | ask r next ih =>
      intro s others hlater hholds choice a s' hanswer
      obtain ⟨own, given, hholds', hpermits, hlater', hhands, hnext⟩ :=
        h s others hlater hholds choice a s' hanswer
      have hstep : D.later 0 v.state s' :=
        D.later_trans (D.later_mono (Multiset.zero_le _) hlater)
          (D.later_mono (Multiset.zero_le _) hlater')
      refine ⟨own, given, hholds', hpermits, hlater', hhands, ?_⟩
      exact (ih a hnext).imp fun b v' hb => ⟨hb.1, D.later_trans hstep hb.2⟩

theorem Secure.with_past {p : Program I α} {Q : α → View M τ → Prop} {v : View M τ}
    (h : D.Secure p Q v) : D.Secure p (fun a v' => Q a v' ∧ v.past <+: v'.past) v := by
  induction p generalizing v with
  | done a => exact ⟨h, List.prefix_rfl⟩
  | ask r next ih =>
      intro s others hlater hholds choice a s' hanswer
      obtain ⟨own, given, hholds', hpermits, hlater', hhands, hnext⟩ :=
        h s others hlater hholds choice a s' hanswer
      refine ⟨own, given, hholds', hpermits, hlater', hhands, ?_⟩
      exact (ih a hnext).imp fun b v' hb => ⟨hb.1, (List.prefix_append ..).trans hb.2⟩

variable (D)

/-- A thread with these tokens keeps to the discipline from a state on. -/
def Guards (s : M.State) (t : M.Thread) (own : Multiset τ) : Prop :=
  match t with
  | ⟨op, past, .done value⟩ => own = 0 ∧ ∃ left, D.final op value past left
  | ⟨op, past, .ask r next⟩ =>
    D.Secure (.ask r next) (fun value v => D.final op value v.past v.own) ⟨s, own, past⟩

/-- Every thread guards its part of the tokens. -/
def Staffed (s : M.State) : List M.Thread → Multiset τ → Prop
  | [], total => total = 0
  | t :: ts, total => ∃ own rest, total = own + rest ∧ D.Guards s t own ∧ Staffed s ts rest

/-- Every operation keeps to the discipline by itself, and may be started where the machine
allows it. -/
structure Adequate : Prop where
  initial : D.holds M.initial 0
  opens : ∀ {op idle s total}, M.opens op idle → (idle → total = 0) → D.holds s total →
    ∃ own, D.entry op s own ∧ D.holds s (own + total)
  secure : ∀ {op s own}, D.entry op s own →
    D.Secure (M.program op) (fun value v => D.final op value v.past v.own) ⟨s, own, []⟩

/-- The tokens of all threads together are those that the state calls for. -/
def Keeps (c : M.Config) : Prop :=
  ∃ total, D.Staffed c.state c.threads total ∧ D.holds c.state total

variable {D} {s s' : M.State} {t : M.Thread} {ts ts' : List M.Thread} {own total : Multiset τ}

theorem Guards.of_later (h : D.Guards s t own) (hlater : D.later own s s') :
    D.Guards s' t own := by
  obtain ⟨op, past, rest⟩ := t
  cases rest with
  | done value => exact h
  | ask r next => exact Asks.of_later h hlater

theorem guards_of_secure {op : M.Op} {past : List (Exchange I)} {p : Program I (M.Value op)}
    (others : Multiset τ)
    (h : D.Secure p (fun value v => D.final op value v.past v.own) ⟨s, own, past⟩)
    (hholds : D.holds s (own + others)) :
    ∃ own', D.Guards s ⟨op, past, p⟩ own' ∧ D.holds s (own' + others) := by
  cases p with
  | done value =>
      exact ⟨0, ⟨rfl, own, h⟩, by simpa using D.release h hholds⟩
  | ask r next => exact ⟨own, h, hholds⟩

theorem staffed_append :
    D.Staffed s (ts ++ ts') total ↔
      ∃ first second, total = first + second ∧ D.Staffed s ts first ∧ D.Staffed s ts' second := by
  induction ts generalizing total with
  | nil => simp [Staffed]
  | cons t ts ih =>
      simp only [List.cons_append, Staffed, ih]
      constructor
      · rintro ⟨own, _, rfl, hguards, first, second, rfl, hfirst, hsecond⟩
        exact ⟨own + first, second, (add_assoc ..).symm, ⟨own, first, rfl, hguards, hfirst⟩,
          hsecond⟩
      · rintro ⟨_, second, rfl, ⟨own, rest, rfl, hguards, hfirst⟩, hsecond⟩
        exact ⟨own, rest + second, add_assoc .., hguards, rest, second, rfl, hfirst, hsecond⟩

theorem Staffed.of_later (h : D.Staffed s ts total) (hlater : D.later total s s') :
    D.Staffed s' ts total := by
  induction ts generalizing total with
  | nil => exact h
  | cons t ts ih =>
      obtain ⟨own, rest, rfl, hguards, hrest⟩ := h
      exact ⟨own, rest, rfl,
        hguards.of_later (D.later_mono (Multiset.le_add_right own rest) hlater),
        ih hrest (D.later_mono (Multiset.le_add_left rest own) hlater)⟩

theorem staffed_singleton : D.Staffed s [t] total ↔ D.Guards s t total := by
  simp [Staffed]

theorem Staffed.eq_zero (h : D.Staffed s ts total) (hdone : ts.all Thread.isDone = true) :
    total = 0 := by
  induction ts generalizing total with
  | nil => exact h
  | cons t ts ih =>
      obtain ⟨own, rest, rfl, hguards, hrest⟩ := h
      rw [List.all_cons, Bool.and_eq_true] at hdone
      obtain ⟨op, past, p⟩ := t
      cases p with
      | done value => rw [hguards.1, ih hrest hdone.2, add_zero]
      | ask r next => simp [Thread.isDone] at hdone

theorem keeps_start (h : D.Adequate) : D.Keeps M.start :=
  ⟨0, rfl, h.initial⟩

theorem Adequate.staffed_start {op : M.Op} {others : Multiset τ} (h : D.Adequate)
    (hentry : D.entry op s own) (hholds : D.holds s (own + others)) :
    ∃ own', D.Staffed s [.start op] own' ∧ D.holds s (own' + others) := by
  obtain ⟨own', hguards, hholds'⟩ := guards_of_secure others (h.secure hentry) hholds
  exact ⟨own', staffed_singleton.mpr hguards, hholds'⟩

theorem Adequate.staffed_spawned {r : I.Request} {given : Multiset τ} (others : Multiset τ)
    (h : D.Adequate) (hhands : D.Hands r s given) (hholds : D.holds s (given + others)) :
    ∃ own', D.Staffed s ((M.spawned r).map Thread.start).toList own' ∧
      D.holds s (own' + others) := by
  unfold Hands at hhands
  cases hspawned : M.spawned r with
  | none =>
      rw [hspawned] at hhands
      exact ⟨0, rfl, by simpa [hhands] using hholds⟩
  | some op =>
      rw [hspawned] at hhands
      exact h.staffed_start hhands hholds

/-- One request of one thread. Gives what the request was permitted to do, and how it looked to
threads without tokens. -/
theorem Adequate.staffed_ask (h : D.Adequate) {before after : List M.Thread} {op : M.Op}
    {past : List (Exchange I)} {r : I.Request} {next : I.Answer r → Program I (M.Value op)}
    {choice : M.Choice} {a : I.Answer r}
    (hstaffed : D.Staffed s (before ++ ⟨op, past, .ask r next⟩ :: after) total)
    (hholds : D.holds s total) (hanswer : M.answer choice r s = some (a, s')) :
    (∃ total', D.Staffed s' (before ++ ⟨op, past ++ [⟨r, a⟩], next a⟩ :: after ++
        ((M.spawned r).map Thread.start).toList) total' ∧ D.holds s' total') ∧
      D.permits past r a s s' ∧ D.later 0 s s' := by
  obtain ⟨first, _, rfl, hbefore, own, second, rfl, hguards, hafter⟩ :=
    staffed_append.mp hstaffed
  have hholds₁ : D.holds s (own + (first + second)) := by
    rwa [add_left_comm]
  obtain ⟨own', given, hholds₂, hpermits, hlater, hhands, hsecure⟩ :=
    hguards s (first + second) (D.later_refl ..) hholds₁ choice a s' hanswer
  have hbefore' := hbefore.of_later (D.later_mono (Multiset.le_add_right ..) hlater)
  have hafter' := hafter.of_later (D.later_mono (Multiset.le_add_left ..) hlater)
  -- First the thread itself, which may have ended by this, then the thread that it starts.
  obtain ⟨mine, hmine, hholds₃⟩ := guards_of_secure (given + (first + second)) hsecure
    (by rwa [← add_assoc])
  obtain ⟨new, hnew, hholds₄⟩ := h.staffed_spawned (mine + (first + second)) hhands
    (by rwa [add_left_comm])
  refine ⟨⟨first + (mine + second) + new, ?_, ?_⟩, hpermits,
    D.later_mono (Multiset.zero_le _) hlater⟩
  · exact staffed_append.mpr ⟨_, new, rfl,
      staffed_append.mpr ⟨first, _, rfl, hbefore', mine, second, rfl, hmine, hafter'⟩, hnew⟩
  · rwa [add_left_comm mine, add_comm new] at hholds₄

theorem Adequate.keeps_step (h : D.Adequate) {c : M.Config} (hc : D.Keeps c) (move : M.Move) :
    D.Keeps (c.step move) ∧ D.later 0 c.state (c.step move).state := by
  obtain ⟨total, hstaffed, hholds⟩ := hc
  obtain hstep | ⟨op, -, hopens, hstep⟩ |
    ⟨-, choice, -, before, op, past, r, next, after, a, s, hthreads, hanswer, hstep⟩ :=
    c.step_cases move
  · rw [hstep]
    exact ⟨⟨total, hstaffed, hholds⟩, D.later_refl ..⟩
  · have hidle : c.isIdle = true → total = 0 := hstaffed.eq_zero
    obtain ⟨own, hentry, hholds'⟩ := h.opens hopens hidle hholds
    obtain ⟨own', hnew, hholds''⟩ := h.staffed_start hentry hholds'
    rw [hstep]
    exact ⟨⟨total + own', staffed_append.mpr ⟨total, own', rfl, hstaffed, hnew⟩,
      by rwa [add_comm]⟩, D.later_refl ..⟩
  · rw [hthreads] at hstaffed
    obtain ⟨hkeeps, -, hlater⟩ := h.staffed_ask hstaffed hholds hanswer
    rw [hstep]
    exact ⟨hkeeps, hlater⟩

theorem Adequate.keeps_run (h : D.Adequate) (moves : List M.Move) : D.Keeps (M.run moves) := by
  induction moves using List.reverseRecOn with
  | nil => exact keeps_start h
  | append_singleton moves move ih =>
      rw [run_append_singleton]
      exact (h.keeps_step ih move).1

theorem Adequate.holds_run (h : D.Adequate) (moves : List M.Move) :
    ∃ total, D.holds (M.run moves).state total := by
  obtain ⟨total, -, hholds⟩ := h.keeps_run moves
  exact ⟨total, hholds⟩

theorem Adequate.later_run (h : D.Adequate) (moves more : List M.Move) :
    D.later 0 (M.run moves).state (M.run (moves ++ more)).state := by
  induction more using List.reverseRecOn with
  | nil => simpa using D.later_refl 0 (M.run moves).state
  | append_singleton more move ih =>
      rw [← List.append_assoc, run_append_singleton]
      exact D.later_trans ih (h.keeps_step (h.keeps_run _) move).2

theorem Adequate.permits_step (h : D.Adequate) (moves : List M.Move) (move : M.Move) :
    ((M.run moves).step move).state = (M.run moves).state ∨
      ∃ past r a, D.permits past r a (M.run moves).state ((M.run moves).step move).state := by
  obtain ⟨total, hstaffed, hholds⟩ := h.keeps_run moves
  obtain hstep | ⟨op, -, -, hstep⟩ |
    ⟨-, choice, -, before, op, past, r, next, after, a, s, hthreads, hanswer, hstep⟩ :=
    (M.run moves).step_cases move
  · exact .inl (by rw [hstep])
  · exact .inl (by rw [hstep])
  · rw [hthreads] at hstaffed
    rw [hstep]
    exact .inr ⟨past, r, a, (h.staffed_ask hstaffed hholds hanswer).2.1⟩

theorem Adequate.permits_of_mem (h : D.Adequate) {moves : List M.Move} {op : M.Op}
    {past : List (Exchange I)} {r : I.Request} {next : I.Answer r → Program I (M.Value op)}
    (choice : M.Choice) {a : I.Answer r}
    (hmem : ⟨op, past, .ask r next⟩ ∈ (M.run moves).threads)
    (hanswer : M.answer choice r (M.run moves).state = some (a, s')) :
    D.permits past r a (M.run moves).state s' := by
  obtain ⟨total, hstaffed, hholds⟩ := h.keeps_run moves
  obtain ⟨before, after, hthreads⟩ := List.append_of_mem hmem
  rw [hthreads] at hstaffed
  exact (h.staffed_ask hstaffed hholds hanswer).2.1

end Discipline

end Disburse.Machine
