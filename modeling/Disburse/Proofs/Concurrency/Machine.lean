import Disburse.Program

/-!
Programs side by side. A machine names the operations that may be started, the programs behind
them, and what may be answered to a request. Its threads take turns request by request, in any
order; a request may start a further thread. A run is a list of moves, and a move that is not
possible changes nothing, so that every list of moves is a run and every run can be computed.
-/

namespace Disburse

theorem forall_prefix_append {α : Type} {P : List α → α → Prop} {xs : List α} {x : α}
    (h : ∀ before y, before ++ [y] <+: xs → P before y) (hx : P xs x) :
    ∀ before y, before ++ [y] <+: xs ++ [x] → P before y := by
  intro before y hbefore
  rcases List.prefix_concat_iff.mp hbefore with heq | hbefore
  · obtain ⟨rfl, hlast⟩ := List.append_inj' heq rfl
    exact List.singleton_inj.mp hlast ▸ hx
  · exact h before y hbefore

/-- A request and its answer. -/
structure Exchange (I : Interface) where
  request : I.Request
  answer : I.Answer request

/-- Threads over a state that their requests share. -/
structure Machine (I : Interface) where
  State : Type
  initial : State
  /-- Ways in which the surroundings may behave at one request. -/
  Choice : Type
  /-- The answer to a request and the state after it; absent if the choice does not fit. -/
  answer : Choice → (r : I.Request) → State → Option (I.Answer r × State)
  Op : Type
  Value : Op → Type
  program : (op : Op) → Program I (Value op)
  /-- The operation that a request starts beside its thread. -/
  spawned : I.Request → Option Op
  /-- Whether an operation may be started from outside; `idle` says that all threads have
  ended. -/
  opens : Op → (idle : Bool) → Bool

namespace Machine

variable {I : Interface}

/-- An operation under way, or at its end. -/
structure Thread (M : Machine I) where
  op : M.Op
  past : List (Exchange I)
  rest : Program I (M.Value op)

variable {M : Machine I}

namespace Thread

def start (op : M.Op) : M.Thread :=
  ⟨op, [], M.program op⟩

/-- Whether a thread has come to its end. -/
def isDone (t : M.Thread) : Bool :=
  match t.rest with
  | .done _ => true
  | .ask .. => false

/-- The next request of a thread: the thread after it, what it starts, and the state after it. -/
def advance (t : M.Thread) (choice : M.Choice) (s : M.State) :
    Option (M.Thread × Option M.Op × M.State) :=
  match t with
  | ⟨_, _, .done _⟩ => none
  | ⟨op, past, .ask r next⟩ =>
    (M.answer choice r s).map fun (a, s') => (⟨op, past ++ [⟨r, a⟩], next a⟩, M.spawned r, s')

theorem advance_eq_some {t t' : M.Thread} {choice : M.Choice} {s s' : M.State}
    {started : Option M.Op} (h : t.advance choice s = some (t', started, s')) :
    ∃ op past r next a, t = ⟨op, past, .ask r next⟩ ∧ M.answer choice r s = some (a, s') ∧
      t' = ⟨op, past ++ [⟨r, a⟩], next a⟩ ∧ started = M.spawned r := by
  obtain ⟨op, past, rest⟩ := t
  cases rest with
  | done a => simp [advance] at h
  | ask r next =>
      simp only [advance, Option.map_eq_some_iff, Prod.mk.injEq] at h
      obtain ⟨⟨a, s''⟩, hanswer, rfl, rfl, rfl⟩ := h
      exact ⟨op, past, r, next, a, rfl, hanswer, rfl, rfl⟩

end Thread

/-- What all threads share, and the threads in the order of their start. -/
structure Config (M : Machine I) where
  state : M.State
  threads : List M.Thread

/-- A new thread, or one step of a thread that waits. -/
inductive Move (M : Machine I) where
  | start (op : M.Op)
  | resume (position : Nat) (choice : M.Choice)

namespace Config

/-- Whether all threads have come to their ends. -/
def isIdle (c : M.Config) : Bool :=
  c.threads.all Thread.isDone

/-- A move that cannot be made leaves everything as it is. -/
def step (c : M.Config) : M.Move → M.Config
  | .start op =>
    if M.opens op c.isIdle then { c with threads := c.threads ++ [.start op] } else c
  | .resume position choice =>
    match c.threads[position]?.bind fun t => t.advance choice c.state with
    | none => c
    | some (t, started, s) =>
      { state := s
        threads := c.threads.set position t ++ (started.map Thread.start).toList }

/-- What a move does to a configuration: nothing, a start, or one request of one thread. -/
theorem step_cases (c : M.Config) (move : M.Move) :
    c.step move = c ∨
    (∃ op, move = .start op ∧ M.opens op c.isIdle ∧
      c.step move = { c with threads := c.threads ++ [.start op] }) ∨
    (∃ position choice, move = .resume position choice ∧ ∃ before op past r next after a s,
      c.threads = before ++ ⟨op, past, .ask r next⟩ :: after ∧
      M.answer choice r c.state = some (a, s) ∧
      c.step move =
        { state := s
          threads := before ++ ⟨op, past ++ [⟨r, a⟩], next a⟩ :: after ++
            ((M.spawned r).map Thread.start).toList }) := by
  cases move with
  | start op =>
      by_cases hopens : M.opens op c.isIdle
      · exact .inr (.inl ⟨op, rfl, hopens, by simp [step, hopens]⟩)
      · exact .inl (by simp [step, hopens])
  | resume position choice =>
      by_cases hlt : position < c.threads.length
      · cases hadvance : c.threads[position].advance choice c.state with
        | none => exact .inl (by simp [step, hlt, hadvance])
        | some result =>
            obtain ⟨t', started, s⟩ := result
            obtain ⟨op, past, r, next, a, ht, hanswer, rfl, rfl⟩ :=
              Thread.advance_eq_some hadvance
            refine .inr (.inr ⟨position, choice, rfl, c.threads.take position, op, past, r, next,
              c.threads.drop (position + 1), a, s, ?_, hanswer, ?_⟩)
            · rw [← ht, List.getElem_cons_drop, List.take_append_drop]
            · simp [step, hlt, hadvance, List.set_eq_take_append_cons_drop]
      · exact .inl (by simp [step, hlt])

theorem step_resume {c : M.Config} {before after : List M.Thread} {op : M.Op}
    {past : List (Exchange I)} {r : I.Request} {next : I.Answer r → Program I (M.Value op)}
    {choice : M.Choice} {a : I.Answer r} {s : M.State}
    (hthreads : c.threads = before ++ ⟨op, past, .ask r next⟩ :: after)
    (hanswer : M.answer choice r c.state = some (a, s)) :
    c.step (.resume before.length choice) =
      ⟨s, before ++ ⟨op, past ++ [⟨r, a⟩], next a⟩ :: after ++
        ((M.spawned r).map Thread.start).toList⟩ := by
  simp [step, hthreads, Thread.advance, hanswer]

end Config

def start (M : Machine I) : M.Config :=
  ⟨M.initial, []⟩

def run (M : Machine I) (moves : List M.Move) : M.Config :=
  moves.foldl Config.step M.start

theorem run_append_singleton (moves : List M.Move) (move : M.Move) :
    M.run (moves ++ [move]) = (M.run moves).step move := by
  simp [run]

end Machine

end Disburse
