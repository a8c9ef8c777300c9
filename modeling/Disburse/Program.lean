import Disburse.Outcome

/-!
Programs that ask. A program is done, or it has a request to its surroundings and a way to go on
with every answer. What the surroundings do is no part of a program: running one takes a function
that answers requests from a state, and one interface can be supplied by programs over another.
-/

namespace Disburse

/-- Requests, and what each of them is answered. -/
structure Interface where
  Request : Type
  Answer : Request → Type

/-- A program: a value, or a request and what is done with each answer. -/
inductive Program (I : Interface) (α : Type) where
  | done (a : α)
  | ask (r : I.Request) (next : I.Answer r → Program I α)

/-- How the surroundings answer from a state. -/
abbrev Surroundings (I : Interface) (σ : Type) : Type :=
  (r : I.Request) → σ → I.Answer r × σ

namespace Program

variable {I J : Interface} {α β σ : Type}

/-- One program after the other. -/
def bind : Program I α → (α → Program I β) → Program I β
  | done a, f => f a
  | ask r next, f => ask r fun answer => (next answer).bind f

/-- The program that asks for one thing. -/
def request (r : I.Request) : Program I (I.Answer r) :=
  ask r done

instance : Monad (Program I) where
  pure := done
  bind := bind

theorem bind_done (p : Program I α) : p.bind done = p := by
  induction p with
  | done a => rfl
  | ask r next ih => simp [bind, ih]

theorem bind_assoc {γ : Type} (p : Program I α) (f : α → Program I β) (g : β → Program I γ) :
    (p.bind f).bind g = p.bind fun a => (f a).bind g := by
  induction p with
  | done a => rfl
  | ask r next ih => simp [bind, ih]

instance : LawfulMonad (Program I) :=
  LawfulMonad.mk' (Program I)
    (by intro α p; exact bind_done p)
    (by intros; rfl)
    (by intro α β γ p f g; exact bind_assoc p f g)

/-- The value of a program and the state of its surroundings afterwards. -/
def run (answer : Surroundings I σ) : Program I α → σ → α × σ
  | done a, s => (a, s)
  | ask r next, s =>
    let (a, s) := answer r s
    (next a).run answer s

/-- Supply every request by a program over another interface. -/
def supply (f : (r : I.Request) → Program J (I.Answer r)) : Program I α → Program J α
  | done a => done a
  | ask r next => (f r).bind fun answer => (next answer).supply f

end Program

/-- A program that may end by an error or a crash. -/
abbrev Task (I : Interface) (α : Type) : Type :=
  ExceptT Abort (Program I) α

namespace Task

variable {I : Interface} {α : Type}

/-- A task that ends at once. -/
def ofOutcome (o : Outcome α) : Task I α :=
  ExceptT.mk (pure o)

/-- The outcome of a task, as a program that always ends. -/
def outcome (t : Task I α) : Program I (Outcome α) :=
  ExceptT.run t

/-- A task from a program that gives its outcome. -/
def ofProgram (p : Program I (Outcome α)) : Task I α :=
  ExceptT.mk p

/-- A task that ends in an error. -/
def fail (e : Error) : Task I α :=
  ofOutcome (.error (.error e))

/-- The value of a task, or the error it returns; a crash goes through. -/
def attempt (t : Task I α) : Task I (Except Error α) :=
  ofProgram do
    match ← t.outcome with
    | .ok a => return .ok (.ok a)
    | .error (.error e) => return .ok (.error e)
    | .error .crash => return .error .crash

end Task

end Disburse
