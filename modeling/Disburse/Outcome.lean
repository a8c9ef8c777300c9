import Disburse.Error

/-!
How a task ends: with a value, with an error that it returns, or by a crash. A crash is arithmetic
that leaves its range, or a collaborator that crashes; nothing but a supervisor may go on after
one.
-/

namespace Disburse

/-- How a task ends early. -/
inductive Abort where
  | error (e : Error)
  | crash
  deriving DecidableEq

/-- The end of a task: a value, an error or a crash. -/
abbrev Outcome (α : Type) : Type :=
  Except Abort α

namespace Outcome

/-- A result whose error is the error of the task. -/
def ofExcept {α : Type} : Except Error α → Outcome α
  | .ok a => .ok a
  | .error e => .error (.error e)

/-- A value that is absent when arithmetic leaves its range. -/
def ofInRange {α : Type} : Option α → Outcome α
  | some a => .ok a
  | none => .error .crash

theorem ofInRange_eq_ok_iff {α : Type} {a? : Option α} {a : α} :
    ofInRange a? = .ok a ↔ a? = some a := by
  cases a? <;> simp [ofInRange]

theorem ofInRange_eq_error_iff {α : Type} {a? : Option α} {e : Abort} :
    ofInRange a? = .error e ↔ a? = none ∧ e = .crash := by
  cases a? <;> simp [ofInRange, eq_comm]

end Outcome

end Disburse
