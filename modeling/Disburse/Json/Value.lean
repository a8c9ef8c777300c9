namespace Disburse

/-- Values, with the members of objects in their order. -/
inductive Json where
  | null
  | bool (value : Bool)
  | int (value : Int)
  /-- A number that is not written as an integer; `-0` is one of them. -/
  | real (literal : String)
  | str (text : String)
  | arr (items : List Json)
  | obj (members : List (String × Json))
  /-- A well-formed text without a value: a string with an unpaired surrogate escape, an object
  with such a name, or a number that is too large. -/
  | garbled
  deriving Inhabited

namespace Json

/-- The value of an optional member: absent ones are written as `null`. -/
def ofOption {α : Type} (write : α → Json) : Option α → Json
  | none => .null
  | some a => write a

/-- The value under a name of an object. -/
def member? (name : String) : Json → Option Json
  | .obj members => members.lookup name
  | _ => none

end Json

end Disburse
