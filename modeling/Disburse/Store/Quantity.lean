import Disburse.Text.Scientific

namespace Disburse

open Disburse.Text

/-- What a column of numbers may hold. -/
inductive Quantity where
  | int (n : Int64)
  /-- A number that is no 64-bit integer: a double, in units of the least positive one. -/
  | real (units : Int)
  | text (s : String)
  deriving DecidableEq

namespace Quantity

/-- White space that may stand around a number. -/
def isSpace (c : Char) : Bool :=
  c = ' ' || '\t' ≤ c && c ≤ '\r'

/-- A text without the white space around it. -/
def trim (s : String) : List Char :=
  ((s.toList.dropWhile isSpace).reverse.dropWhile isSpace).reverse

/-- The integer that a number is, if it has 64 bits. -/
def whole? (x : Scientific) : Option Int64 :=
  if x.isInteger then
    let n := Scientific.withSign x.negative x.digits
    if Int64.minValue.toInt ≤ n ∧ n ≤ Int64.maxValue.toInt then some (Int64.ofInt n) else none
  else
    let n := x.units / Scientific.unitsOfOne
    if n * Scientific.unitsOfOne = x.units ∧ n.natAbs ≤ Int64.maxValue.toInt then
      some (Int64.ofInt n)
    else none

/-- A text that looks like a number is stored as one. -/
def ofText (s : String) : Quantity :=
  match Scientific.read? (trim s) with
  | none => .text s
  | some x =>
    match whole? x with
    | some n => .int n
    | none => .real x.units

/-- An integer in units of the least positive double. -/
def unitsOf (n : Int64) : Int :=
  n.toInt * Scientific.unitsOfOne

/-- Integers and doubles are compared by their values, and texts come behind them. -/
def le : Quantity → Quantity → Bool
  | .int m, .int n => m ≤ n
  | .int m, .real y => unitsOf m ≤ y
  | .real x, .int n => x ≤ unitsOf n
  | .real x, .real y => x ≤ y
  | .text s, .text t => !decide (t < s)
  | .text _, _ => false
  | _, .text _ => true

/-- The kind of a value, as the database names it. -/
def typeName : Quantity → String
  | .int _ => "INTEGER"
  | .real _ => "REAL"
  | .text _ => "TEXT"

end Quantity

end Disburse
