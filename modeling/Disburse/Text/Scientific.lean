import Disburse.Text.Numeral

namespace Disburse.Text

/-- A number as it is written: digits, times ten to an exponent. -/
structure Scientific where
  negative : Bool
  digits : Nat
  exponent : Int
  /-- Neither a point nor an exponent is written. -/
  isInteger : Bool
  deriving DecidableEq

namespace Scientific

/-- Whether a minus sign stands in front, and what follows the sign. -/
def splitSign : List Char → Bool × List Char
  | '-' :: cs => (true, cs)
  | '+' :: cs => (false, cs)
  | cs => (false, cs)

def withSign (negative : Bool) (n : Nat) : Int :=
  if negative then -Int.ofNat n else Int.ofNat n

/-- Split the digits behind a point off the front. -/
def splitPlaces : List Char → Option (List Char) × List Char
  | '.' :: cs => (some (cs.takeWhile Char.isDigit), cs.dropWhile Char.isDigit)
  | cs => (none, cs)

/-- The exponent that a text consists of, if it is not empty. Beyond ten thousand they are all the
same. -/
def exponent? : List Char → Option (Option Int)
  | [] => some none
  | c :: cs => do
    if !(c = 'e' || c = 'E') then none
    let (negative, cs) := splitSign cs
    return some (withSign negative (min 10000 (← Numeral.value? cs)))

/-- A number in the notation of the database engine. -/
def read? (cs : List Char) : Option Scientific := do
  let (negative, cs) := splitSign cs
  let (places, rest) := splitPlaces (cs.dropWhile Char.isDigit)
  let digits ← Numeral.value? (cs.takeWhile Char.isDigit ++ places.getD [])
  let exponent ← exponent? rest
  return {
    negative, digits
    exponent := exponent.getD 0 - (places.getD []).length
    isInteger := places.isNone && exponent.isNone }

/-- How often the least positive double goes into one. -/
def unitsOfOne : Nat := Nat.pow 2 1074

/-- A quotient rounded to the nearest natural; a half goes to the even one. -/
def roundQuotient (n d : Nat) : Nat :=
  let twice := 2 * (n % d)
  if twice < d || twice = d && n / d % 2 = 0 then n / d else n / d + 1

/-- The double nearest to a quotient, in units of the least positive one: 53 bits are kept. -/
def doubleUnits (n d : Nat) : Nat :=
  let scaled := n * unitsOfOne
  let step := Nat.pow 2 ((scaled / d).log2 - 52)
  roundQuotient scaled (d * step) * step

/-- The number in units of the least positive double. -/
def units (x : Scientific) : Int :=
  withSign x.negative <|
    match x.exponent with
    | .ofNat k => doubleUnits (x.digits * Nat.pow 10 k) 1
    | .negSucc k => doubleUnits x.digits (Nat.pow 10 (k + 1))

end Scientific

end Disburse.Text
