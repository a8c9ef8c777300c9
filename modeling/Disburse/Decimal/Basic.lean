import Disburse.Text.Numeral

/-!
Decimal amounts: a sign, a mantissa of up to 96 bits and up to 28 decimal places. The number of
places is part of the value, so `5` and `5.0` are different amounts of equal worth. Zero has a sign
only where a lesser amount was rounded to it.
-/

namespace Disburse

/-- The number of mantissas: those of 96 bits. -/
def Decimal.mantissaLimit : Nat := Nat.pow 2 96

/-- A decimal number: its sign, at most 96 bits of digits, and how many of them follow the point. -/
structure Decimal where
  negative : Bool
  mantissa : Nat
  scale : Nat
  mantissa_lt : mantissa < Decimal.mantissaLimit
  scale_le : scale ≤ 28
  deriving DecidableEq

namespace Decimal

/-- The amount with these parts, each brought into its range; zero without its sign. -/
def ofParts (negative : Bool) (mantissa scale : Nat) : Decimal where
  negative := negative && mantissa % mantissaLimit != 0
  mantissa := mantissa % mantissaLimit
  scale := scale % 29
  mantissa_lt := Nat.mod_lt _ (by decide)
  scale_le := by omega

/-- Greater than zero. -/
def IsPositive (d : Decimal) : Prop :=
  d.negative = false ∧ 0 < d.mantissa

instance (d : Decimal) : Decidable d.IsPositive :=
  inferInstanceAs (Decidable (_ ∧ _))

/-- The digits before the point, and those after it. -/
def digits (d : Decimal) : List Char × List Char :=
  let all := Text.Numeral.padded (d.scale + 1) d.mantissa
  (all.take (all.length - d.scale), all.drop (all.length - d.scale))

/-- The written form: all places are shown, and the point only if there are any. -/
def chars (d : Decimal) : List Char :=
  let sign := if d.negative then ['-'] else []
  let point := if d.scale = 0 then [] else ['.']
  sign ++ d.digits.1 ++ point ++ d.digits.2

/-- The digits with their point, all places behind it included. -/
def toText (d : Decimal) : String :=
  String.ofList d.chars

end Decimal

end Disburse
