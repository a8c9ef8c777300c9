namespace Disburse.Text.Numeral

def digits (n : Nat) : List Char :=
  Nat.toDigits 10 n

/-- The digits of `n`, filled up with leading zeros to at least `width` places. -/
def padded (width n : Nat) : List Char :=
  List.replicate (width - (digits n).length) '0' ++ digits n

/-- A minus sign for negative numbers, then the digits. -/
def signed : Int → List Char
  | .ofNat n => digits n
  | .negSucc n => '-' :: digits (n + 1)

def value? (cs : List Char) : Option Nat :=
  if cs ≠ [] ∧ cs.all Char.isDigit then some (Nat.ofDigitChars 10 cs 0) else none

/-- Read a natural number below `limit`; a plus sign may stand in front. -/
def natBelow? (limit : Nat) (s : String) : Option Nat :=
  let body := match s.toList with
    | '+' :: rest => rest
    | cs => cs
  (value? body).filter (· < limit)

/-- Read an integer from `low` up to and including `high`; a sign may stand in front. -/
def intWithin? (low high : Int) (s : String) : Option Int :=
  let number := match s.toList with
    | '+' :: rest => (value? rest).map Int.ofNat
    | '-' :: rest => (value? rest).map fun n => -Int.ofNat n
    | cs => (value? cs).map Int.ofNat
  number.filter fun n => low ≤ n && n ≤ high

def uint16? (s : String) : Option UInt16 :=
  (natBelow? UInt16.size s).map UInt16.ofNat

def uint64? (s : String) : Option UInt64 :=
  (natBelow? UInt64.size s).map UInt64.ofNat

def uint32? (s : String) : Option UInt32 :=
  (natBelow? UInt32.size s).map UInt32.ofNat

def int64? (s : String) : Option Int64 :=
  (intWithin? Int64.minValue.toInt Int64.maxValue.toInt s).map Int64.ofInt

end Disburse.Text.Numeral
