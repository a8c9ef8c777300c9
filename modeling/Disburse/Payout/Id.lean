import Disburse.Text.Hex

namespace Disburse

open Disburse.Text

/-- The number of identifiers: those of 128 bits. -/
def PayoutId.limit : Nat := Nat.pow 2 128

/-- An identifier of 128 bits. -/
structure PayoutId where
  value : Nat
  value_lt : value < PayoutId.limit
  deriving DecidableEq

namespace PayoutId

/-- The number as an identifier; digits beyond the range are dropped. -/
def ofNat (n : Nat) : PayoutId :=
  ⟨n % limit, Nat.mod_lt _ (by decide)⟩

/-- The identifier made from a random number: version four in the version field, and the two
variant bits `10`. -/
def ofDraw (n : Nat) : PayoutId :=
  let high := n >>> 80
  let middle := (n >>> 64) % 0x1000
  let low := n % 0x4000000000000000
  ofNat (high <<< 80 + 4 <<< 76 + middle <<< 64 + 1 <<< 63 + low)

/-- The digits in five groups. -/
def chars (id : PayoutId) : List Char :=
  let ds := Hex.fixed 32 id.value
  ds.take 8 ++ '-' :: (ds.drop 8).take 4 ++ '-' :: (ds.drop 12).take 4 ++
    '-' :: (ds.drop 16).take 4 ++ '-' :: ds.drop 20

/-- The text under which a payout is known everywhere. -/
def toText (id : PayoutId) : String :=
  String.ofList id.chars

def ofDigits? (cs : List Char) : Option PayoutId :=
  if cs.length = 32 then (Hex.number? cs).map ofNat else none

/-- An identifier from five groups of digits. -/
def ofGroups? (cs : List Char) : Option PayoutId :=
  if cs.length = 36 ∧ cs[8]? = some '-' ∧ cs[13]? = some '-' ∧ cs[18]? = some '-' ∧
      cs[23]? = some '-' then
    ofDigits? (cs.take 8 ++ (cs.drop 9).take 4 ++ (cs.drop 14).take 4 ++ (cs.drop 19).take 4 ++
      cs.drop 24)
  else none

/-- The characters in front of a written name of the `uuid` kind. -/
def urnMark : List Char :=
  ['u', 'r', 'n', ':', 'u', 'u', 'i', 'd', ':']

/-- An identifier with or without hyphens, in braces, or behind its name space. -/
def read? (s : String) : Option PayoutId :=
  let cs := s.toList
  if cs.length = 32 then ofDigits? cs
  else if cs.length = 36 then ofGroups? cs
  else if cs.length = 38 ∧ cs.head? = some '\x7b' ∧ cs.getLast? = some '\x7d' then
    ofGroups? (cs.drop 1).dropLast
  else if cs.length = 45 ∧ (cs.take 9).map Char.toLower = urnMark then ofGroups? (cs.drop 9)
  else none

/-- At or before in the order of the numbers, which is also the order of the written forms. -/
def ble (a b : PayoutId) : Bool :=
  a.value ≤ b.value

end PayoutId

end Disburse
