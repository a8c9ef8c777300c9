namespace Disburse.Text.Base64

def sextetChar (n : Nat) : Char :=
  if n < 26 then Char.ofNat (65 + n)
  else if n < 52 then Char.ofNat (71 + n)
  else if n < 62 then Char.ofNat (n - 4)
  else if n = 62 then '+'
  else '/'

def sextet? (c : Char) : Option Nat :=
  let n := c.toNat
  if 65 ≤ n ∧ n ≤ 90 then some (n - 65)
  else if 97 ≤ n ∧ n ≤ 122 then some (n - 71)
  else if 48 ≤ n ∧ n ≤ 57 then some (n + 4)
  else if c = '+' then some 62
  else if c = '/' then some 63
  else none

/-- Three bytes are four characters; the last ones are filled up. -/
def encodeChars : List UInt8 → List Char
  | a :: b :: c :: rest =>
    sextetChar (a.toNat / 4) :: sextetChar (a.toNat % 4 * 16 + b.toNat / 16) ::
      sextetChar (b.toNat % 16 * 4 + c.toNat / 64) :: sextetChar (c.toNat % 64) :: encodeChars rest
  | [a, b] =>
    [sextetChar (a.toNat / 4), sextetChar (a.toNat % 4 * 16 + b.toNat / 16),
      sextetChar (b.toNat % 16 * 4), '=']
  | [a] => [sextetChar (a.toNat / 4), sextetChar (a.toNat % 4 * 16), '=', '=']
  | [] => []

def encode (bytes : List UInt8) : String :=
  String.ofList (encodeChars bytes)

/-- The bytes of a last group that may be padded. -/
def decodeLast? (p q r s : Char) : Option (List UInt8) := do
  let p ← sextet? p
  let q ← sextet? q
  let first := UInt8.ofNat (p * 4 + q / 16)
  if r = '=' then
    if s = '=' ∧ q % 16 = 0 then return [first] else none
  else
    let r ← sextet? r
    let second := UInt8.ofNat (q % 16 * 16 + r / 4)
    if s = '=' then
      if r % 4 = 0 then return [first, second] else none
    else
      let s ← sextet? s
      return [first, second, UInt8.ofNat (r % 4 * 64 + s)]

/-- The bytes of groups of four characters, the last one of which may be filled up. -/
def decodeChars? : List Char → Option (List UInt8)
  | [] => some []
  | [p, q, r, s] => decodeLast? p q r s
  | p :: q :: r :: s :: rest => do
    let p ← sextet? p
    let q ← sextet? q
    let r ← sextet? r
    let s ← sextet? s
    let bytes ← decodeChars? rest
    return UInt8.ofNat (p * 4 + q / 16) :: UInt8.ofNat (q % 16 * 16 + r / 4) ::
      UInt8.ofNat (r % 4 * 64 + s) :: bytes
  | _ => none

def decode? (s : String) : Option (List UInt8) :=
  decodeChars? s.toList

end Disburse.Text.Base64
