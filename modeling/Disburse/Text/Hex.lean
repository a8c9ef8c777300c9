namespace Disburse.Text.Hex

/-- Why a text is no row of hexadecimal byte pairs. -/
inductive Fault where
  | oddLength
  /-- The byte that is no digit, and its place in the text's UTF-8 form. -/
  | badDigit (byte : UInt8) (position : Nat)
  deriving DecidableEq, Repr

/-- The digit of a number below sixteen. -/
def digit (n : Nat) : Char :=
  Nat.digitChar n

def value? (c : Char) : Option Nat :=
  let n := c.toNat
  if 48 ≤ n ∧ n ≤ 57 then some (n - 48)
  else if 97 ≤ n ∧ n ≤ 102 then some (n - 87)
  else if 65 ≤ n ∧ n ≤ 70 then some (n - 55)
  else none

def ofByte (b : UInt8) : List Char :=
  [digit (b.toNat / 16), digit (b.toNat % 16)]

def encode (bytes : List UInt8) : String :=
  String.ofList (bytes.flatMap ofByte)

/-- The last `width` digits of a natural number. -/
def fixed : Nat → Nat → List Char
  | 0, _ => []
  | width + 1, n => fixed width (n / 16) ++ [digit (n % 16)]

def number? (cs : List Char) : Option Nat :=
  cs.foldlM (fun n c => (value? c).map fun d => 16 * n + d) 0

/-- Read byte pairs from the UTF-8 form of a text, `position` bytes of which are already read. -/
def decodePairs (position : Nat) : List UInt8 → Except Fault (List UInt8)
  | [] => .ok []
  | [_] => .error .oddLength
  | hi :: lo :: rest =>
    match value? (Char.ofNat hi.toNat), value? (Char.ofNat lo.toNat) with
    | none, _ => .error (.badDigit hi position)
    | _, none => .error (.badDigit lo (position + 1))
    | some h, some l => (decodePairs (position + 2) rest).map (UInt8.ofNat (16 * h + l) :: ·)

def decode (s : String) : Except Fault (List UInt8) :=
  let bytes := s.toUTF8.data.toList
  if bytes.length % 2 = 1 then .error .oddLength else decodePairs 0 bytes

end Disburse.Text.Hex
