import Disburse.Text.Hex
import Disburse.Text.Utf8

namespace Disburse.Text.Percent

/-- Replace every `%` that two hexadecimal digits follow by the byte they name. -/
def decodeBytes : List UInt8 → List UInt8
  | [] => []
  | 0x25 :: hi :: lo :: rest =>
    match Hex.value? (Char.ofNat hi.toNat), Hex.value? (Char.ofNat lo.toNat) with
    | some h, some l => UInt8.ofNat (16 * h + l) :: decodeBytes rest
    | _, _ => 0x25 :: decodeBytes (hi :: lo :: rest)
  | b :: rest => b :: decodeBytes rest

/-- The bytes of a text, with its escapes replaced. -/
def bytes (s : String) : List UInt8 :=
  decodeBytes (Utf8.encode s)

/-- The text behind the escapes, if it is well-formed. -/
def decode? (s : String) : Option String :=
  Utf8.decode? (bytes s)

/-- One name or value of a query: a plus sign is a space, and ill-formed bytes are replaced. -/
def formText (cs : List Char) : String :=
  let spaced := cs.map fun c => if c = '+' then ' ' else c
  String.ofList (Utf8.decodeLossy (bytes (String.ofList spaced)))

/-- The pairs of a query in order; empty parts are skipped, a part without `=` has an empty
value. -/
def formPairs (query : String) : List (String × String) :=
  let parts := (query.toList.splitOn '&').filter (· ≠ [])
  parts.map fun part =>
    (formText (part.takeWhile (· ≠ '=')), formText ((part.dropWhile (· ≠ '=')).drop 1))

end Disburse.Text.Percent
