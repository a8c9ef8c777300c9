import Disburse.Json.Value
import Disburse.Text.Hex
import Disburse.Text.Numeral

/-!
Reading JSON text. The grammar is strict: no leading zeros, no trailing commas, no raw control
characters in strings. Nesting is not limited. Strings whose surrogate escapes do not pair, and
numbers beyond the range of doubles, are read as `Json.garbled`, so that a member nobody asks for
may hold one.
-/

namespace Disburse.Json

open Disburse.Text

def isSpace (c : Char) : Bool :=
  c = ' ' || c = '\n' || c = '\t' || c = '\r'

def skipSpace (cs : List Char) : List Char :=
  cs.dropWhile isSpace

/-- The character behind a one-letter escape. -/
def unescape? (c : Char) : Option Char :=
  if c = '"' || c = '\\' || c = '/' then some c
  else if c = 'n' then some '\n'
  else if c = 'r' then some '\r'
  else if c = 't' then some '\t'
  else if c = 'b' then some '\x08'
  else if c = 'f' then some '\x0c'
  else none

/-- A part of a string literal: a character, or one half of a surrogate pair. -/
inductive Piece where
  | char (c : Char)
  | surrogate (unit : Nat)

/-- A number of four digits is half of a pair or a character. -/
def Piece.ofUnit (n : Nat) : Piece :=
  if 0xD800 ≤ n ∧ n ≤ 0xDFFF then .surrogate n else .char (Char.ofNat n)

/-- The pieces up to the closing quote, and what follows it. -/
def readPieces : List Char → Option (List Piece × List Char)
  | [] => none
  | '"' :: rest => some ([], rest)
  | '\\' :: 'u' :: a :: b :: c :: d :: rest => do
    let unit ← Hex.number? [a, b, c, d]
    let (pieces, rest) ← readPieces rest
    return (Piece.ofUnit unit :: pieces, rest)
  | '\\' :: c :: rest => do
    let c ← unescape? c
    let (pieces, rest) ← readPieces rest
    return (.char c :: pieces, rest)
  | c :: rest =>
    if c.toNat < 0x20 then none
    else do
      let (pieces, rest) ← readPieces rest
      return (.char c :: pieces, rest)

/-- The characters of a text, if all halves come in pairs. -/
def joinPieces : List Piece → Option (List Char)
  | [] => some []
  | .char c :: rest => (joinPieces rest).map (c :: ·)
  | .surrogate high :: .surrogate low :: rest =>
    if high < 0xDC00 ∧ 0xDC00 ≤ low then
      (joinPieces rest).map
        (Char.ofNat (0x10000 + (high - 0xD800) * 0x400 + (low - 0xDC00)) :: ·)
    else none
  | .surrogate _ :: _ => none

/-- A text behind its first quote; absent inside if its halves do not pair up. -/
def readString (cs : List Char) : Option (Option String × List Char) :=
  (readPieces cs).map fun (pieces, rest) => ((joinPieces pieces).map String.ofList, rest)

def readDigits (cs : List Char) : Option (List Char × List Char) :=
  match cs.takeWhile Char.isDigit with
  | [] => none
  | digits => some (digits, cs.dropWhile Char.isDigit)

/-- The digits behind a point, if there is one. -/
def readFraction : List Char → Option (List Char × List Char)
  | '.' :: cs => (readDigits cs).map fun (digits, rest) => ('.' :: digits, rest)
  | cs => some ([], cs)

/-- The exponent of a number, if one stands here: its literal and its value. -/
def readExponent : List Char → Option ((List Char × Int) × List Char)
  | c :: cs =>
    if c = 'e' || c = 'E' then
      let value := fun digits => Int.ofNat (Nat.ofDigitChars 10 digits 0)
      match cs with
      | '+' :: cs => (readDigits cs).map fun (ds, rest) => ((c :: '+' :: ds, value ds), rest)
      | '-' :: cs => (readDigits cs).map fun (ds, rest) => ((c :: '-' :: ds, -value ds), rest)
      | cs => (readDigits cs).map fun (ds, rest) => ((c :: ds, value ds), rest)
    else some (([], 0), c :: cs)
  | [] => some (([], 0), [])

/-- Numbers from here on have no nearest double. -/
def doubleLimit : Nat := Nat.pow 2 1024 - Nat.pow 2 970

/-- Whether a row of digits, times ten to the `exponent`, has a nearest double. -/
def isDouble (digits : List Char) (exponent : Int) : Bool :=
  let value := Nat.ofDigitChars 10 digits 0
  match exponent with
  | .ofNat places => value = 0 || places ≤ 308 && value * Nat.pow 10 places < doubleLimit
  | .negSucc places =>
    digits.length ≤ places + 1 || value < doubleLimit * Nat.pow 10 (places + 1)

/-- A number behind its sign, without needless zeros in front. -/
def readUnsigned (negative : Bool) (cs : List Char) : Option (Json × List Char) := do
  let (digits, rest) ← readDigits cs
  if digits.length > 1 && digits.head? == some '0' then none
  let (fraction, rest) ← readFraction rest
  let ((exponent, shift), rest) ← readExponent rest
  let places := fraction.drop 1
  let value := Nat.ofDigitChars 10 digits 0
  if !isDouble (digits ++ places) (shift - places.length) then
    return (.garbled, rest)
  else if fraction.isEmpty && exponent.isEmpty && !(negative && value == 0) then
    return (.int (if negative then -value else value), rest)
  else
    let sign := if negative then ['-'] else []
    return (.real (String.ofList (sign ++ digits ++ fraction ++ exponent)), rest)

def readNumber : List Char → Option (Json × List Char)
  | '-' :: cs => readUnsigned true cs
  | cs => readUnsigned false cs

mutual

/-- A value, and what follows it. Each call below takes one unit of `fuel`, and each reads at
least one character, so the length of the text is enough. -/
def readValue : Nat → List Char → Option (Json × List Char)
  | 0, _ => none
  | fuel + 1, cs =>
    match skipSpace cs with
    | 'n' :: 'u' :: 'l' :: 'l' :: rest => some (.null, rest)
    | 't' :: 'r' :: 'u' :: 'e' :: rest => some (.bool true, rest)
    | 'f' :: 'a' :: 'l' :: 's' :: 'e' :: rest => some (.bool false, rest)
    | '"' :: rest =>
      (readString rest).map fun (text, rest) =>
        (match text with | some s => .str s | none => .garbled, rest)
    | '[' :: rest =>
      match skipSpace rest with
      | ']' :: rest => some (.arr [], rest)
      | rest => do
        let (v, rest) ← readValue fuel rest
        let (vs, rest) ← readItems fuel rest
        return (.arr (v :: vs), rest)
    | '\x7b' :: rest =>
      match skipSpace rest with
      | '\x7d' :: rest => some (.obj [], rest)
      | rest => do
        let (m, rest) ← readMember fuel rest
        let (ms, rest) ← readMembers fuel rest
        return (match m, ms with
          | some m, some ms => .obj (m :: ms)
          | _, _ => .garbled, rest)
    | c :: rest => if c = '-' || c.isDigit then readNumber (c :: rest) else none
    | [] => none

/-- The items of an array up to its bracket; every item takes one unit of the fuel. -/
def readItems : Nat → List Char → Option (List Json × List Char)
  | 0, _ => none
  | fuel + 1, cs =>
    match skipSpace cs with
    | ']' :: rest => some ([], rest)
    | ',' :: rest => do
      let (v, rest) ← readValue fuel rest
      let (vs, rest) ← readItems fuel rest
      return (v :: vs, rest)
    | _ => none

/-- One member; it is absent if its name has no text. -/
def readMember : Nat → List Char → Option (Option (String × Json) × List Char)
  | 0, _ => none
  | fuel + 1, cs =>
    match skipSpace cs with
    | '"' :: rest => do
      let (name, rest) ← readString rest
      match skipSpace rest with
      | ':' :: rest => do
        let (v, rest) ← readValue fuel rest
        return (name.map (·, v), rest)
      | _ => none
    | _ => none

/-- The members after the first one, up to the closing brace; they are absent if one of them is. -/
def readMembers : Nat → List Char → Option (Option (List (String × Json)) × List Char)
  | 0, _ => none
  | fuel + 1, cs =>
    match skipSpace cs with
    | ',' :: rest => do
      let (m, rest) ← readMember fuel rest
      let (ms, rest) ← readMembers fuel rest
      return (match m, ms with
        | some m, some ms => some (m :: ms)
        | _, _ => none, rest)
    | '\x7d' :: rest => some (some [], rest)
    | _ => none

end

/-- The value at the start of a text, whatever follows it. -/
def readFirst? (s : String) : Option Json :=
  (readValue (s.toList.length + 1) s.toList).map (·.1)

/-- The value that a whole text denotes. -/
def parse? (s : String) : Option Json := do
  let (v, rest) ← readValue (s.toList.length + 1) s.toList
  if (skipSpace rest).isEmpty then return v else none

end Disburse.Json
