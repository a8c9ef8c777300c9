import Disburse.Decimal.Basic

/-!
Reading decimal amounts. A text may have a sign, a point and, after the first digit, underscores;
an exponent may follow behind the letter `e`. Digits that do not fit are rounded away, a half going
up in magnitude, but they have to be digits. The mantissa is collected in two phases, and only the
second one looks through underscores for the digit that decides the rounding.
-/

namespace Disburse.Decimal

open Disburse.Text

/-- Why a text is no decimal number. -/
inductive Fault where
  | empty
  | noDigits
  | secondPoint
  | leadingSeparator
  | unknownCharacter
  | tooManyDigits
  | roundedOutOfRange
  | badExponent
  | exponentOutOfRange (exponent : Nat)
  | outOfRange
  deriving DecidableEq, Repr

def Fault.message : Fault → String
  | .empty => "Invalid decimal: empty"
  | .noDigits => "Invalid decimal: no digits found"
  | .secondPoint => "Invalid decimal: two decimal points"
  | .leadingSeparator => "Invalid decimal: must start lead with a number"
  | .unknownCharacter => "Invalid decimal: unknown character"
  | .tooManyDigits => "Invalid decimal: overflow from too many digits"
  | .roundedOutOfRange => "Invalid decimal: overflow from mantissa after rounding"
  | .badExponent => "Failed to parse"
  | .exponentOutOfRange exponent =>
    s!"Scale exceeds the maximum precision allowed: {exponent} > 28"
  | .outOfRange => "Number exceeds maximum value that can be represented."

/-- A mantissa from here on is continued in the second phase. -/
def wideFrom : Nat := 1844674407370954906

/-- The fault of a character that cannot stand here. -/
def Fault.ofChar (c : Char) : Fault :=
  if c = '.' then .secondPoint
  else if c = '_' then .leadingSeparator
  else .unknownCharacter

def digitValue (c : Char) : Nat :=
  c.toNat - 48

/-- A mantissa whose first lost digit is `digit`. -/
def roundBy (negative : Bool) (mantissa scale digit : Nat) : Except Fault Decimal :=
  if digit < 5 then .ok (ofParts negative mantissa scale)
  else if mantissa + 1 < mantissaLimit then .ok (ofParts negative (mantissa + 1) scale)
  else if scale = 0 then .error .roundedOutOfRange
  else .ok (ofParts negative ((mantissa + 5) / 10) (scale - 1))

/-- End a number whose next character, after the point, has no room. An underscore there loses
nothing; behind it may stand digits and underscores. -/
def roundAt (negative : Bool) (mantissa scale : Nat) (next : Char) (rest : List Char) :
    Except Fault Decimal :=
  match (next :: rest).find? fun c => !(c.isDigit || c = '_') with
  | some c => .error (.ofChar c)
  | none => roundBy negative mantissa scale (if next.isDigit then digitValue next else 0)

/-- The second phase; `point` says whether the point has been read. -/
def readWide (negative point : Bool) (mantissa scale : Nat) : List Char → Except Fault Decimal
  | [] => .ok (ofParts negative mantissa scale)
  | c :: rest =>
    if c.isDigit then
      let mantissa' := mantissa * 10 + digitValue c
      if mantissaLimit ≤ mantissa' then
        if point then roundAt negative mantissa scale c rest else .error .tooManyDigits
      else
        let scale' := if point then scale + 1 else scale
        if point && 28 ≤ scale' then
          match rest.dropWhile (· = '_') with
          | [] => .ok (ofParts negative mantissa' scale')
          | next :: rest => roundAt negative mantissa' scale' next rest
        else readWide negative point mantissa' scale' rest
    else if c = '.' && !point then readWide negative true mantissa scale rest
    else if c = '_' then readWide negative point mantissa scale rest
    else .error (.ofChar c)

/-- The first phase; `started` says whether a digit has been read. -/
def readNarrow (negative point started : Bool) (mantissa scale : Nat) :
    List Char → Except Fault Decimal
  | [] => if started then .ok (ofParts negative mantissa scale) else .error .noDigits
  | c :: rest =>
    if c.isDigit then
      let mantissa' := mantissa * 10 + digitValue c
      let scale' := if point then scale + 1 else scale
      match rest with
      | [] => .ok (ofParts negative mantissa' scale')
      | next :: behind =>
        if point && 28 ≤ scale' then roundAt negative mantissa' scale' next behind
        else if wideFrom ≤ mantissa' then readWide negative point mantissa' scale' rest
        else readNarrow negative point true mantissa' scale' rest
    else if c = '.' && !point then readNarrow negative true started mantissa scale rest
    else if c = '_' && started then readNarrow negative point true mantissa scale rest
    else .error (.ofChar c)

def readPlain : List Char → Except Fault Decimal
  | [] => .error .empty
  | '-' :: rest => readNarrow true false false 0 0 rest
  | '+' :: rest => readNarrow false false false 0 0 rest
  | cs => readNarrow false false false 0 0 cs

/-- A mantissa without its last digits; a half goes up. -/
def dropDigits (mantissa : Nat) : (count : Nat) → Nat
  | 0 => mantissa
  | count + 1 => (mantissa / Nat.pow 10 count + 5) / 10

/-- The amount divided by ten to the `exponent`, rounded to 28 places. The sign stays. -/
def shiftDown (d : Decimal) (exponent : Nat) : Decimal :=
  let scale := d.scale + exponent
  let magnitude := ofParts false (dropDigits d.mantissa (scale - 28)) (min scale 28)
  { magnitude with negative := d.negative }

/-- The amount times ten to the `exponent`, if it is in range. -/
def shiftUp (d : Decimal) (exponent : Nat) : Except Fault Decimal :=
  if exponent ≤ d.scale then .ok (ofParts d.negative d.mantissa (d.scale - exponent))
  else
    let mantissa := d.mantissa * Nat.pow 10 (exponent - d.scale)
    if mantissa < mantissaLimit then .ok (ofParts d.negative mantissa 0) else .error .outOfRange

/-- The digits of an exponent, of at most 28. -/
def readExponent (cs : List Char) : Except Fault Nat :=
  match Numeral.natBelow? UInt32.size (String.ofList cs) with
  | none => .error .badExponent
  | some exponent => if exponent ≤ 28 then .ok exponent else .error (.exponentOutOfRange exponent)

/-- An amount shifted by what stands behind the letter `e`. -/
def shiftBy (d : Decimal) : List Char → Except Fault Decimal
  | '-' :: cs => (readExponent cs).map d.shiftDown
  | cs => (readExponent cs).bind d.shiftUp

/-- A decimal number, with or without an exponent. -/
def read (s : String) : Except Fault Decimal :=
  let isMark := fun c : Char => c = 'e' || c = 'E'
  let base := readPlain (s.toList.takeWhile fun c => !isMark c)
  match s.toList.dropWhile fun c => !isMark c with
  | [] => base
  | _ :: exponent => base.bind fun d => d.shiftBy exponent

end Disburse.Decimal
