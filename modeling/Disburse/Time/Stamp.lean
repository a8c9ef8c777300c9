import Disburse.Text.Characters
import Disburse.Text.Numeral
import Disburse.Time.Calendar
import Disburse.Time.Instant

/-!
Written instants: date, `T`, time of day and `Z`, with as few of 0, 3, 6 or 9 decimal places of
the second as hold the value. Reading is more liberal: blanks between the parts, fewer digits, a
signed year, more places (which are dropped), an offset from universal time.
-/

namespace Disburse.Instant

open Disburse.Text
open Disburse.Calendar

/-- The decimal places of a second. -/
def fraction (nanos : Nat) : List Char :=
  if nanos = 0 then []
  else if nanos % 1000000 = 0 then '.' :: Numeral.padded 3 (nanos / 1000000)
  else if nanos % 1000 = 0 then '.' :: Numeral.padded 6 (nanos / 1000)
  else '.' :: Numeral.padded 9 nanos

/-- A year in four digits; years outside of 0 to 9999 have a sign. -/
def yearChars (year : Int) : List Char :=
  if 0 ≤ year ∧ year ≤ 9999 then Numeral.padded 4 year.toNat
  else (if year < 0 then '-' else '+') :: Numeral.padded 4 year.natAbs

/-- Date and time of day, with as many digits of the second as are needed. -/
def chars (t : Instant) : List Char :=
  let date := Date.ofDayNumber (t.seconds / 86400)
  let clock := (t.seconds % 86400).toNat
  let isLeapSecond := decide (1000000000 ≤ t.nanos)
  yearChars date.year ++ '-' :: Numeral.padded 2 date.month ++ '-' :: Numeral.padded 2 date.day ++
    'T' :: Numeral.padded 2 (clock / 3600) ++ ':' :: Numeral.padded 2 (clock / 60 % 60) ++
    ':' :: Numeral.padded 2 (clock % 60 + if isLeapSecond then 1 else 0) ++
    fraction (if isLeapSecond then t.nanos - 1000000000 else t.nanos) ++ ['Z']

def toText (t : Instant) : String :=
  String.ofList t.chars

/-- Up to some digits, at least one. -/
def readDigits (width : Nat) (cs : List Char) : Option (Nat × List Char) :=
  match (cs.take width).takeWhile Char.isDigit with
  | [] => none
  | ds => some (Nat.ofDigitChars 10 ds 0, cs.drop ds.length)

/-- A number of at most some digits, behind white space. -/
def readNumber (width : Nat) (cs : List Char) : Option (Nat × List Char) :=
  readDigits width (trimStart cs)

/-- A year of up to four digits, or of any length behind a sign. -/
def readYear (cs : List Char) : Option (Int × List Char) :=
  match trimStart cs with
  | '-' :: rest => (readDigits rest.length rest).map fun (n, rest) => (-(n : Int), rest)
  | '+' :: rest => (readDigits rest.length rest).map fun (n, rest) => ((n : Int), rest)
  | cs => (readDigits 4 cs).map fun (n, rest) => ((n : Int), rest)

def expect (c : Char) (cs : List Char) : Option (List Char) :=
  match trimStart cs with
  | d :: rest => if d = c then some rest else none
  | [] => none

/-- The decimal places of a second, as nanoseconds. -/
def readFraction : List Char → Option (Nat × List Char)
  | '.' :: cs => do
    let (n, rest) ← readDigits 9 cs
    return (n * Nat.pow 10 (9 - (cs.length - rest.length)), rest.dropWhile Char.isDigit)
  | cs => some (0, cs)

/-- Hours and minutes of an offset, in seconds. -/
def readOffsetSize (cs : List Char) : Option (Int × List Char) :=
  match cs with
  | h₁ :: h₂ :: rest =>
    match rest.dropWhile fun c => c = ':' || isBlank c with
    | m₁ :: m₂ :: rest =>
      if [h₁, h₂, m₁, m₂].all Char.isDigit && m₁.toNat < 54 then
        let hours := Nat.ofDigitChars 10 [h₁, h₂] 0
        let minutes := Nat.ofDigitChars 10 [m₁, m₂] 0
        some (hours * 3600 + minutes * 60, rest)
      else none
    | _ => none
  | _ => none

/-- Seconds by which a clock is ahead of universal time. -/
def readOffset (cs : List Char) : Option (Int × List Char) :=
  match cs with
  | c :: rest =>
    if c = 'Z' || c = 'z' then some (0, rest)
    else if (cs.take 3).map Char.toUpper = ['U', 'T', 'C'] then some (0, cs.drop 3)
    else if c = '+' then readOffsetSize rest
    else if c = '-' || c = Char.ofNat 0x2212 then
      (readOffsetSize rest).map fun (n, rest) => (-n, rest)
    else none
  | [] => none

/-- The instant of a date, a time of day and an offset, if they name one. -/
def ofParts? (date : Date) (hour minute second nanos : Nat) (offset : Int) : Option Instant :=
  if date.IsValid ∧ -262143 ≤ date.year ∧ date.year ≤ 262142 ∧ hour ≤ 23 ∧ minute ≤ 59 ∧
      second ≤ 60 ∧ -86400 < offset ∧ offset < 86400 then
    let isLeapSecond := decide (second = 60)
    let seconds := date.dayNumber * 86400 + hour * 3600 + minute * 60 +
      (if isLeapSecond then 59 else second)
    make? (seconds - offset) (nanos + if isLeapSecond then 1000000000 else 0)
  else none

/-- An instant from its text, with any offset. -/
def read? (s : String) : Option Instant := do
  let (year, cs) ← readYear s.toList
  let cs ← expect '-' cs
  let (month, cs) ← readNumber 2 cs
  let cs ← expect '-' cs
  let (day, cs) ← readNumber 2 cs
  match cs with
  | [] => none
  | mark :: cs =>
    if mark ≠ 't' ∧ mark ≠ 'T' ∧ mark ≠ ' ' then none
    let (hour, cs) ← readNumber 2 cs
    let cs ← expect ':' cs
    let (minute, cs) ← readNumber 2 cs
    let cs ← expect ':' cs
    let (second, cs) ← readNumber 2 cs
    let (nanos, cs) ← readFraction cs
    let (offset, cs) ← readOffset (trimStart cs)
    if (trimStart cs).isEmpty then ofParts? ⟨year, month, day⟩ hour minute second nanos offset
    else none

end Disburse.Instant
