namespace Disburse.Calendar

/-- Months and days count from one. -/
structure Date where
  year : Int
  month : Nat
  day : Nat
  deriving DecidableEq, Repr

/-- Leap years of the Gregorian calendar. -/
def isLeap (year : Int) : Bool :=
  year % 4 = 0 && (year % 100 ≠ 0 || year % 400 = 0)

def monthLengths (leap : Bool) : List Nat :=
  [31, if leap then 29 else 28, 31, 30, 31, 30, 31, 31, 30, 31, 30, 31]

/-- The days from the year 0 up to a year. -/
def daysBeforeYear (year : Int) : Int :=
  365 * year + (year + 3) / 4 - (year + 99) / 100 + (year + 399) / 400

/-- The day number of the first day of year zero is minus this. -/
def epochShift : Int := 719528

def Date.IsValid (d : Date) : Prop :=
  1 ≤ d.month ∧ d.month ≤ 12 ∧ 1 ≤ d.day ∧
    d.day ≤ (monthLengths (isLeap d.year)).getD (d.month - 1) 0

instance (d : Date) : Decidable d.IsValid :=
  inferInstanceAs (Decidable (_ ∧ _))

/-- The number of a day, counted from the first of January 1970. -/
def Date.dayNumber (d : Date) : Int :=
  let months := (monthLengths (isLeap d.year)).take (d.month - 1)
  let days : Nat := months.foldr (· + ·) d.day
  daysBeforeYear d.year + days - 1 - epochShift

/-- The year that holds a day, counted from the first day of year zero. The quotient by the mean
length of a year is off by one at most. -/
def yearOfDay (day : Int) : Int :=
  let guess := 400 * day / 146097
  if day < daysBeforeYear guess then guess - 1
  else if daysBeforeYear (guess + 1) ≤ day then guess + 1
  else guess

/-- How many of the months have passed on a day of the year, and the days into the next one. -/
def monthOfDay : List Nat → Nat → Nat × Nat
  | [], day => (0, day)
  | length :: rest, day =>
    if day < length then (0, day)
    else
      let (month, day) := monthOfDay rest (day - length)
      (month + 1, day)

def Date.ofDayNumber (n : Int) : Date :=
  let day := n + epochShift
  let year := yearOfDay day
  let (month, rest) := monthOfDay (monthLengths (isLeap year)) (day - daysBeforeYear year).toNat
  ⟨year, month + 1, rest + 1⟩

end Disburse.Calendar
