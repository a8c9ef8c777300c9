import Disburse.Time.Span

/-!
Instants in universal time, to the nanosecond, from year -262143 to year 262142. A leap second is
a second fifty-nine that has more than a thousand million nanoseconds.
-/

namespace Disburse

/-- A point in time, to the nanosecond. A leap second goes on beyond its billionth nanosecond. -/
structure Instant where
  /-- Seconds since the first of January 1970. -/
  seconds : Int
  nanos : Nat
  seconds_ge : -8334601228800 ≤ seconds
  seconds_le : seconds ≤ 8210266876799
  nanos_lt : nanos < 2000000000
  leap : 1000000000 ≤ nanos → seconds % 60 = 59
  deriving DecidableEq

namespace Instant

/-- The instant of these numbers, if they are in range. -/
def make? (seconds : Int) (nanos : Nat) : Option Instant :=
  if h₁ : -8334601228800 ≤ seconds then
    if h₂ : seconds ≤ 8210266876799 then
      if h₃ : nanos < 2000000000 then
        if h₄ : 1000000000 ≤ nanos → seconds % 60 = 59 then some ⟨seconds, nanos, h₁, h₂, h₃, h₄⟩
        else none
      else none
    else none
  else none

/-- The first of January 1970. -/
def epoch : Instant :=
  ⟨0, 0, by decide, by decide, by decide, by decide⟩

instance : Inhabited Instant := ⟨epoch⟩

/-- At or before. -/
def ble (a b : Instant) : Bool :=
  a.seconds < b.seconds || (a.seconds = b.seconds && a.nanos ≤ b.nanos)

def blt (a b : Instant) : Bool :=
  a.seconds < b.seconds || (a.seconds = b.seconds && a.nanos < b.nanos)

/-- Whole milliseconds since 1970, rounded down. -/
def toMilliseconds (t : Instant) : Int :=
  t.seconds * 1000 + t.nanos / 1000000

/-- The instant of a number of milliseconds, if it is in range. -/
def ofMilliseconds? (n : Int) : Option Instant :=
  make? (n / 1000) ((n % 1000).toNat * 1000000)

/-- The instant a number of nanoseconds after the start of 1970, leap seconds not counted. -/
def ofNanoseconds? (n : Int) : Option Instant :=
  make? (n / 1000000000) (n % 1000000000).toNat

/-- The instant a span later, if it is in range. A leap second is left at its own end when the
span leads forward out of it, and at the following second when it leads back. -/
def add? (t : Instant) (s : Span) : Option Instant :=
  let seconds := s.nanoseconds.tdiv 1000000000
  let nanos := s.nanoseconds.tmod 1000000000
  if t.nanos < 1000000000 then
    ofNanoseconds? (t.seconds * 1000000000 + t.nanos + s.nanoseconds)
  else if 0 < seconds ∨ (0 < nanos ∧ 2000000000 ≤ t.nanos + nanos) then
    ofNanoseconds? (t.seconds * 1000000000 + (t.nanos - 1000000000) + s.nanoseconds)
  else if seconds < 0 then
    ofNanoseconds? ((t.seconds + 1) * 1000000000 + (t.nanos - 1000000000) + s.nanoseconds)
  else
    make? t.seconds (t.nanos + nanos).toNat

/-- A span earlier; absent if that is out of range. -/
def sub? (t : Instant) (s : Span) : Option Instant :=
  t.add? s.reverse

/-- What a system clock reads that is set to an instant. It counts from 1970, and gives no reading
before that. -/
def reading? (t : Instant) : Option Instant :=
  if 0 ≤ t.seconds then some t else none

end Instant

end Disburse
