namespace Disburse

structure Span where
  nanoseconds : Int
  deriving DecidableEq, Repr

namespace Span

/-- The greatest number of milliseconds that a span is made of, in either direction. -/
def maxMilliseconds : Int := Int64.maxValue.toInt

def ofMilliseconds? (n : Int) : Option Span :=
  if -maxMilliseconds ≤ n ∧ n ≤ maxMilliseconds then some ⟨n * 1000000⟩ else none

def ofSeconds? (n : Int) : Option Span :=
  ofMilliseconds? (n * 1000)

/-- A multiple of a span; its whole seconds stay strictly inside the signed 64-bit range. -/
def times? (s : Span) (k : Nat) : Option Span :=
  let product := s.nanoseconds * k
  let seconds := product / 1000000000
  if Int64.minValue.toInt < seconds ∧ seconds < Int64.maxValue.toInt then some ⟨product⟩ else none

/-- The whole milliseconds of a span, if they fit into 64 bits. -/
def milliseconds? (s : Span) : Option Int :=
  let n := s.nanoseconds.tdiv 1000000
  if Int64.minValue.toInt ≤ n ∧ n ≤ Int64.maxValue.toInt then some n else none

/-- The same span, backwards. -/
def reverse (s : Span) : Span :=
  ⟨-s.nanoseconds⟩

end Span

end Disburse
