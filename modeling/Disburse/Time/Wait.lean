namespace Disburse

/-- A time to wait; where it would be too long, it is as long as can be. -/
structure Wait where
  nanoseconds : Nat
  deriving DecidableEq, Repr

namespace Wait

def longest : Wait :=
  ⟨(UInt64.size - 1) * 1000000000 + 999999999⟩

def ofSeconds (n : UInt64) : Wait :=
  ⟨n.toNat * 1000000000⟩

def ofMilliseconds (n : UInt64) : Wait :=
  ⟨n.toNat * 1000000⟩

def add (a b : Wait) : Wait :=
  ⟨min longest.nanoseconds (a.nanoseconds + b.nanoseconds)⟩

def times (k : Nat) (a : Wait) : Wait :=
  ⟨min longest.nanoseconds (k * a.nanoseconds)⟩

def max (a b : Wait) : Wait :=
  ⟨Nat.max a.nanoseconds b.nanoseconds⟩

def seconds (a : Wait) : Nat :=
  a.nanoseconds / 1000000000

/-- What is left beside its whole seconds, in nanoseconds. -/
def subsecond (a : Wait) : Nat :=
  a.nanoseconds % 1000000000

end Wait

end Disburse
