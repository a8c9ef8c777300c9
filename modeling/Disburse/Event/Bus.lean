/-!
A bus that hands every message to every listener subscribed at the time. The newest messages are
kept, up to the capacity; a listener that falls further behind is told once how many it missed,
and goes on with the oldest one that is kept. Without listeners nothing is kept.
-/

namespace Disburse

/-- A listener, and the position of the message it reads next. -/
structure Subscription where
  listener : Nat
  next : Nat
  deriving DecidableEq

/-- A bus with a bounded memory: who is too slow misses the oldest messages. -/
structure Bus (α : Type) where
  capacity : Nat
  /-- Kept messages, the oldest one first. -/
  kept : List α
  /-- The position of the next message. -/
  position : Nat
  subscriptions : List Subscription
  isOpen : Bool

/-- What a listener gets when it asks for its next message. -/
inductive Reception (α : Type) where
  | message (a : α)
  | lagged (missed : Nat)
  | empty
  | closed
  | absent

namespace Bus

variable {α : Type}

/-- The greatest capacity that can be asked for. -/
def maxCapacity : Nat := Nat.pow 2 63 - 1

/-- The capacity of the bus of events. -/
def defaultCapacity : Nat := 256

/-- A bus of at least this capacity, rounded up to a power of two; absent if it is too large. -/
def make? (requested : Nat) : Option (Bus α) :=
  if requested ≤ maxCapacity then
    some
      { capacity := (max requested 1).nextPowerOfTwo
        kept := []
        position := 0
        subscriptions := []
        isOpen := true }
  else none

/-- The position of the oldest message that is kept. -/
def oldest (bus : Bus α) : Nat :=
  bus.position - bus.kept.length

/-- Take a listener off the bus, and say whether it was there. -/
def unsubscribe (bus : Bus α) (listener : Nat) : Bool × Bus α :=
  (bus.subscriptions.any (·.listener = listener),
    { bus with subscriptions := bus.subscriptions.filter (·.listener ≠ listener) })

/-- Add a listener, in the place of one of its name; a closed bus takes none. -/
def subscribe (bus : Bus α) (listener : Nat) : Bus α :=
  if bus.isOpen then
    let rest := (bus.unsubscribe listener).2
    { rest with subscriptions := rest.subscriptions ++ [⟨listener, bus.position⟩] }
  else bus

/-- No more messages; says whether the bus was open. -/
def close (bus : Bus α) : Bool × Bus α :=
  (bus.isOpen, { bus with isOpen := false })

/-- Hand out a message; gives the number of its listeners, or nothing on a closed bus. -/
def publish (bus : Bus α) (a : α) : Option Nat × Bus α :=
  if !bus.isOpen then (none, bus)
  else if bus.subscriptions.isEmpty then (some 0, bus)
  else
    let all := bus.kept ++ [a]
    (some bus.subscriptions.length,
      { bus with
        kept := all.drop (all.length - bus.capacity)
        position := bus.position + 1 })

def moveTo (bus : Bus α) (listener next : Nat) : Bus α :=
  { bus with
    subscriptions := bus.subscriptions.map fun s =>
      if s.listener = listener then { s with next } else s }

/-- The next message for a listener, or how many it has missed. -/
def receive (bus : Bus α) (listener : Nat) : Reception α × Bus α :=
  match bus.subscriptions.find? (·.listener = listener) with
  | none => (.absent, bus)
  | some s =>
    if s.next < bus.oldest then (.lagged (bus.oldest - s.next), bus.moveTo listener bus.oldest)
    else match bus.kept[s.next - bus.oldest]? with
      | some a => (.message a, bus.moveTo listener (s.next + 1))
      | none => (if bus.isOpen then .empty else .closed, bus)

end Bus

end Disburse
