import Disburse.Event.Basic
import Disburse.Event.Bus
import Disburse.Json.Writer

namespace Disburse

/-- A line of the audit log. -/
inductive AuditEntry where
  | event (e : Event)
  /-- Events that were gone before the listener came to them. -/
  | lagged (missed : Nat)
  | stopped

namespace AuditEntry

def toJson : AuditEntry → Json
  | .event e => .obj [
      ("level", .str "INFO"),
      ("message", .str "Payout event"),
      ("event", .str e.name),
      ("payload", .str e.toJson.render)]
  | .lagged missed => .obj [
      ("level", .str "WARN"),
      ("message", .str "Audit listener lagged behind the event bus"),
      ("skipped", .int missed)]
  | .stopped => .obj [("level", .str "INFO"), ("message", .str "Audit listener stopped")]

end AuditEntry

namespace Audit

/-- What a listener logs of a bus that nothing more is published on. Every step but the last
takes one unit of `fuel`; two more than there are kept events are enough. -/
def drain : Nat → Bus Event → Nat → List AuditEntry
  | 0, _, _ => [.stopped]
  | fuel + 1, bus, listener =>
    match bus.receive listener with
    | (.message e, bus) => .event e :: drain fuel bus listener
    | (.lagged missed, bus) => .lagged missed :: drain fuel bus listener
    | (.empty, _) => [.stopped]
    | (.closed, _) => [.stopped]
    | (.absent, _) => [.stopped]

/-- All that a listener writes until it stops. -/
def log (bus : Bus Event) (listener : Nat) : List AuditEntry :=
  drain (bus.kept.length + 2) bus listener

/-- Subscribe one listener, publish events, close the bus unless the listener is stopped first,
and let it run: how many listeners every event had, and the log. -/
def session (bus : Bus Event) (events : List Event) (stopped : Bool) :
    List Nat × List AuditEntry :=
  let publishOne := fun (state : List Nat × Bus Event) e =>
    let (count, bus) := state.2.publish e
    (state.1 ++ [count.getD 0], bus)
  let (counts, bus) := events.foldl publishOne ([], bus.subscribe 0)
  (counts, if stopped then [.stopped] else log bus.close.2 0)

end Audit

end Disburse
