import Disburse.Ledger.Client

namespace Disburse.Rehearsal

open Disburse.Ledger

/-- The answers to come, the requests that got one, and a clock that stands still. -/
structure NetworkStage where
  answers : List Http.Response
  requests : List Http.Request
  now : Instant

namespace NetworkStage

/-- A request reaches the other side only if there is an answer for it. -/
def answer : Surroundings Http.interface NetworkStage
  | request, s =>
    match s.answers with
    | [] => (none, s)
    | a :: rest => (some a, { s with answers := rest, requests := s.requests ++ [request] })

def ledger (client : Client) : Surroundings Ledger.interface NetworkStage
  | .call c, s => (client.answer c).outcome.run answer s
  | .now, s => (s.now, s)
  | .pause _, s => ((), s)

def run {α : Type} (s : NetworkStage) (client : Client) (t : Task Ledger.interface α) :
    Outcome α × NetworkStage :=
  t.outcome.run (ledger client) s

end NetworkStage

end Disburse.Rehearsal
