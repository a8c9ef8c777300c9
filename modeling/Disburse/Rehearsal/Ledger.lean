import Disburse.Engine.Interface

namespace Disburse.Rehearsal

open Disburse.Ledger

/-- Answers of the ledger to come. The last one of each kind stays. -/
structure LedgerDouble where
  sequences : List (Outcome Int64)
  simulations : List (Outcome Simulation)
  submissions : List (Outcome Submission)
  statuses : List (Outcome TxStatus)

/-- The first of some answers, and those that are left; the last one stays. -/
def takeTurn {α : Type} (fallback : α) : List α → α × List α
  | [] => (fallback, [])
  | [a] => (a, [a])
  | a :: rest => (a, rest)

namespace LedgerDouble

def answer (l : LedgerDouble) : (c : Call) → Outcome c.Value × LedgerDouble
  | .accountSequence _ =>
    let (a, rest) := takeTurn (.ok 0) l.sequences
    (a, { l with sequences := rest })
  | .simulate _ =>
    let (a, rest) := takeTurn (.ok .valid) l.simulations
    (a, { l with simulations := rest })
  | .submit _ =>
    let (a, rest) := takeTurn (.ok (.pending "hash-1")) l.submissions
    (a, { l with submissions := rest })
  | .transactionStatus _ =>
    let (a, rest) := takeTurn (.ok .notFound) l.statuses
    (a, { l with statuses := rest })

end LedgerDouble

/-- A scripted ledger, the calls it got so far, and a clock that stands still. -/
structure LedgerStage where
  ledger : LedgerDouble
  calls : List Call
  now : Instant

namespace LedgerStage

def answer : Surroundings Ledger.interface LedgerStage
  | .call c, s =>
    let (a, ledger) := s.ledger.answer c
    (a, { s with ledger, calls := s.calls ++ [c] })
  | .now, s => (s.now, s)
  | .pause _, s => ((), s)

def run {α : Type} (s : LedgerStage) (t : Task Ledger.interface α) : Outcome α × LedgerStage :=
  t.outcome.run answer s

end LedgerStage

end Disburse.Rehearsal
