import Disburse.Proofs.Concurrency.Alike
import Disburse.Proofs.Ledger.Attempt

/-!
Waiting for a confirmation. A wait polls the ledger until an answer settles the transfer. Whatever
was answered before has no influence on how it ends, and without such an answer it ends after as
many polls as are configured.
-/

namespace Disburse.Executor

open Disburse.Task
open Disburse.Ledger (TxStatus)

variable {σ : Type} {executor : Executor} {request : TransferRequest} {hash : String}
  {answer : Surroundings Ledger.interface σ} {s : σ} {past xs : List (Exchange Ledger.interface)}
  {n k : Nat} {o : Outcome TransferReceipt}

/-- How a wait ends, if the answer to a poll ends it. -/
def settlement? (hash : String) : Outcome TxStatus → Option (Outcome TransferReceipt)
  | .ok (.success ledger) => some (.ok ⟨hash, ledger⟩)
  | .ok (.failed result) => some (.error (.error (.executionFailed (failureText hash result))))
  | .ok .notFound => none
  | .error (.error _) => none
  | .error .crash => some (.error .crash)

/-- What is asked by polls that are answered like this, one after the other. -/
def polls (executor : Executor) (hash : String) (answers : List (Outcome TxStatus)) :
    List (Exchange Ledger.interface) :=
  answers.flatMap fun a =>
    [⟨.pause executor.config.pollMilliseconds.toNat, ()⟩, ⟨.call (.transactionStatus hash), a⟩]

/-- The hash whose status is asked for. -/
def queried? (x : Exchange Ledger.interface) : Option String :=
  match x.request with
  | .call (.transactionStatus hash) => some hash
  | _ => none

/-- One poll: its answer, and the state behind it. -/
def pollOnce (executor : Executor) (answer : Surroundings Ledger.interface σ) (hash : String)
    (s : σ) : Outcome TxStatus × σ :=
  answer (.call (.transactionStatus hash))
    (answer (.pause executor.config.pollMilliseconds.toNat) s).2

/-- What a poll is answered that comes behind so many others. -/
def polled (executor : Executor) (answer : Surroundings Ledger.interface σ) (hash : String) :
    Nat → σ → Outcome TxStatus
  | 0, s => (executor.pollOnce answer hash s).1
  | k + 1, s => polled executor answer hash k (executor.pollOnce answer hash s).2

theorem queried_polls (answers : List (Outcome TxStatus)) :
    (executor.polls hash answers).filterMap queried? = List.replicate answers.length hash := by
  induction answers with
  | nil => rfl
  | cons a answers ih => exact congrArg (hash :: ·) ih

theorem polls_range (k : Nat) (s : σ) :
    executor.polls hash ((List.range (k + 1)).map fun i => executor.polled answer hash i s) =
      executor.polls hash [(executor.pollOnce answer hash s).1] ++
        executor.polls hash ((List.range k).map fun i =>
          executor.polled answer hash i (executor.pollOnce answer hash s).2) := by
  rw [List.range_succ_eq_map, List.map_cons, List.map_map]
  rfl

theorem ends_call {c : Ledger.Call}
    {Q : Outcome c.Value → σ → List (Exchange Ledger.interface) → Prop} :
    Task.Ends answer (Ledger.call c) Q s past ↔
      Q (answer (.call c) s).1 (answer (.call c) s).2
        (past ++ [⟨.call c, (answer (.call c) s).1⟩]) :=
  Iff.rfl

/-- A poll ends the wait, or it is passed over. -/
theorem ends_poll_succ {Q : Outcome TransferReceipt → σ → List (Exchange Ledger.interface) → Prop} :
    (executor.poll hash (n + 1)).Ends answer Q s past ↔
      match settlement? hash (executor.pollOnce answer hash s).1 with
      | some o =>
        Q o (executor.pollOnce answer hash s).2
          (past ++ executor.polls hash [(executor.pollOnce answer hash s).1])
      | none =>
        (executor.poll hash n).Ends answer Q (executor.pollOnce answer hash s).2
          (past ++ executor.polls hash [(executor.pollOnce answer hash s).1]) := by
  have hpast : ∀ a, past ++ executor.polls hash [a] =
      past ++ [⟨.pause executor.config.pollMilliseconds.toNat, ()⟩] ++
        [⟨.call (.transactionStatus hash), a⟩] := by
    intro a
    rw [List.append_assoc]
    rfl
  refine ends_bind.trans ?_
  show Task.Ends answer (_ >>= _) Q (answer (.pause executor.config.pollMilliseconds.toNat) s).2
    (past ++ [⟨.pause executor.config.pollMilliseconds.toNat, ()⟩]) ↔ _
  refine ends_bind.trans (ends_attempt.trans (ends_call.trans ?_))
  rw [hpast, pollOnce]
  rcases (answer (.call (.transactionStatus hash))
    (answer (.pause executor.config.pollMilliseconds.toNat) s).2).1 with
    (e | _) | ledger | result | _
  · rfl
  · rfl
  · exact ends_pure
  · exact ends_fail
  · rfl

theorem ends_poll_settled (hk : k < n)
    (hwaited : ∀ i < k, settlement? hash (executor.polled answer hash i s) = none)
    (hlast : settlement? hash (executor.polled answer hash k s) = some o) :
    (executor.poll hash n).Ends answer (fun o' _ past' => o' = o ∧ past' = past ++
      executor.polls hash ((List.range (k + 1)).map fun i => executor.polled answer hash i s))
      s past := by
  induction k generalizing n s past with
  | zero =>
      obtain ⟨n, rfl⟩ := Nat.exists_eq_succ_of_ne_zero (Nat.ne_of_gt hk)
      have hfirst : settlement? hash (executor.pollOnce answer hash s).1 = some o := hlast
      rw [ends_poll_succ]
      rw [hfirst]
      exact ⟨rfl, rfl⟩
  | succ k ih =>
      obtain ⟨n, rfl⟩ := Nat.exists_eq_succ_of_ne_zero (Nat.ne_of_gt (Nat.zero_lt_of_lt hk))
      have hfirst : settlement? hash (executor.pollOnce answer hash s).1 = none :=
        hwaited 0 (Nat.zero_lt_succ k)
      rw [ends_poll_succ]
      rw [hfirst, polls_range]
      refine (ih (Nat.lt_of_succ_lt_succ hk) (fun i hi => hwaited (i + 1) (Nat.succ_lt_succ hi))
        hlast).imp ?_
      rintro o' s' past' ⟨rfl, rfl⟩
      exact ⟨rfl, List.append_assoc ..⟩

theorem ends_poll_unsettled
    (hwaited : ∀ i < n, settlement? hash (executor.polled answer hash i s) = none) :
    (executor.poll hash n).Ends answer (fun o' _ past' =>
      o' = .error (.error (.confirmationTimeout hash executor.config.maxPolls)) ∧
        past' = past ++
          executor.polls hash ((List.range n).map fun i => executor.polled answer hash i s))
      s past := by
  induction n generalizing s past with
  | zero => exact ends_fail.mpr ⟨rfl, (List.append_nil past).symm⟩
  | succ n ih =>
      have hfirst : settlement? hash (executor.pollOnce answer hash s).1 = none :=
        hwaited 0 (Nat.zero_lt_succ n)
      rw [ends_poll_succ]
      rw [hfirst, polls_range]
      refine (ih fun i hi => hwaited (i + 1) (Nat.succ_lt_succ hi)).imp ?_
      rintro o' s' past' ⟨rfl, rfl⟩
      exact ⟨rfl, List.append_assoc ..⟩

theorem queried_simulated (t : Ledger.Transfer) :
    (executor.simulated t).filterMap queried? = [] := by
  rw [simulated]
  split <;> rfl

theorem Attempt.queried {o : Outcome String} (h : Attempt executor request xs o) :
    xs.filterMap queried? = [] := by
  cases h with
  | unsequenced | exhausted | untimed | unsimulated | invalid => rfl
  | handedIn last now t envelope answer ht hholds =>
      rw [List.filterMap_append, List.filterMap_append, queried_simulated]
      rfl

theorem queried_submit :
    ((executor.submit request).outcome.trace answer s).filterMap queried? = [] :=
  (Attempt.of_reaches (Program.reaches_trace ..)).queried

/-- An execution is a submission and, if this gives a hash, the wait for its confirmation. -/
structure Executes (executor : Executor) (answer : Surroundings Ledger.interface σ)
    (request : TransferRequest) (s : σ) : Prop where
  unqueried : ((executor.submit request).outcome.trace answer s).filterMap queried? = []
  submitted : ∀ hash s', (executor.submit request).outcome.run answer s = (.ok hash, s') →
    (executor.execute request).outcome.run answer s =
        (executor.awaitConfirmation hash).outcome.run answer s' ∧
      (executor.execute request).outcome.trace answer s =
        (executor.submit request).outcome.trace answer s ++
          (executor.awaitConfirmation hash).outcome.trace answer s'
  failed : ∀ e s', (executor.submit request).outcome.run answer s = (.error e, s') →
    (executor.execute request).outcome.run answer s = (.error e, s') ∧
      (executor.execute request).outcome.trace answer s =
        (executor.submit request).outcome.trace answer s

theorem executes (executor : Executor) (answer : Surroundings Ledger.interface σ)
    (request : TransferRequest) (s : σ) : Executes executor answer request s where
  unqueried := queried_submit
  submitted hash s' hsubmit := by
    have hends : (executor.execute request).Ends answer (fun o u past =>
        (o, u) = (executor.awaitConfirmation hash).outcome.run answer s' ∧
          past = (executor.submit request).outcome.trace answer s ++
            (executor.awaitConfirmation hash).outcome.trace answer s') s [] := by
      unfold execute
      rw [ends_bind]
      rw [Task.Ends, Program.Ends, hsubmit]
      exact ⟨rfl, rfl⟩
    exact hends
  failed e s' hsubmit := by
    have hends : (executor.execute request).Ends answer (fun o u past =>
        (o, u) = (.error e, s') ∧
          past = (executor.submit request).outcome.trace answer s) s [] := by
      unfold execute
      rw [ends_bind]
      rw [Task.Ends, Program.Ends, hsubmit]
      exact ⟨rfl, rfl⟩
    exact hends

/-- A wait ends with the first answer that settles the transfer, behind as many polls as it took,
or without one when all polls are used up. An execution asks for a status only in such a wait. -/
theorem confirmation_of_answers (a : Nat → Outcome TxStatus)
    (hanswers : ∀ k < executor.config.maxPolls.toNat, executor.polled answer hash k s = a k) :
    (∀ k < executor.config.maxPolls.toNat, (∀ i < k, settlement? hash (a i) = none) →
      ∀ o, settlement? hash (a k) = some o →
      (executor.awaitConfirmation hash).Ends answer (fun o' _ past => o' = o ∧
        past = executor.polls hash ((List.range (k + 1)).map a) ∧
        past.filterMap queried? = List.replicate (k + 1) hash) s []) ∧
    ((∀ i < executor.config.maxPolls.toNat, settlement? hash (a i) = none) →
      (executor.awaitConfirmation hash).Ends answer (fun o' _ past =>
        o' = .error (.error (.confirmationTimeout hash executor.config.maxPolls)) ∧
        past = executor.polls hash ((List.range executor.config.maxPolls.toNat).map a) ∧
        past.filterMap queried? = List.replicate executor.config.maxPolls.toNat hash) s []) ∧
    ∀ request u, Executes executor answer request u := by
  have hrange : ∀ k ≤ executor.config.maxPolls.toNat,
      ((List.range k).map fun i => executor.polled answer hash i s) = (List.range k).map a := by
    intro k hk
    exact List.map_congr_left fun i hi => hanswers i (Nat.lt_of_lt_of_le (List.mem_range.mp hi) hk)
  have hqueried : ∀ k, (executor.polls hash ((List.range k).map a)).filterMap queried? =
      List.replicate k hash := by
    intro k
    rw [queried_polls, List.length_map, List.length_range]
  refine ⟨fun k hk hwaited o hlast => ?_, fun hwaited => ?_, fun request u => executes ..⟩
  · have hwaited' : ∀ i < k, settlement? hash (executor.polled answer hash i s) = none :=
      fun i hi => hanswers i (Nat.lt_trans hi hk) ▸ hwaited i hi
    refine (ends_poll_settled hk hwaited' (hanswers k hk ▸ hlast)).imp ?_
    rintro o' s' past ⟨rfl, rfl⟩
    rw [List.nil_append, hrange (k + 1) hk]
    exact ⟨rfl, rfl, hqueried (k + 1)⟩
  · have hwaited' : ∀ i < executor.config.maxPolls.toNat,
        settlement? hash (executor.polled answer hash i s) = none :=
      fun i hi => hanswers i hi ▸ hwaited i hi
    refine (ends_poll_unsettled hwaited').imp ?_
    rintro o' s' past ⟨rfl, rfl⟩
    rw [List.nil_append, hrange _ (Nat.le_refl _)]
    exact ⟨rfl, rfl, hqueried _⟩

/-- Polls up to five times. -/
def samplePatient : Executor :=
  { sampleCautious with config := { sampleCautious.config with maxPolls := 5 } }

/-- A ledger that has two answers to give before it reports a success, and that one again. -/
def sampleStatus : Nat → Outcome TxStatus
  | 0 => .ok .notFound
  | 1 => .error (.error (.rpc (-32000) "busy"))
  | _ => .ok (.success 7)

/-- A ledger whose state is how many queries it has answered. -/
def sampleLedger : Surroundings Ledger.interface Nat
  | .call (.accountSequence _), k => (.ok 41, k)
  | .call (.simulate _), k => (.ok .valid, k)
  | .call (.submit _), k => (.ok (.pending "h1"), k)
  | .call (.transactionStatus _), k => (sampleStatus k, k + 1)
  | .now, k => (.epoch, k)
  | .pause _, k => ((), k)

theorem polled_sampleLedger (k n : Nat) :
    samplePatient.polled sampleLedger "h1" k n = sampleStatus (n + k) := by
  induction k generalizing n with
  | zero => rfl
  | succ k ih => exact (ih (n + 1)).trans (congrArg sampleStatus (Nat.succ_add_eq_add_succ n k))

/-- The third answer settles the transfer, and the two polls that are left are not used. -/
theorem confirmation_of_sampleStatus :
    (∀ k < samplePatient.config.maxPolls.toNat,
      samplePatient.polled sampleLedger "h1" k 0 = sampleStatus k) ∧
    (samplePatient.awaitConfirmation "h1").Ends sampleLedger (fun o _ past =>
      o = .ok ⟨"h1", 7⟩ ∧ past.filterMap queried? = ["h1", "h1", "h1"]) 0 [] := by
  have hanswers : ∀ k < samplePatient.config.maxPolls.toNat,
      samplePatient.polled sampleLedger "h1" k 0 = sampleStatus k :=
    fun k _ => (polled_sampleLedger k 0).trans (congrArg sampleStatus (Nat.zero_add k))
  have hwaited : ∀ i < 2, settlement? "h1" (sampleStatus i) = none := by
    decide
  have hsettled := (confirmation_of_answers sampleStatus hanswers).1 2 (by decide) hwaited _ rfl
  exact ⟨hanswers, hsettled.imp fun _ _ _ h => ⟨h.1, h.2.2⟩⟩

end Disburse.Executor
