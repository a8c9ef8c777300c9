import Disburse.Proofs.Ledger.Envelope
import Disburse.Proofs.Ledger.Executor
import Disburse.Proofs.Time.Instant

/-!
One attempt at a transfer: what it asks of the ledger, and how it ends. It hands in one envelope at
most, and what this one opens to is the transfer that was simulated.
-/

namespace Disburse

/-- The same transfer, but that an amount of zero may have a sign or not. -/
def Ledger.Transfer.Same (t t' : Transfer) : Prop :=
  t.payment.amount.Same t'.payment.amount ∧
    t = { t' with payment := { t'.payment with amount := t.payment.amount } }

/-- What an envelope holds. -/
def Ledger.Envelope.Holds (envelope : Envelope) (t : Transfer) : Prop :=
  ∃ sent, envelope.transfer? = some sent ∧ sent.Same t

namespace Executor

open Disburse.Code
open Disburse.Ledger (Envelope Simulation Submission Transfer accepted)

variable {executor : Executor} {request : TransferRequest} {last : Int64} {now : Instant}
  {hash : String} {past xs : List (Exchange Ledger.interface)} {o : Outcome String}

/-- The transfer that is due to a request, with the last sequence number that was used and the time
of its making. -/
structure Orders (config : ExecutorConfig) (request : TransferRequest) (last : Int64)
    (now : Instant) (t : Transfer) : Prop where
  source : t.source = config.sourceAccount
  sequence : t.sequence.toInt = last.toInt + 1
  fee : t.fee = config.baseFee
  maxTime : t.maxTime.toInt =
    min Int64.maxValue.toInt (now.seconds + config.timeoutSeconds.toNat)
  passphrase : t.passphrase = config.passphrase
  memo : t.memo = request.memo
  payment : t.payment = ⟨request.destination, request.amount, request.asset⟩

/-- How an attempt ends whose submission is answered like this. -/
def verdict : Outcome Submission → Outcome String
  | .ok (.pending hash) => .ok hash
  | .ok (.rejected _ reason) => .error (.error (.executionFailed reason))
  | .error e => .error e

/-- What is asked and answered before a submission. -/
def simulated (executor : Executor) (t : Transfer) : List (Exchange Ledger.interface) :=
  if executor.config.simulates then [⟨.call (.simulate t), .ok .valid⟩] else []

/-- An envelope is handed in. -/
def isHandIn (x : Exchange Ledger.interface) : Bool :=
  match x.request with
  | .call (.submit _) => true
  | _ => false

/-- The requests of one attempt with their answers, and its end. Besides the ledger, only the clock
is asked. -/
inductive Attempt (executor : Executor) (request : TransferRequest) :
    List (Exchange Ledger.interface) → Outcome String → Prop where
  | unsequenced (e : Abort) :
      Attempt executor request
        [⟨.call (.accountSequence executor.config.sourceAccount), .error e⟩] (.error e)
  /-- There is no sequence number behind the last one. -/
  | exhausted :
      Attempt executor request
        [⟨.call (.accountSequence executor.config.sourceAccount), .ok Int64.maxValue⟩]
        (.error .crash)
  /-- The clock stands before 1970. -/
  | untimed (last : Int64) (now : Instant) (hlast : last ≠ Int64.maxValue)
      (hnow : now.seconds < 0) :
      Attempt executor request
        [⟨.call (.accountSequence executor.config.sourceAccount), .ok last⟩, ⟨.now, now⟩]
        (.error .crash)
  | unsimulated (last : Int64) (now : Instant) (t : Transfer) (e : Abort)
      (hsimulates : executor.config.simulates = true)
      (ht : Orders executor.config request last now t) :
      Attempt executor request
        [⟨.call (.accountSequence executor.config.sourceAccount), .ok last⟩, ⟨.now, now⟩,
          ⟨.call (.simulate t), .error e⟩] (.error e)
  | invalid (last : Int64) (now : Instant) (t : Transfer) (reason : String)
      (hsimulates : executor.config.simulates = true)
      (ht : Orders executor.config request last now t) :
      Attempt executor request
        [⟨.call (.accountSequence executor.config.sourceAccount), .ok last⟩, ⟨.now, now⟩,
          ⟨.call (.simulate t), .ok (.invalid reason)⟩] (.error (.error (.simulationFailed reason)))
  | handedIn (last : Int64) (now : Instant) (t : Transfer) (envelope : Envelope)
      (answer : Outcome Submission) (ht : Orders executor.config request last now t)
      (hholds : envelope.Holds t) :
      Attempt executor request
        ([⟨.call (.accountSequence executor.config.sourceAccount), .ok last⟩, ⟨.now, now⟩] ++
          executor.simulated t ++ [⟨.call (.submit envelope), answer⟩]) (verdict answer)

theorem holds_sign (t : Transfer) (signer : Ledger.Signer) : (t.sign signer).Holds t :=
  ⟨_, Transfer.transfer?_sign_eq t signer, t.payment.amount.same_dropZeroSign, rfl⟩

theorem nextSequence?_cases (last : Int64) :
    (last = Int64.maxValue ∧ nextSequence? last = none) ∨
      last ≠ Int64.maxValue ∧
        ∃ next, nextSequence? last = some next ∧ next.toInt = last.toInt + 1 := by
  by_cases hlast : last = Int64.maxValue
  · exact .inl ⟨hlast, if_pos hlast⟩
  · refine .inr ⟨hlast, last + 1, if_neg hlast, ?_⟩
    have hge := last.le_toInt
    have hle := last.toInt_le
    have hne : last.toInt ≠ Int64.maxValue.toInt := mt Int64.toInt_inj.mp hlast
    have hlimit := Int64.toInt_maxValue
    rw [Int64.toInt_add, Int64.toInt_one, Int.bmod_eq_of_le] <;> omega

theorem toInt_maxTime {config : ExecutorConfig} (hnow : 0 ≤ now.seconds) :
    (maxTime config now).toInt =
      min Int64.maxValue.toInt (now.seconds + config.timeoutSeconds.toNat) := by
  -- A timeout that is cut by itself reaches the limit without the clock.
  have hmax := Int64.toInt_maxValue
  rw [maxTime, Int64.toInt_ofInt_of_le] <;> omega

theorem orders_build {next : Int64} (hnext : next.toInt = last.toInt + 1)
    (hnow : 0 ≤ now.seconds) :
    Orders executor.config request last now (build executor.config request next now) where
  source := rfl
  sequence := hnext
  fee := rfl
  maxTime := toInt_maxTime hnow
  passphrase := rfl
  memo := rfl
  payment := rfl

theorem heeds_call_eq (c : Ledger.Call) :
    (free Ledger.interface).Heeds (Ledger.call c) (fun o past' => past' = past ++ [⟨.call c, o⟩])
      past := by
  constructor
  · exact trivial
  · intro _ _
    exact rfl

theorem heeds_ledger_now :
    (free Ledger.interface).Heeds Ledger.now
      (fun o past' => ∃ now : Instant, past' = past ++ [⟨.now, now⟩] ∧ o = .ofInRange now.reading?)
      past := by
  constructor
  · exact trivial
  · intro now _
    exact ⟨now, rfl, rfl⟩

theorem heeds_submit_attempt :
    (free Ledger.interface).Heeds (executor.submit request)
      (fun o past => Attempt executor request past o) [] := by
  refine Heeds.bind (heeds_call_eq _) ?_ ?_
  swap
  · rintro e _ rfl
    exact .unsequenced e
  rintro last _ rfl
  rcases nextSequence?_cases last with ⟨rfl, hnext⟩ | ⟨hlast, next, hnext, hsucc⟩
  · rw [hnext]
    exact .exhausted
  rw [hnext]
  refine Heeds.bind (t := Ledger.now) heeds_ledger_now ?_ ?_
  swap
  · rintro e _ ⟨now, rfl, he⟩
    obtain ⟨hnow, rfl⟩ := Outcome.ofInRange_eq_error_iff.mp he.symm
    exact .untimed last now hlast (Instant.reading?_eq_none_iff.mp hnow)
  rintro _ _ ⟨now, rfl, hok⟩
  have hreading : now.reading? = some _ := Outcome.ofInRange_eq_ok_iff.mp hok.symm
  obtain ⟨hnow, rfl⟩ := Instant.reading?_eq_some_iff.mp hreading
  extract_lets transfer handIn
  have ht : Orders executor.config request last now transfer := orders_build hsucc hnow
  have hholds := holds_sign transfer executor.signer
  have hhandIn : ∀ past, past = [⟨.call (.accountSequence executor.config.sourceAccount), .ok last⟩,
      ⟨.now, now⟩] ++ executor.simulated transfer → (free Ledger.interface).Heeds (handIn ())
        (fun o past' => Attempt executor request past' o) past := by
    rintro _ rfl
    refine Heeds.bind (heeds_call_eq _) ?_ ?_
    · rintro (hash | ⟨_, reason⟩) _ rfl
      · exact .handedIn last now transfer _ (.ok (.pending hash)) ht hholds
      · exact .handedIn last now transfer _ (.ok (.rejected _ reason)) ht hholds
    · rintro e _ rfl
      exact .handedIn last now transfer _ (.error e) ht hholds
  by_cases hsimulates : executor.config.simulates = true
  · rw [if_pos hsimulates]
    refine Heeds.bind (heeds_call_eq _) ?_ ?_
    · rintro (_ | reason) _ rfl
      · exact hhandIn _ (by simp [simulated, hsimulates])
      · exact .invalid last now transfer reason hsimulates ht
    · rintro e _ rfl
      exact .unsimulated last now transfer e hsimulates ht
  · rw [if_neg hsimulates]
    exact hhandIn _ (by simp [simulated, hsimulates])

theorem verdict_eq_ok_iff {answer : Outcome Submission} :
    verdict answer = .ok hash ↔ answer = .ok (.pending hash) := by
  constructor
  · intro h
    rcases answer with e | ⟨pending⟩ | ⟨_, reason⟩
    · cases h
    · cases h
      rfl
    · cases h
  · rintro rfl
    rfl

theorem isHandIn_of_mem_simulated {t : Transfer} {x : Exchange Ledger.interface}
    (h : x ∈ executor.simulated t) : isHandIn x = false := by
  rw [simulated] at h
  split at h
  · rw [List.mem_singleton.mp h]
    rfl
  · cases h

namespace Attempt

theorem of_reaches (h : (executor.submit request).outcome.Reaches xs (.done o)) :
    Attempt executor request xs o :=
  of_reaches_done heeds_submit_attempt h

theorem countP_isHandIn_le (h : Attempt executor request xs o) : xs.countP isHandIn ≤ 1 := by
  cases h with
  | unsequenced | exhausted | untimed | unsimulated | invalid => exact Nat.zero_le 1
  | handedIn last now t envelope answer ht hholds =>
      have hsimulated : (executor.simulated t).countP isHandIn = 0 :=
        List.countP_eq_zero.mpr fun x hx => by simp [isHandIn_of_mem_simulated hx]
      rw [List.countP_append, List.countP_append, hsimulated]
      exact Nat.le_refl 1

theorem eq_verdict {envelope : Envelope} {answer : Outcome Submission}
    (h : Attempt executor request xs o) (hmem : ⟨.call (.submit envelope), answer⟩ ∈ xs) :
    o = verdict answer := by
  cases h with
  | unsequenced | exhausted | untimed | unsimulated | invalid => simp at hmem
  | handedIn last now t envelope' answer' ht hholds =>
      rcases List.mem_append.mp hmem with hmem | hmem
      · rcases List.mem_append.mp hmem with hmem | hmem
        · simp at hmem
        · cases isHandIn_of_mem_simulated hmem
      · cases List.mem_singleton.mp hmem
        rfl

/-- A hash is given for an envelope that the ledger has taken under it, and for nothing else. -/
theorem eq_ok_iff (h : Attempt executor request xs o) :
    o = .ok hash ↔ ∃ envelope, accepted envelope hash ∈ xs := by
  constructor
  · rintro rfl
    generalize hend : (.ok hash : Outcome String) = o at h
    cases h with
    | unsequenced | exhausted | untimed | unsimulated | invalid => cases hend
    | handedIn last now t envelope answer ht hholds =>
        cases verdict_eq_ok_iff.mp hend.symm
        exact ⟨envelope, List.mem_append_right _ (List.mem_singleton_self _)⟩
  · rintro ⟨envelope, hmem⟩
    exact h.eq_verdict hmem

end Attempt

/-- A submission asks for the account's sequence, simulates the transfer that is due if this is
configured, and hands in one envelope at most, which holds that very transfer. It gives a hash if
and only if the ledger has taken the envelope under it. -/
theorem attempt_of_submit (h : (executor.submit request).outcome.Reaches xs (.done o)) :
    Attempt executor request xs o ∧ xs.countP isHandIn ≤ 1 ∧
      ∀ hash, o = .ok hash ↔ ∃ envelope, accepted envelope hash ∈ xs := by
  have hattempt := Attempt.of_reaches h
  exact ⟨hattempt, hattempt.countP_isHandIn_le, fun _ => hattempt.eq_ok_iff⟩

/-- Simulates before it signs, and sets the longest validity that can be configured. -/
def sampleCautious : Executor where
  signer := Ledger.sampleSigner
  config := ⟨"GPAY", "Test Network", 100, 18446744073709551615, 1000, 2, true⟩

/-- A transfer of twelve units to `GDEST`. -/
def sampleRequest : TransferRequest where
  destination := "GDEST"
  amount := .ofParts false 1200 2
  asset := "X"
  memo := "memo"

def sampleBuilt : Transfer :=
  build sampleCautious.config sampleRequest 42 .epoch

/-- What a ledger is asked that finds the transfer valid and answers its submission like this. -/
def sampleExchanges (submission : Submission) : List (Exchange Ledger.interface) :=
  [⟨.call (.accountSequence "GPAY"), .ok 41⟩, ⟨.now, .epoch⟩,
    ⟨.call (.simulate sampleBuilt), .ok .valid⟩,
    ⟨.call (.submit (sampleBuilt.sign Ledger.sampleSigner)), .ok submission⟩]

theorem reaches_sampleExchanges (submission : Submission) :
    (sampleCautious.submit sampleRequest).outcome.Reaches (sampleExchanges submission)
      (.done (verdict (.ok submission))) := by
  cases submission <;> exact .ask (.ask (.ask (.ask (.refl _))))

theorem attempt_of_sampleExchanges :
    (sampleCautious.submit sampleRequest).outcome.Reaches
        (sampleExchanges (.pending "h1")) (.done (.ok "h1")) ∧
      Attempt sampleCautious sampleRequest (sampleExchanges (.pending "h1")) (.ok "h1") ∧
      (sampleExchanges (.pending "h1")).countP isHandIn ≤ 1 := by
  have hreaches := reaches_sampleExchanges (.pending "h1")
  have hattempt := attempt_of_submit hreaches
  exact ⟨hreaches, hattempt.1, hattempt.2.1⟩

end Executor

end Disburse
