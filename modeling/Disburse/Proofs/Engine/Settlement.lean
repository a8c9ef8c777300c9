import Disburse.Proofs.Engine.Provenance
import Disburse.Proofs.Engine.Wiring
import Disburse.Proofs.Ledger.Client
import Disburse.Proofs.Ledger.Envelope
import Disburse.Proofs.Ledger.Executor

/-!
No completion without a success on the ledger. The engine's run that follows a run over the ledger
has its transfers answered from calls of the ledger, and whatever stands in its store goes back to
such transfers.
-/

namespace Disburse.Engine

open Disburse.Ledger (accepted succeeded)

variable {policy : RetryPolicy} {executor : Executor} {request : TransferRequest} {p : Payout}
  {hash transactionRef : String} {ledger : Int64} {calls : List (Exchange Ledger.interface)}
  {xs : List (Exchange interface)}

/-- The ledger took an envelope with this transfer inside. -/
def Took (calls : List (Exchange Ledger.interface)) (request : TransferRequest) (hash : String) :
    Prop :=
  ∃ envelope t, accepted envelope hash ∈ calls ∧ envelope.transfer? = some t ∧
    t.memo = request.memo ∧ t.payment = ⟨request.destination, request.amount, request.asset⟩

theorem Supplied.took (h : Supplied executor calls (submission request hash))
    (hpositive : request.amount.IsPositive) : Took calls request hash := by
  obtain ⟨ys, hys, hreaches⟩ := h
  obtain ⟨sequence, now, hmem⟩ := Executor.accepted_of_submit hreaches
  have htransfer := Ledger.Transfer.transfer?_sign
    (t := Executor.build executor.config request sequence now) executor.signer
    (Ledger.Payment.isExact_of_isPositive hpositive)
  exact ⟨_, _, hys hmem, htransfer, rfl, rfl⟩

theorem Supplied.succeeded_of_confirmation
    (h : Supplied executor calls (confirmation hash ⟨transactionRef, ledger⟩)) :
    transactionRef = hash ∧ succeeded hash ledger ∈ calls := by
  obtain ⟨ys, hys, hreaches⟩ := h
  obtain ⟨href, hmem⟩ := Executor.succeeded_of_awaitConfirmation hreaches
  exact ⟨href, hys hmem⟩

theorem Supplied.succeeded_of_landing (h : Supplied executor calls (landing hash ledger)) :
    succeeded hash ledger ∈ calls := by
  obtain ⟨ys, hys, hreaches⟩ := h
  exact hys (Executor.succeeded_of_lookup hreaches)

theorem Settled.on_ledger (h : Settled xs request transactionRef ledger)
    (hxs : ∀ x ∈ xs, Supplied executor calls x) (hpositive : request.amount.IsPositive) :
    succeeded transactionRef ledger ∈ calls ∧ Took calls request transactionRef := by
  rcases h with ⟨hash, hsubmit, hconfirm⟩ | ⟨hsubmit, hland⟩
  · obtain ⟨rfl, hsuccess⟩ := (hxs _ hconfirm).succeeded_of_confirmation
    exact ⟨hsuccess, (hxs _ hsubmit).took hpositive⟩
  · exact ⟨(hxs _ hland).succeeded_of_landing, (hxs _ hsubmit).took hpositive⟩

/-- Behind every completed record are a success that the ledger has answered and a submission that
it has taken under the same hash, of an envelope with that record's transfer inside. A success
that the client answers was read from an answer to `getTransaction` that reports no error. -/
theorem completion_settled (policy : RetryPolicy) (executor : Executor)
    (moves : List (wired policy executor).Move) :
    (∀ (id : PayoutId) (p : Payout),
      ((wired policy executor).run moves).state.engine.store.find? id = some p →
      p.status = .completed →
      ∃ hash ledger, p.transactionRef = some hash ∧ p.ledgerRef = some ledger ∧
        succeeded hash ledger ∈ ((wired policy executor).run moves).state.calls ∧
        ∃ envelope t, accepted envelope hash ∈ ((wired policy executor).run moves).state.calls ∧
          envelope.transfer? = some t ∧ t.memo = id.toText ∧
          t.payment = ⟨p.recipient, p.amount, p.asset⟩ ∧ t.payment.amount.IsPositive) ∧
    ∀ (client : Ledger.Client) (hash : String) (ledger : Int64)
      (xs : List (Exchange Http.interface)),
      (client.transactionStatus hash).outcome.Reaches xs (.done (.ok (.success ledger))) →
      ∃ (response : Http.Response) (result : Ledger.StatusResult),
        xs = [⟨client.rpcRequest "getTransaction" [("hash", .str hash)], some response⟩] ∧
        response.Gives (Ledger.RpcResponse.ofJson? Ledger.StatusResult.ofJson?)
          ⟨some result, none⟩ ∧
        result.status = "SUCCESS" ∧ result.ledger = some ledger := by
  refine ⟨fun id p hp hstatus => ?_,
    fun client hash ledger xs h => Ledger.Client.gives_of_transactionStatus h⟩
  obtain ⟨followed, hfollows⟩ := exists_follows_run moves
  rw [← hfollows.store] at hp
  have hbacked := backed_run.1 p (MemoryStore.mem_of_find? hp)
  have hid : p.id = id := MemoryStore.find?_id hp
  obtain ⟨hash, ledger, href, hledger, hsettled⟩ := hbacked.completed hstatus
  have hsupplied : ∀ x ∈ ((concurrent policy).run followed).state.log.map Entry.exchange,
      Supplied executor ((wired policy executor).run moves).state.calls x := by
    intro x hx
    obtain ⟨e, he, rfl⟩ := List.mem_map.mp hx
    exact hfollows.supplied e he
  obtain ⟨hsuccess, envelope, t, haccepted, htransfer, hmemo, hpayment⟩ :=
    hsettled.on_ledger hsupplied hbacked.positive
  exact ⟨hash, ledger, href, hledger, hsuccess, envelope, t, haccepted, htransfer,
    hid ▸ hmemo, hpayment, hpayment ▸ hbacked.positive⟩

def sampleExecutor : Executor where
  signer := ⟨List.replicate 32 0, rfl⟩
  config := ⟨"GPAY", "Test Network", 100, 300, 1000, 2, false⟩

/-- A ledger that takes every envelope as `h1`, and has applied it in ledger 7. -/
def sampleLedger : (r : Ledger.Request) → Ledger.interface.Answer r
  | .call (.accountSequence _) => .ok 41
  | .call (.simulate _) => .ok .valid
  | .call (.submit _) => .ok (.pending "h1")
  | .call (.transactionStatus _) => .ok (.success 7)
  | .now => .epoch
  | .pause _ => ()

/-- Thread 2 executes the payout that thread 0 has recorded and thread 1 has claimed. -/
def sampleSettled : List (wired samplePolicy sampleExecutor).Move :=
  [.start (.create (samplePayout none)), .resume 0 (.engine (.draw sampleId)),
    .resume 0 (.engine (.clock .epoch)), .resume 0 (.engine .plain),
    .start (.claim "sub-1" "GDEST"), .resume 1 (.engine .plain),
    .resume 1 (.engine (.clock .epoch)), .resume 1 (.engine .plain), .resume 1 (.engine .plain),
    -- The record, the account's sequence, the clock and the submission, and then its checkpoint.
    .resume 2 (.engine .plain), .resume 2 (.ledger sampleLedger), .resume 2 (.ledger sampleLedger),
    .resume 2 (.ledger sampleLedger), .resume 2 (.engine (.clock .epoch)),
    .resume 2 (.engine .plain),
    -- One poll, and the completion.
    .resume 2 (.ledger sampleLedger), .resume 2 (.ledger sampleLedger),
    .resume 2 (.engine (.clock .epoch)), .resume 2 (.engine .plain)]

def sampleDone : Payout :=
  { sampleClaimed none with
    status := .completed
    transactionRef := some "h1"
    ledgerRef := some 7
    processedAt := some .epoch }

def sampleClient : Ledger.Client :=
  ⟨"http://rpc.test", "http://accounts.test"⟩

def sampleStatusRequest : Http.Request :=
  sampleClient.rpcRequest "getTransaction" [("hash", .str "h1")]

/-- An answer of this status that reports a success in ledger 7. -/
def sampleAnswer (status : Nat) : Http.Response :=
  ⟨status, Text.Utf8.encode (Json.obj [("result",
    .obj [("status", .str "SUCCESS"), ("ledger", .int 7)])]).render⟩

theorem gives_sampleAnswer {status : Nat} (h : ¬ (400 ≤ status ∧ status < 600)) :
    (sampleAnswer status).Gives (Ledger.RpcResponse.ofJson? Ledger.StatusResult.ofJson?)
      ⟨some ⟨"SUCCESS", some 7, none⟩, none⟩ := by
  have hplain : (Json.obj [("result",
      .obj [("status", .str "SUCCESS"), ("ledger", .int 7)])]).IsPlain :=
    ⟨⟨trivial, Json.isPlain_int (by decide), trivial⟩, trivial⟩
  exact ⟨h, _, _, Text.Utf8.decode?_encode _, Json.parse?_render hplain, rfl⟩

theorem reaches_sampleAnswer {status : Nat} (h : ¬ (400 ≤ status ∧ status < 600)) :
    (sampleClient.transactionStatus "h1").outcome.Reaches
      [⟨sampleStatusRequest, some (sampleAnswer status)⟩] (.done (.ok (.success 7))) :=
  Ledger.Client.reaches_of_gives (gives_sampleAnswer h) rfl rfl

theorem completion_settled_sampleSettled :
    ((wired samplePolicy sampleExecutor).run sampleSettled).state.engine.store.find? sampleId =
      some sampleDone ∧
    (∃ hash ledger, sampleDone.transactionRef = some hash ∧ sampleDone.ledgerRef = some ledger ∧
      succeeded hash ledger ∈
        ((wired samplePolicy sampleExecutor).run sampleSettled).state.calls ∧
      ∃ envelope t, accepted envelope hash ∈
          ((wired samplePolicy sampleExecutor).run sampleSettled).state.calls ∧
        envelope.transfer? = some t ∧ t.memo = sampleId.toText ∧
        t.payment = ⟨sampleDone.recipient, sampleDone.amount, sampleDone.asset⟩ ∧
        t.payment.amount.IsPositive) ∧
    ∃ (response : Http.Response) (result : Ledger.StatusResult),
      [(⟨sampleStatusRequest, some (sampleAnswer 200)⟩ : Exchange Http.interface)] =
        [⟨sampleStatusRequest, some response⟩] ∧
      response.Gives (Ledger.RpcResponse.ofJson? Ledger.StatusResult.ofJson?)
        ⟨some result, none⟩ ∧
      result.status = "SUCCESS" ∧ result.ledger = some 7 := by
  have hsettled := completion_settled samplePolicy sampleExecutor sampleSettled
  have hdone : ((wired samplePolicy sampleExecutor).run sampleSettled).state.engine.store.find?
      sampleId = some sampleDone := by
    decide +kernel
  refine ⟨hdone, hsettled.1 sampleId sampleDone hdone rfl, ?_⟩
  exact hsettled.2 sampleClient "h1" 7 _ (reaches_sampleAnswer (by decide))

/-- A success is also read from an answer whose status is neither an error nor a success. -/
theorem success_from_multiple_choices :
    (sampleClient.transactionStatus "h1").outcome.Reaches
        [⟨sampleStatusRequest, some (sampleAnswer 300)⟩] (.done (.ok (.success 7))) ∧
      ¬ (200 ≤ (sampleAnswer 300).status ∧ (sampleAnswer 300).status < 300) := by
  constructor
  · exact reaches_sampleAnswer (by decide)
  · decide

end Disburse.Engine
