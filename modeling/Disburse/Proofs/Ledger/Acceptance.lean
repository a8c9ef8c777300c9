import Disburse.Proofs.Ledger.Attempt
import Disburse.Proofs.Ledger.Client

namespace Disburse

open Disburse.Json
open Disburse.Ledger (Client Envelope RpcResponse SendResult Submission)

namespace Ledger

variable {hash : String} {r : SendResult}

/-- The transaction is in the ledger's queue, by this submission or by an earlier one. -/
def SendResult.IsQueued (r : SendResult) : Prop :=
  r.status = "PENDING" ∨ r.status = "DUPLICATE"

/-- The network has refused a transaction. -/
def Submission.IsRefusal (s : Submission) : Prop :=
  ∃ hash reason, s = .rejected hash reason

theorem Submission.isRefusal_iff {s : Submission} : s.IsRefusal ↔ ∀ hash, s ≠ .pending hash := by
  cases s with
  | pending hash => exact ⟨nofun, fun h => absurd rfl (h hash)⟩
  | rejected hash reason => exact ⟨fun _ => nofun, fun _ => ⟨hash, reason, rfl⟩⟩

theorem SendResult.submission_eq_pending_iff :
    r.submission = .pending hash ↔ r.IsQueued ∧ r.hash = some hash := by
  unfold submission IsQueued
  cases r.hash with
  | none => simp
  | some hash' =>
    by_cases hqueued : r.status = "PENDING" ∨ r.status = "DUPLICATE" <;> simp [hqueued]

theorem SendResult.isRefusal_iff (hqueued : r.IsQueued) :
    r.submission.IsRefusal ↔ r.hash = none := by
  simp [Submission.isRefusal_iff, submission_eq_pending_iff, hqueued,
    Option.eq_none_iff_forall_ne_some]

namespace Client

variable {client : Client} {envelope : Envelope} {response : Http.Response}

/-- The request that hands in an envelope. -/
def sendRequest (client : Client) (envelope : Envelope) : Http.Request :=
  client.rpcRequest "sendTransaction" [("transaction", .str envelope.text)]

theorem reaches_submit
    (h : response.Gives (RpcResponse.ofJson? SendResult.ofJson?) ⟨some r, none⟩) :
    (client.submit envelope).outcome.Reaches [⟨client.sendRequest envelope, some response⟩]
      (.done (.ok r.submission)) :=
  (reaches_rpc h).bind _

end Client

end Ledger

namespace Executor

variable {r : SendResult}

theorem verdict_eq_executionFailed_iff {s : Submission} :
    (∃ reason, verdict (.ok s) = .error (.error (.executionFailed reason))) ↔ s.IsRefusal := by
  cases s <;> simp [verdict, Submission.IsRefusal]

/-- A transaction that the ledger reports in its queue is taken for refused, and the attempt for
failed, if and only if the answer leaves out its hash. -/
theorem refused_iff_no_hash {response : Http.Response}
    (hgives : response.Gives (RpcResponse.ofJson? SendResult.ofJson?) ⟨some r, none⟩)
    (hqueued : r.IsQueued) :
    (r.submission.IsRefusal ↔ r.hash = none) ∧
      (∀ hash, r.submission = .pending hash ↔ r.hash = some hash) ∧
      ∀ (envelope : Envelope),
        (∀ client : Client, (client.submit envelope).outcome.Reaches
          [⟨client.sendRequest envelope, some response⟩] (.done (.ok r.submission))) ∧
        ∀ (executor : Executor) (request : TransferRequest)
            (xs : List (Exchange Ledger.interface)) (o : Outcome String),
          (executor.submit request).outcome.Reaches xs (.done o) →
          ⟨.call (.submit envelope), .ok r.submission⟩ ∈ xs →
          ((∃ reason, o = .error (.error (.executionFailed reason))) ↔ r.hash = none) ∧
            ∀ hash, o = .ok hash ↔ r.hash = some hash := by
  have hpending : ∀ hash, r.submission = .pending hash ↔ r.hash = some hash := by
    intro hash
    simp [SendResult.submission_eq_pending_iff, hqueued]
  refine ⟨SendResult.isRefusal_iff hqueued, hpending, fun envelope =>
    ⟨fun client => Client.reaches_submit hgives, fun executor request xs o hreaches hmem => ?_⟩⟩
  obtain rfl : o = verdict (.ok r.submission) :=
    (Attempt.of_reaches hreaches).eq_verdict hmem
  refine ⟨verdict_eq_executionFailed_iff.trans (SendResult.isRefusal_iff hqueued), fun hash => ?_⟩
  simp [verdict_eq_ok_iff, ← hpending]

def sampleClient : Client :=
  ⟨"http://rpc.test", "http://accounts.test"⟩

def sampleEnvelope : Envelope :=
  sampleBuilt.sign Ledger.sampleSigner

/-- The answer to a submission whose result has these texts. -/
def sampleReply (result : List (String × String)) : Json :=
  .obj [("result", .obj (result.map fun (key, text) => (key, .str text)))]

def sampleResponse (result : List (String × String)) : Http.Response :=
  ⟨200, Text.Utf8.encode (sampleReply result).render⟩

theorem gives_sampleResponse {result : List (String × String)} {r : SendResult}
    (hplain : (sampleReply result).IsPlain)
    (h : RpcResponse.ofJson? SendResult.ofJson? (sampleReply result) = some ⟨some r, none⟩) :
    (sampleResponse result).Gives (RpcResponse.ofJson? SendResult.ofJson?) ⟨some r, none⟩ :=
  ⟨by simp [sampleResponse], _, _, Text.Utf8.decode?_encode _, Json.parse?_render hplain, h⟩

theorem gives_sampleDuplicate :
    (sampleResponse [("status", "DUPLICATE"), ("hash", "h1")]).Gives
      (RpcResponse.ofJson? SendResult.ofJson?) ⟨some ⟨"DUPLICATE", some "h1", none⟩, none⟩ :=
  gives_sampleResponse ⟨⟨trivial, trivial, trivial⟩, trivial⟩ rfl

theorem gives_sampleBare :
    (sampleResponse [("status", "PENDING")]).Gives
      (RpcResponse.ofJson? SendResult.ofJson?) ⟨some ⟨"PENDING", none, none⟩, none⟩ :=
  gives_sampleResponse ⟨⟨trivial, trivial⟩, trivial⟩ rfl

theorem accepted_sampleDuplicate :
    (sampleClient.submit sampleEnvelope).outcome.Reaches
        [⟨sampleClient.sendRequest sampleEnvelope,
          some (sampleResponse [("status", "DUPLICATE"), ("hash", "h1")])⟩]
        (.done (.ok (.pending "h1"))) ∧
      (sampleCautious.submit sampleRequest).outcome.Reaches
        (sampleExchanges (.pending "h1")) (.done (.ok "h1")) ∧
      ∀ hash, (.ok "h1" : Outcome String) = .ok hash ↔ some "h1" = some hash := by
  obtain ⟨-, hpending, hsubmit⟩ := refused_iff_no_hash gives_sampleDuplicate (.inr rfl)
  obtain ⟨hclient, hexecutor⟩ := hsubmit sampleEnvelope
  rw [(hpending "h1").mpr rfl] at hclient hexecutor
  have hreaches := reaches_sampleExchanges (.pending "h1")
  have hmem : ⟨.call (.submit sampleEnvelope), .ok (.pending "h1")⟩ ∈
      sampleExchanges (.pending "h1") := by
    simp [sampleExchanges, sampleEnvelope]
  exact ⟨hclient sampleClient, hreaches, (hexecutor _ _ _ _ hreaches hmem).2⟩

/-- A pending transaction without a hash is taken for refused. -/
theorem refused_without_hash :
    (sampleResponse [("status", "PENDING")]).Gives
        (RpcResponse.ofJson? SendResult.ofJson?) ⟨some ⟨"PENDING", none, none⟩, none⟩ ∧
      (sampleClient.submit sampleEnvelope).outcome.Reaches
        [⟨sampleClient.sendRequest sampleEnvelope,
          some (sampleResponse [("status", "PENDING")])⟩]
        (.done (.ok (.rejected none "PENDING"))) ∧
      (sampleCautious.submit sampleRequest).outcome.Reaches
        (sampleExchanges (.rejected none "PENDING"))
        (.done (.error (.error (.executionFailed "PENDING")))) :=
  ⟨gives_sampleBare, Client.reaches_submit gives_sampleBare, reaches_sampleExchanges _⟩

end Executor

end Disburse
