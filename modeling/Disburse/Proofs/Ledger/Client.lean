import Disburse.Ledger.Client
import Disburse.Proofs.Concurrency.Conduct

namespace Disburse

open Disburse.Code

namespace Http

/-- An answer from which a value is read: a status outside the client and server errors, and a
body with a form that `read` knows. -/
def Response.Gives {α : Type} (response : Response) (read : Json → Option α) (a : α) : Prop :=
  ¬ (400 ≤ response.status ∧ response.status < 600) ∧
    ∃ text value, Text.Utf8.decode? response.body = some text ∧ Json.parse? text = some value ∧
      read value = some a

variable {α : Type} {read : Json → Option α} {a : α}

theorem gives_of_accept {url : Url} {answer : Option Response}
    (h : accept url read answer = .ok a) :
    ∃ response, answer = some response ∧ response.Gives read a := by
  cases answer with
  | none => cases h
  | some response =>
      refine ⟨response, rfl, ?_⟩
      simp only [accept] at h
      split at h
      · cases h
      · rename_i hstatus
        split at h
        · rename_i a' hvalue
          obtain rfl : a' = a := Except.ok.inj h
          obtain ⟨text, htext, hvalue⟩ := Option.bind_eq_some_iff.mp hvalue
          obtain ⟨value, hparse, hread⟩ := Option.bind_eq_some_iff.mp hvalue
          exact ⟨hstatus, text, value, htext, hparse, hread⟩
        · cases h

theorem heeds_exchange {request : Request} {past : List (Exchange interface)} :
    (free interface).Heeds (exchange request read) (fun o past' => ∀ a, o = .ok a →
      ∃ response, past' = past ++ [⟨request, some response⟩] ∧ response.Gives read a) past := by
  refine ⟨trivial, fun answer _ => ?_⟩
  simp only [Program.bind]
  split
  · rename_i a hresult
    rintro a' ha
    cases ha
    obtain ⟨response, rfl, hgives⟩ := gives_of_accept hresult
    exact ⟨response, rfl, hgives⟩
  · rintro a' ha
    cases ha

theorem Response.Gives.accept {url : Url} {response : Response} (h : response.Gives read a) :
    accept url read (some response) = .ok a := by
  obtain ⟨hstatus, text, value, htext, hparse, hread⟩ := h
  simp [Http.accept, hstatus, htext, hparse, hread]

theorem Response.Gives.reaches {request : Request} {response : Response}
    (h : response.Gives read a) :
    (exchange request read).outcome.Reaches [⟨request, some response⟩] (.done (.ok a)) := by
  refine .ask ?_
  simp only [Program.bind, h.accept]
  exact .refl _

end Http

namespace Ledger.Client

open Disburse.Json

variable {client : Client} {α : Type} {read : Json → Option α} {a : α} {method : String}
  {parameters : List (String × Json)}

def rpcRequest (client : Client) (method : String) (parameters : List (String × Json)) :
    Http.Request where
  method := .post
  url := .read client.rpcUrl
  body := some <| .obj [("jsonrpc", .str "2.0"), ("id", .int 1), ("method", .str method),
    ("params", .obj parameters)]

theorem heeds_rpc {past : List (Exchange Http.interface)} :
    (free Http.interface).Heeds (client.rpc method parameters read) (fun o past' =>
      ∀ a, o = .ok a → ∃ response : Http.Response,
        past' = past ++ [⟨client.rpcRequest method parameters, some response⟩] ∧
          response.Gives (RpcResponse.ofJson? read) ⟨some a, none⟩) past := by
  refine Heeds.bind Http.heeds_exchange ?_ fun _ _ _ _ h => nomatch h
  rintro ⟨result, error⟩ past' hpast
  obtain ⟨response, rfl, hgives⟩ := hpast _ rfl
  cases error with
  | some e => exact fun _ h => nomatch h
  | none =>
      cases result with
      | none => exact fun _ h => nomatch h
      | some a =>
          rintro a' ha
          cases ha
          exact ⟨response, rfl, hgives⟩

theorem reaches_rpc {response : Http.Response}
    (h : response.Gives (RpcResponse.ofJson? read) ⟨some a, none⟩) :
    (client.rpc method parameters read).outcome.Reaches
      [⟨client.rpcRequest method parameters, some response⟩] (.done (.ok a)) :=
  h.reaches.bind _

theorem txStatus_eq_success {r : StatusResult} {ledger : Int64}
    (h : r.txStatus = .ok (.success ledger)) : r.status = "SUCCESS" ∧ r.ledger = some ledger := by
  unfold StatusResult.txStatus at h
  split at h
  · rename_i hstatus
    split at h
    · rename_i ledger' hledger
      cases h
      exact ⟨hstatus, hledger⟩
    · cases h
  · split at h <;> cases h

/-- A success was read from one answer without an error, which says so. -/
theorem gives_of_transactionStatus {hash : String} {ledger : Int64}
    {xs : List (Exchange Http.interface)}
    (h : (client.transactionStatus hash).outcome.Reaches xs (.done (.ok (.success ledger)))) :
    ∃ (response : Http.Response) (result : StatusResult),
      xs = [⟨client.rpcRequest "getTransaction" [("hash", .str hash)], some response⟩] ∧
      response.Gives (RpcResponse.ofJson? StatusResult.ofJson?) ⟨some result, none⟩ ∧
      result.status = "SUCCESS" ∧ result.ledger = some ledger := by
  refine of_reaches_done (Q := fun o past => o = .ok (.success ledger) →
    ∃ (response : Http.Response) (result : StatusResult),
      past = [⟨client.rpcRequest "getTransaction" [("hash", .str hash)], some response⟩] ∧
      response.Gives (RpcResponse.ofJson? StatusResult.ofJson?) ⟨some result, none⟩ ∧
      result.status = "SUCCESS" ∧ result.ledger = some ledger) ?_ h rfl
  refine Heeds.bind heeds_rpc ?_ fun _ _ _ h => nomatch h
  intro result past' hpast ho
  obtain ⟨response, rfl, hgives⟩ := hpast result rfl
  refine ⟨response, result, rfl, hgives, txStatus_eq_success ?_⟩
  cases hstatus : result.txStatus with
  | error e =>
      rw [hstatus] at ho
      cases ho
  | ok status =>
      rw [hstatus] at ho
      cases ho
      rfl

theorem reaches_of_gives {hash : String} {ledger : Int64} {response : Http.Response}
    {result : StatusResult}
    (h : response.Gives (RpcResponse.ofJson? StatusResult.ofJson?) ⟨some result, none⟩)
    (hstatus : result.status = "SUCCESS") (hledger : result.ledger = some ledger) :
    (client.transactionStatus hash).outcome.Reaches
      [⟨client.rpcRequest "getTransaction" [("hash", .str hash)], some response⟩]
      (.done (.ok (.success ledger))) := by
  have hresult : result.txStatus = .ok (.success ledger) := by
    simp [StatusResult.txStatus, hstatus, hledger]
  have hend : (Task.ofOutcome (.ofExcept result.txStatus) : Task Http.interface TxStatus).outcome =
      .done (.ok (.success ledger)) := by
    rw [hresult]
    rfl
  rw [← hend]
  exact (reaches_rpc h).bind _

end Ledger.Client

end Disburse
