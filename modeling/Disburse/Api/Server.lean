import Disburse.Api.Body
import Disburse.Api.Request
import Disburse.Engine.Service
import Disburse.Payout.Basic

namespace Disburse.Api

open Disburse.Engine
open Disburse.Text

/-- A response before it is written out. -/
structure Response where
  status : Nat
  body : Option Json

/-- The version that the health check reports. -/
def version : String := "0.1.0"

/-- An answer without a body of its own. -/
def refusal (status : Nat) : Response :=
  ⟨status, none⟩

/-- Errors are told with their message and their kind. -/
def errorBody (e : Error) : Json :=
  .obj [("error", .str e.message), ("kind", .str e.kind)]

/-- The response to a request that ended in an error. -/
def ofError (e : Error) : Response :=
  ⟨e.statusCode, some (errorBody e)⟩

/-- A body that cannot be read, and one that is read but does not fit. -/
def BodyFault.statusCode : BodyFault → Nat
  | .malformed => 400
  | .unfit => 422

/-- What needs a JSON body is refused without one. -/
def withBody {α : Type} (r : Request) (read : String → Except BodyFault α)
    (next : α → Work Response) : Work Response :=
  match r.jsonBody? with
  | none => return refusal 415
  | some text =>
    match read text with
    | .ok a => next a
    | .error fault => return refusal fault.statusCode

/-- What needs an identifier from the path is refused if there is none. -/
def withId (id : String) (next : PayoutId → Work Response) : Work Response :=
  match Percent.decode? id with
  | none => return refusal 400
  | some text =>
    match PayoutId.parse text with
    | .ok id => next id
    | .error e => Task.fail e

/-- One payout, under a status of success. -/
def payoutResponse (status : Nat) (p : Payout) : Response :=
  ⟨status, some p.toJson⟩

/-- A page of payouts, with their number in front. -/
def listResponse (ps : List Payout) : Response :=
  let members := [("count", .int ps.length), ("payouts", .arr (ps.map Payout.toJson))]
  ⟨200, some (.obj members)⟩

def perform (policy : RetryPolicy) (r : Request) : Service → Work Response
  | .health =>
    return ⟨200, some (.obj [("status", .str "ok"), ("version", .str version)])⟩
  | .list =>
    match readFilter? r.query with
    | none => return refusal 400
    | some filter => return listResponse (← listPayouts filter)
  | .create =>
    withBody r readNewPayout fun new => return payoutResponse 201 (← createPayout policy new)
  | .claim =>
    withBody r readClaim fun claim =>
      return payoutResponse 202 (← claimPayout claim.submissionRef claim.recipient)
  | .get id => withId id fun id => return payoutResponse 200 (← getPayout id)
  | .retry id => withId id fun id => return payoutResponse 202 (← retryPayout policy id)

/-- The answer to a request; errors of a service become answers too. -/
def respond (policy : RetryPolicy) (r : Request) : Work Response := do
  match r.service with
  | .error status => return refusal status
  | .ok service =>
    let response ← match ← Task.attempt (perform policy r service) with
      | .ok response => pure response
      | .error e => pure (ofError e)
    return if r.isHead then { response with body := none } else response

end Disburse.Api
