import Disburse.Http.Status
import Disburse.Http.Url
import Disburse.Json.Reader
import Disburse.Json.Writer
import Disburse.Program

namespace Disburse.Http

inductive Method where
  | get
  | post
  deriving DecidableEq

def Method.toText : Method → String
  | .get => "GET"
  | .post => "POST"

structure Request where
  method : Method
  url : Url
  body : Option Json

structure Response where
  status : Nat
  body : List UInt8

/-- A request is answered, or the connection breaks. -/
abbrev interface : Interface where
  Request := Request
  Answer _ := Option Response

/-- The content of a response that is no refusal, or the fault of the exchange. -/
def accept {α : Type} (url : Url) (read : Json → Option α) : Option Response → Except Fault α
  | none => .error (.sending url.toText)
  | some response =>
    if 400 ≤ response.status ∧ response.status < 600 then
      .error (.status response.status url.toText)
    else
      let value := do read (← Json.parse? (← Text.Utf8.decode? response.body))
      match value with
      | some a => .ok a
      | none => .error .decoding

/-- Send a request, and read what comes back. -/
def exchange {α : Type} (request : Request) (read : Json → Option α) : Task interface α :=
  .ofProgram do
    let response ← Program.request (I := interface) request
    match accept request.url read response with
    | .ok a => return .ok a
    | .error fault => return .error (.error (.http fault))

end Disburse.Http
