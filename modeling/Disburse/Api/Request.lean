import Disburse.Api.MediaType
import Disburse.Store.Filter
import Disburse.Text.Numeral
import Disburse.Text.Percent

namespace Disburse.Api

open Disburse.Text

/-- A request as it reaches the server. -/
structure Request where
  method : String
  /-- The path, with a query after a question mark. -/
  target : String
  contentType : Option String
  body : Option String

/-- A request that reached a service. -/
inductive Service where
  | health
  | list
  | create
  | claim
  | get (id : String)
  | retry (id : String)
  deriving DecidableEq

namespace Request

def located (r : Request) : List Char :=
  r.target.toList.takeWhile (· ≠ '#')

/-- The path that routes are matched against. -/
def path (r : Request) : List Char :=
  r.located.takeWhile (· ≠ '?')

def query (r : Request) : String :=
  String.ofList ((r.located.dropWhile (· ≠ '?')).drop 1)

/-- The parts of the path after its first slash. -/
def parts (r : Request) : List String :=
  match r.path with
  | '/' :: rest => (rest.splitOn '/').map String.ofList
  | _ => []

/-- Services by method, for a path. A request for headers is answered like one for the whole. -/
def services (r : Request) : Option (List (String × Service)) :=
  match r.parts with
  | ["health"] => some [("GET", .health)]
  | ["payouts"] => some [("GET", .list), ("POST", .create)]
  | ["payouts", "claim"] => some [("POST", .claim)]
  | ["payouts", id] => if id.isEmpty then none else some [("GET", .get id)]
  | ["payouts", id, "retry"] => some [("POST", .retry id)]
  | _ => none

def isHead (r : Request) : Bool :=
  r.method = "HEAD"

/-- The service of a request, or the status that refuses it: nothing is under the path, or nothing
for the method. -/
def service (r : Request) : Except Nat Service :=
  match r.services with
  | none => .error 404
  | some services =>
    match services.lookup (if r.isHead then "GET" else r.method) with
    | some service => .ok service
    | none => .error 405

/-- The body, if the content type says that it is JSON. -/
def jsonBody? (r : Request) : Option String :=
  if r.contentType.any MediaType.isJson then some (r.body.getD "") else none

end Request

/-- One value of a query, when its name stands there at most once. -/
def single? (pairs : List (String × String)) (name : String) : Option (Option String) :=
  match pairs.filter (·.1 = name) with
  | [] => some none
  | [(_, value)] => some (some value)
  | _ => none

/-- A value of a query in some form. -/
def parsed? {α : Type} (pairs : List (String × String)) (name : String)
    (read : String → Option α) : Option (Option α) := do
  match ← single? pairs name with
  | none => return none
  | some value => (read value).map some

/-- The filter that a query asks for; absent if a value does not parse. -/
def readFilter? (query : String) : Option Filter := do
  let pairs := Percent.formPairs query
  return {
    status := ← parsed? pairs "status" Status.read?
    recipient := ← single? pairs "recipient"
    kind := ← parsed? pairs "kind" Kind.read?
    limit := ← parsed? pairs "limit" Numeral.uint32?
    offset := ← parsed? pairs "offset" Numeral.uint32? }

end Disburse.Api
