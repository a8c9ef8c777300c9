import Disburse.Json.Reader
import Disburse.Json.Record
import Disburse.Payout.Codec

/-!
Bodies of requests, read from the front: the first thing that is wrong decides how the request is
refused. A body whose text breaks off or is no JSON is malformed; one with another value than the
request needs is unfit. What follows the record is not looked at.
-/

namespace Disburse.Api

open Disburse.Json

/-- What is wrong with a body: it is no JSON, or JSON of another shape. -/
inductive BodyFault where
  | malformed
  | unfit
  deriving DecidableEq

/-- A value of a member that takes only some. Lists and objects are refused at their first
character. -/
def readScalar (takes : Json → Bool) (cs : List Char) : Except BodyFault (Json × List Char) :=
  match skipSpace cs with
  | '[' :: _ => .error .unfit
  | '\x7b' :: _ => .error .unfit
  | cs =>
    match readValue (cs.length + 1) cs with
    | none => .error .malformed
    | some (.garbled, _) => .error .malformed
    | some (v, rest) => if takes v then .ok (v, rest) else .error .unfit

def readName (cs : List Char) : Except BodyFault (String × List Char) :=
  match skipSpace cs with
  | '"' :: rest =>
    match readString rest with
    | some (some name, rest) => .ok (name, rest)
    | _ => .error .malformed
  | _ => .error .malformed

def readMark (mark : Char) (cs : List Char) : Except BodyFault (List Char) :=
  match skipSpace cs with
  | c :: rest => if c = mark then .ok rest else .error .malformed
  | [] => .error .malformed

/-- One of some words: as a string, or as the only name of an object, with the value `null`. -/
def readWord (takes : String → Bool) (cs : List Char) : Except BodyFault (Json × List Char) := do
  match skipSpace cs with
  | '"' :: rest =>
    let (word, rest) ← readName ('"' :: rest)
    if takes word then return (.str word, rest) else throw .unfit
  | '\x7b' :: rest =>
    let (word, rest) ← readName rest
    if !takes word then throw .unfit
    let (_, rest) ← readScalar (· matches .null) (← readMark ':' rest)
    return (.str word, ← readMark '\x7d' rest)
  | _ => throw .malformed

/-- A member of a record: its name, and how its value is read. -/
structure Member where
  name : String
  read : List Char → Except BodyFault (Json × List Char)

/-- One member and its value. A name that is not asked for is skipped, and a second value is a
fault. -/
def readMember (members : List Member) (seen : List (String × Json)) (cs : List Char) :
    Except BodyFault (List (String × Json) × List Char) := do
  let (name, rest) ← readName cs
  match members.find? (·.name = name) with
  | none =>
    let rest ← readMark ':' rest
    match readValue (rest.length + 1) rest with
    | some (_, rest) => return (seen, rest)
    | none => throw .malformed
  | some m =>
    if (seen.lookup name).isSome then throw .unfit
    let (v, rest) ← m.read (← readMark ':' rest)
    return (seen ++ [(name, v)], rest)

/-- The members up to the closing brace; the length of the text is enough `fuel`. -/
def readMembers (members : List Member) :
    Nat → List (String × Json) → List Char → Except BodyFault (List (String × Json))
  | 0, _, _ => .error .malformed
  | fuel + 1, seen, cs => do
    let (seen, rest) ← readMember members seen cs
    match skipSpace rest with
    | ',' :: rest => readMembers members fuel seen rest
    | '\x7d' :: _ => return seen
    | _ => throw .malformed

/-- The items of a list that names the members in their order, the first `needed` at least. -/
def readItems : List Member → (needed : Nat) → (isFirst : Bool) → List Char →
    Except BodyFault (List (String × Json))
  | [], _, _, cs =>
    match skipSpace cs with
    | ']' :: _ => .ok []
    | _ => .error .malformed
  | m :: rest, needed, isFirst, cs =>
    match skipSpace cs with
    | ']' :: _ => if needed = 0 then .ok [] else .error .unfit
    | _ => do
      let cs ← if isFirst then pure cs else readMark ',' cs
      let (v, cs) ← m.read cs
      return (m.name, v) :: (← readItems rest (needed - 1) false cs)

/-- The members of an object, read until the first fault. -/
def readRecord (members : List Member) (needed : Nat) (body : String) :
    Except BodyFault (List (String × Json)) :=
  match skipSpace body.toList with
  | '\x7b' :: rest =>
    match skipSpace rest with
    | '\x7d' :: _ => .ok []
    | _ => readMembers members (rest.length + 1) [] rest
  | '[' :: rest => readItems members needed true rest
  | cs => (readScalar (fun _ => false) cs).bind fun _ => .error .unfit

/-- A record from the members of a body; the last check is the record's own. -/
def readBody {α : Type} (members : List Member) (needed : Nat) (read : Json → Option α)
    (body : String) : Except BodyFault α := do
  match read (.obj (← readRecord members needed body)) with
  | some a => return a
  | none => throw .unfit

/-- A member that must have a value of some form. -/
def Member.of {α : Type} (name : String) (read : Json → Option α) : Member where
  name := name
  read := readScalar fun v => (read v).isSome

def Member.optional {α : Type} (name : String) (read : Json → Option α) : Member where
  name := name
  read := readScalar fun v => v matches .null || (read v).isSome

/-- A member that must be one of some words. -/
def Member.word {α : Type} (name : String) (read : String → Option α) : Member where
  name := name
  read := readWord fun s => (read s).isSome

def newPayoutMembers : List Member :=
  [.of "recipient_address" text?, .of "amount" Decimal.ofJson?, .of "asset" text?,
    .word "kind" Kind.read?, .optional "quest_ref" text?, .optional "submission_ref" text?,
    .optional "max_retries" uint32?]

/-- The body of a creation request, whose first four members are needed. -/
def readNewPayout (body : String) : Except BodyFault NewPayout :=
  readBody newPayoutMembers 4 NewPayout.ofJson? body

/-- A claim of the payout of a submission. -/
structure ClaimRequest where
  submissionRef : String
  recipient : String

/-- The two members of a claim, by name or in this order. -/
def ClaimRequest.ofJson? (v : Json) : Option ClaimRequest := do
  let fields ← fields? ["submission_ref", "recipient_address"] 2 v
  return {
    submissionRef := ← required fields "submission_ref" text?
    recipient := ← required fields "recipient_address" text? }

def readClaim (body : String) : Except BodyFault ClaimRequest :=
  readBody [.of "submission_ref" text?, .of "recipient_address" text?] 2 ClaimRequest.ofJson? body

end Disburse.Api
