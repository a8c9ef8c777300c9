import Disburse.Database.FileUri
import Disburse.Error
import Disburse.Text.Characters

namespace Disburse.Database

open Disburse.Text

/-- Cut a text off the front as often as it stands there. -/
def dropLeading (text : List Char) : (fuel : Nat) → List Char → List Char
  | 0, cs => cs
  | fuel + 1, cs =>
    if text.isPrefixOf cs ∧ text ≠ [] then dropLeading text fuel (cs.drop text.length) else cs

def occursIn (text : List Char) : List Char → Bool
  | [] => text.isEmpty
  | c :: cs => text.isPrefixOf (c :: cs) || occursIn text cs

/-- How many connections are kept: every connection to a database in memory would have its own,
so there is one. -/
def maxConnections (url : String) : Nat :=
  if occursIn ":memory:".toList url.toList then 1 else 5

namespace Location

/-- The fault of a parameter with a value that is not known. -/
def unknownValue (value name : String) : Fault :=
  .configuration s!"unknown value {Quoted.text value} for `{name}`"

/-- Take in one parameter. -/
def set (l : Location) (parameter : String × String) : Except Fault Location :=
  let (name, value) := parameter
  if name = "mode" then
    if value = "ro" then .ok { l with access := .read }
    else if value = "rw" ∨ value = "rwc" then .ok l
    else if value = "memory" then .ok { l with inMemory := true }
    else .error (unknownValue value name)
  else if name = "cache" then
    if value = "private" ∨ value = "shared" then .ok l else .error (unknownValue value name)
  else if name = "immutable" then
    if value = "true" ∨ value = "1" then .ok { l with immutable := true }
    else if value = "false" ∨ value = "0" then .ok { l with immutable := false }
    else .error (unknownValue value name)
  else if name = "vfs" then .ok { l with fileSystem := some value }
  else .error
    (.configuration s!"unknown query parameter `{name}` while parsing connection URL")

/-- A location from the part of an address in front of its parameters. -/
def ofName (name : String) : Except Fault Location :=
  if name = ":memory:" then .ok { named "" with inMemory := true }
  else match Percent.decode? name with
    | some file => .ok (named file)
    | none => .error (.configuration (Utf8.faultText (Percent.bytes name)))

/-- Names end at the first zero character. -/
def untilZero (s : String) : String :=
  String.ofList (s.toList.takeWhile (· ≠ '\x00'))

/-- The location as the database engine gets it. A name that goes along with other parameters of
the engine is escaped, and taken as it is; alone it may be an address itself. -/
def handOver (l : Location) : Except Fault Location :=
  if l.immutable ∨ l.fileSystem.isSome then
    let escaped := fun name => untilZero (name.map fun c => if c = ' ' then '+' else c)
    .ok { l with file := untilZero l.file, fileSystem := l.fileSystem.map escaped }
  else if l.file.contains '\x00' then
    .error (.communication "filename passed to SQLite must not contain nul bytes")
  else FileUri.resolve l

/-- The location that an address names, or what is wrong with the address. -/
def read (url : String) : Except Fault Location := do
  let size := url.toList.length
  let rest := dropLeading "sqlite://".toList size url.toList
  let rest := dropLeading "sqlite:".toList size rest
  let name := rest.takeWhile (· ≠ '?')
  let parameters := (rest.dropWhile (· ≠ '?')).drop 1
  let location ← ofName (String.ofList name)
  handOver (← (Percent.formPairs (String.ofList parameters)).foldlM set location)

end Location

end Disburse.Database
