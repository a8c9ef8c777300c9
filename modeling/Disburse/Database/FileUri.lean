import Disburse.Database.Location
import Disburse.Text.Percent

/-!
File names written as `file:` addresses: an authority that says nothing, a path with percent
escapes, options behind a question mark, and a fragment that does not count. An option may take
rights away, but not add any.
-/

namespace Disburse.Database.FileUri

open Disburse.Text

/-- A text without its percent escapes, up to the first zero byte. -/
def unescape (cs : List Char) : String :=
  String.ofList (Utf8.decodeLossy ((Percent.bytes (String.ofList cs)).takeWhile (· ≠ 0)))

/-- What stands behind the authority, which may only be the local one. -/
def dropAuthority : List Char → Except Fault (List Char)
  | '/' :: '/' :: rest =>
    let authority := String.ofList (rest.takeWhile (· ≠ '/'))
    if authority = "" ∨ authority = "localhost" then .ok (rest.dropWhile (· ≠ '/'))
    else .error (.refused 1 s!"invalid uri authority: {authority}")
  | cs => .ok cs

/-- The options of a query; those without a name are ignored. -/
def options (query : List Char) : List (String × String) :=
  let parts := (query.splitOn '&').map fun part =>
    (unescape (part.takeWhile (· ≠ '=')), unescape ((part.dropWhile (· ≠ '=')).drop 1))
  parts.filter (·.1 ≠ "")

/-- Whether a value means yes: a word for it, or a number with a last byte that is not zero. -/
def isYes (value : String) : Bool :=
  match value.toList.takeWhile Char.isDigit with
  | [] => ["on", "yes", "true"].contains value.toLower
  | digits => Nat.ofDigitChars 10 digits 0 % 256 ≠ 0

/-- Ask for some access, unless it is more than there was. -/
def restrict (l : Location) (access : Access) (value : String) : Except Fault Location :=
  if l.access.rank < access.rank ∧ !l.inMemory then
    .error (.refused 3 s!"access mode not allowed: {value}")
  else .ok { l with access, inMemory := false }

/-- What an option changes in a location. -/
def set (l : Location) (option : String × String) : Except Fault Location :=
  let (name, value) := option
  if name = "vfs" then .ok { l with fileSystem := some value }
  else if name = "cache" then
    if value = "shared" ∨ value = "private" then .ok l
    else .error (.refused 1 s!"no such cache mode: {value}")
  else if name = "mode" then
    if value = "ro" then restrict l .read value
    else if value = "rw" then restrict l .write value
    else if value = "rwc" then restrict l .create value
    else if value = "memory" then .ok { l with access := .create, inMemory := true }
    else .error (.refused 1 s!"no such access mode: {value}")
  else .ok l

/-- The location with its name read as an address, if it is one. -/
def resolve (l : Location) : Except Fault Location := do
  if !"file:".isPrefixOf l.file then return l
  let rest ← dropAuthority (l.file.toList.drop 5)
  let located := rest.takeWhile (· ≠ '#')
  let options := options ((located.dropWhile (· ≠ '?')).drop 1)
  options.foldlM set
    { l with
      file := unescape (located.takeWhile (· ≠ '?'))
      immutable := (options.lookup "immutable").any isYes }

end Disburse.Database.FileUri
