import Disburse.Database.Address
import Disburse.Store.Table

/-!
Files that hold databases. Opening one creates it if it is missing, and fails if its directory is
missing, if its name is that of a directory, or if it holds something else.
-/

namespace Disburse.Database

/-- The names of the directories down from the root, and a name in the last one. -/
abbrev Path := List String

/-- Slashes separate the parts of a path; empty parts do not count. -/
def Path.ofText (s : String) : Path :=
  ((s.toList.splitOn '/').filter (· ≠ [])).map String.ofList

inductive Content where
  /-- Nothing at all. -/
  | blank
  /-- Something that is no database. -/
  | foreign
  | table (t : PayoutTable)

/-- A file that holds a text; a single byte counts as nothing. -/
def Content.ofText (s : String) : Content :=
  if s.utf8ByteSize ≤ 1 then .blank else .foreign

/-- The file system as far as databases are concerned. -/
structure Disk where
  /-- Where names begin that do not begin at the root. -/
  home : Path
  directories : List Path
  files : List (Path × Content)

namespace Disk

/-- A disk with these files, in directories of their own. -/
def ofFiles (home : Path) (directories : List Path) (files : List (Path × Content)) : Disk :=
  ⟨home, directories ++ files.map (·.1.dropLast), files⟩

/-- The greatest number of bytes in a name. -/
def nameLimit : Nat := 255

/-- One step along a path. Nothing is below a file, but a missing directory can be left again. -/
def enter (disk : Disk) (here : Path) (name : String) : Option Path :=
  if name = "." then some here
  else if name = ".." then some here.dropLast
  else if nameLimit < name.utf8ByteSize ∨ (disk.files.lookup here).isSome then none
  else some (here ++ [name])

/-- The path that the name of a file leads along. -/
def walk (disk : Disk) (file : String) : Option Path :=
  let start := if "/".isPrefixOf file then [] else disk.home
  ((Path.ofText file).foldlM disk.enter start).filter (· ≠ [])

/-- The file systems that the database engine knows. -/
def fileSystems : List String :=
  ["unix", "unix-dotfile", "unix-excl", "unix-none", "memdb"]

/-- The fault of a file that cannot be opened. -/
def unable : Fault :=
  .refused 14 "unable to open database file"

/-- Whether the disk holds what is written to a location. -/
def holds (l : Location) : Bool :=
  !l.isPrivate && l.fileSystem ≠ some "memdb"

/-- What stands under a path, or why it cannot be opened. -/
def content (disk : Disk) (access : Access) (path : Path) : Except Fault Content :=
  if disk.directories.contains path then
    .error (if access = .read then .refused 266 "disk I/O error" else unable)
  else if !disk.directories.contains path.dropLast then .error unable
  else match disk.files.lookup path with
    | some content => .ok content
    | none => if access = .create then .ok .blank else .error unable

/-- What a connection to a location finds there. -/
def find (disk : Disk) (l : Location) : Except Fault Content :=
  match l.fileSystem.filter fun name => !fileSystems.contains name with
  | some name => .error (.refused 1 s!"no such vfs: {name}")
  | none =>
    if !holds l then .ok .blank
    else match disk.walk l.file with
      | none => .error unable
      | some path => disk.content l.access path

/-- Whether the name of a location leaves room for that of the journal of its writes. -/
def hasJournal (disk : Disk) (l : Location) : Bool :=
  !holds l || (disk.walk l.file).all fun path =>
    path.getLast?.all fun name => name.utf8ByteSize + "-journal".utf8ByteSize ≤ nameLimit

/-- The payout table at a location; a blank file gets an empty one. -/
def openTable (disk : Disk) (l : Location) : Except Error PayoutTable :=
  match disk.find l with
  | .error fault => .error (.database fault)
  | .ok (.table t) => .ok t
  | .ok .foreign => .error (.migration (.refused 26 "file is not a database"))
  | .ok .blank =>
    if l.isFrozen then .error (.migration (.refused 8 "attempt to write a readonly database"))
    else if !disk.hasJournal l then .error (.migration unable)
    else .ok .empty

/-- The disk after a table was written; a table in memory is gone with its last connection. -/
def store (disk : Disk) (l : Location) (t : PayoutTable) : Disk :=
  match disk.walk l.file with
  | some path =>
    if holds l then { disk with files := (path, .table t) :: disk.files.filter (·.1 ≠ path) }
    else disk
  | none => disk

/-- Open the database of an address. -/
def connect (disk : Disk) (url : String) : Except Error (Location × PayoutTable) :=
  match Location.read url with
  | .error fault => .error (.database fault)
  | .ok l => (disk.openTable l).map fun t => (l, t)

end Disk

/-- The filter of a list that leaves nothing out. -/
def wholePage : Filter := ⟨none, none, none, none, none⟩

/-- Record a payout unless its identifier is taken already. -/
def record (t : PayoutTable) (p : Payout) : Except Error Unit × PayoutTable :=
  match t.get p.id with
  | .ok (some _) => (.ok (), t)
  | .ok none => t.create p
  | .error e => (.error e, t)

/-- Connect, record a payout if there is one to record, and list what is there. -/
def visit (disk : Disk) (url : String) (p : Option Payout) :
    Except Error (List Payout) × Disk :=
  match disk.connect url with
  | .error e => (.error e, disk)
  | .ok (l, t) =>
    let (outcome, t) := (p.map (record t)).getD (.ok (), t)
    (outcome.bind fun _ => t.list wholePage, disk.store l t)

/-- What several processes in turn see of one database. -/
def visits (url : String) (p : Option Payout) :
    Nat → Disk → List (Except Error (List Payout))
  | 0, _ => []
  | n + 1, disk =>
    let (rows, disk) := visit disk url p
    rows :: visits url p n disk

end Disburse.Database
