namespace Disburse.Database

/-- What a connection may do. -/
inductive Access where
  | read
  /-- Read and write what is there. -/
  | write
  /-- Make the file too, if it is missing. -/
  | create
  deriving DecidableEq

/-- The greater the rank, the more is allowed. -/
def Access.rank : Access → Nat
  | .read => 0
  | .write => 1
  | .create => 2

/-- Where a database is, and how it is opened. -/
structure Location where
  /-- The name of the file; empty for one that nobody else sees. -/
  file : String
  inMemory : Bool
  access : Access
  immutable : Bool
  fileSystem : Option String
  deriving DecidableEq

namespace Location

/-- A file that is opened with all rights. -/
def named (file : String) : Location :=
  ⟨file, false, .create, false, none⟩

/-- Nobody else can see what stands in such a database. -/
def isPrivate (l : Location) : Bool :=
  l.inMemory || l.file = "" || l.file = ":memory:"

/-- Writes to such a database are refused. -/
def isFrozen (l : Location) : Bool :=
  l.access = .read || l.immutable && !l.isPrivate

end Location

/-- The faults of the database below the table. -/
inductive Fault where
  /-- No connection became free in time. -/
  | poolTimedOut
  /-- The database engine refused, with its code and its own words. -/
  | refused (code : Nat) (text : String)
  /-- The address of the database makes no sense. -/
  | configuration (text : String)
  /-- The database cannot even be asked. -/
  | communication (text : String)
  /-- A column of integers, which may be optional, holds a value of another type. -/
  | mismatch (column : String) (optional : Bool) (held : String)
  deriving DecidableEq, Repr

def Fault.message : Fault → String
  | .poolTimedOut => "pool timed out while waiting for an open connection"
  | .refused code text => s!"error returned from database: (code: {code}) {text}"
  | .configuration text => s!"error with configuration: {text}"
  | .communication text => s!"error communicating with database: {text}"
  | .mismatch column optional held =>
    let asked := if optional then "core::option::Option<i64>" else "i64"
    s!"error occurred while decoding column \"{column}\": mismatched types; " ++
      s!"Rust type `{asked}` (as SQL type `INTEGER`) is not compatible with SQL type `{held}`"

end Disburse.Database
