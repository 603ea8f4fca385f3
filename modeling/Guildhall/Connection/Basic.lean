import Guildhall.Connection.Address
import Guildhall.Settings.Basic
import Guildhall.Store.Dialect

/-!
Connections: the dialect of a database, its address, and how many connections are kept.
-/

namespace Guildhall

structure Pool where
  size : Int
  maxOverflow : Int
  timeout : Int
  recycle : Int
  deriving DecidableEq, Repr

/-- Local databases watch over references themselves; servers get a pool of connections, each of
which is tried before use. -/
inductive Upkeep where
  | references
  | pooled (pool : Pool)
  deriving DecidableEq, Repr

structure Connection where
  dialect : Dialect
  address : Address
  echo : Bool
  upkeep : Upkeep
  deriving DecidableEq, Repr

inductive ConnectionFault where
  | address (cause : AddressFault)
  /-- There is no dialect or driver of this name. -/
  | unknown (name : String)
  /-- The name has more than two parts. -/
  | manyParts
  /-- The address of a local database names a server. -/
  | notLocal (shown : String)
  deriving DecidableEq, Repr

def ConnectionFault.message : ConnectionFault → String
  | .address cause => cause.message
  | .unknown name => "Can't load plugin: sqlalchemy.dialects:" ++ name
  | .manyParts => "too many values to unpack (expected 2)"
  | .notLocal shown =>
    "Invalid SQLite URL: " ++ shown ++
      "\nValid SQLite URL forms are sqlite:///:memory: or sqlite:////absolute/path/to/file.db"

def Dialect.driver : Dialect → String
  | .postgresql => "psycopg2"
  | .sqlite => "pysqlite"

namespace Connection

/-- A dialect by its name, which the name of its driver may follow. -/
def dialectOf (name : String) : Except ConnectionFault Dialect :=
  let parts := (Text.splitAt '+' name.toList).map String.ofList
  let known (dialect : Dialect) : Bool :=
    parts = [dialect.name] || parts = [dialect.name, dialect.driver]
  if 2 < parts.length then .error .manyParts
  else
    match Dialect.all.find? known with
    | some dialect => .ok dialect
    | none => .error (.unknown (".".intercalate parts))

def isPresent (part : Option String) : Bool := part.any fun text => !text.isEmpty

def isLocal (address : Address) : Bool :=
  !(isPresent address.user || isPresent address.password || isPresent address.host ||
    address.portNumber.any fun portNumber => portNumber ≠ 0)

/-- An empty pool admits any number of connections beyond it. -/
def poolOf (settings : Settings) : Pool :=
  ⟨settings.poolSize, if settings.poolSize = 0 then -1 else settings.maxOverflow,
    settings.poolTimeout, settings.poolRecycle⟩

def upkeepOf (settings : Settings) : Dialect → Upkeep
  | .sqlite => .references
  | .postgresql => .pooled (poolOf settings)

def open? (settings : Settings) : Except ConnectionFault Connection := do
  match Address.parse settings.databaseUrl with
  | .error cause => .error (.address cause)
  | .ok address =>
    let dialect ← dialectOf address.name
    if dialect = .sqlite ∧ !isLocal address then .error (.notLocal address.shown)
    else .ok ⟨dialect, address, settings.echo, upkeepOf settings dialect⟩

def target (connection : Connection) : Option String :=
  if isPresent connection.address.host then connection.address.host
  else connection.address.database

end Connection

end Guildhall
