import Guildhall.Store.Command
import Guildhall.Store.Catalog.Declared
import Guildhall.Store.Catalog.Baseline

/-!
A storage with or without tables. The tables are set up at once or by migration; the two ways give
them one catalog each.
-/

namespace Guildhall

open Calendar

inductive Origin where
  | declared
  | migrated
  deriving DecidableEq, Repr

def Origin.catalog : Origin → Catalog
  | declared => Catalog.declared
  | migrated => Baseline.catalog

structure Tables where
  origin : Origin
  contents : Database
  deriving DecidableEq, Repr

/-- Migrations leave a table of their own, which outlives the others. -/
structure Storage where
  tables : Option Tables
  versioned : Bool
  deriving DecidableEq, Repr

def versionTable : String := "alembic_version"

/-- What the arguments of a call alone forbid is found before any table is looked at. -/
def Failure.isRefusal : Failure → Bool
  | limitNotPositive _ | negativeOffset _ | recipientCount _ | sameUser | unwritable => true
  | _ => false

namespace Storage

def blank : Storage := ⟨none, false⟩

def setUp (storage : Storage) : Storage :=
  match storage.tables with
  | none => { storage with tables := some ⟨.declared, .empty⟩ }
  | some _ => storage

def upgrade (storage : Storage) : Except StoreError Storage :=
  match storage.tables with
  | none => .ok ⟨some ⟨.migrated, .empty⟩, true⟩
  | some ⟨.migrated, _⟩ => .ok storage
  | some ⟨.declared, _⟩ => .error (.unavailable "table users already exists")

def downgrade (storage : Storage) : Storage :=
  match storage.tables with
  | some ⟨.declared, _⟩ => { storage with versioned := true }
  | _ => ⟨none, true⟩

def tableNames (storage : Storage) : List String :=
  let names := (if storage.versioned then [versionTable] else []) ++
    (if storage.tables.isSome then Table.all.map Table.name else [])
  names.mergeSort (fun a b => a ≤ b)

/-- Does something with the tables; without tables the first one that is looked at is missed. -/
def attempt {α : Type} (first : Table)
    (act : Catalog → Database → Except Failure α × Database) (storage : Storage) :
    Except Failure α × Storage :=
  match storage.tables with
  | some tables =>
    let (outcome, contents) := act tables.origin.catalog tables.contents
    (outcome, { storage with tables := some { tables with contents := contents } })
  | none =>
    let missing := Failure.store (.noTable first.name)
    match (act Catalog.declared .empty).1 with
    | .error failure => (.error (if failure.isRefusal then failure else missing), storage)
    | .ok _ => (.error missing, storage)

def run (now : DateTime) (command : Command) (storage : Storage) :
    Except Failure Answer × Storage :=
  storage.attempt command.table fun catalog db => command.run catalog now db

def step (now : DateTime) (finder : Directs.Finder) (storage : Storage) :
    Directs.Finder × Storage :=
  match storage.attempt .directChannels fun catalog db =>
      let (next, left) := finder.step catalog now db
      (.ok next, left) with
  | (.ok next, left) => (next, left)
  | (.error failure, left) => ({ finder with phase := .done (.error failure) }, left)

end Storage

end Guildhall
