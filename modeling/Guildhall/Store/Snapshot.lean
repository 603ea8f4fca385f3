import Guildhall.Store.Storage
import Guildhall.Store.Raw
import Guildhall.Json.Reader
import Guildhall.Json.Writer

/-!
A storage as text, in which it is kept between two runs. What is read back is the storage that was
written.
-/

namespace Guildhall

namespace Cell

def kept : Cell → Json
  | .null => .null
  | .int n => .whole n
  | .text s => .text s
  | .flag b => .flag b
  | .time t => .object [("time", .text t.storedText)]

def ofKept? : Json → Option Cell
  | .null => some .null
  | .whole n => some (.int n)
  | .text s => some (.text s)
  | .flag b => some (.flag b)
  | .object [("time", .text s)] => (Calendar.DateTime.read s).map fun t => .time t.wall
  | _ => none

end Cell

namespace Snapshot

def ofCells (cells : Cells) : Json := .object (cells.map fun (name, cell) => (name, cell.kept))

def cells? : Json → Option Cells
  | .object fields =>
    fields.mapM fun (name, value) => (Cell.ofKept? value).map fun cell => (name, cell)
  | _ => none

def row? (table : Table) (row : Json) : Option table.Row := (cells? row).bind table.ofCells?

def rows? (table : Table) : Json → Option (List table.Row)
  | .list rows => rows.mapM (row? table)
  | _ => none

def ofRows (db : Database) (table : Table) : String × Json :=
  (table.name, .list ((db.rows table).map fun row => ofCells (table.cells row)))

def fill (json : Json) : List Table → Database → Option Database
  | [], db => some db
  | table :: rest, db => do
    let rows ← rows? table (← json.get? table.name)
    fill json rest (db.put table rows)

def originName : Origin → String
  | .declared => "declared"
  | .migrated => "migrated"

def origin? (name : String) : Option Origin :=
  [Origin.declared, .migrated].find? fun origin => originName origin = name

def ofTables : Option Tables → Json
  | none => .null
  | some tables => .object [("origin", .text (originName tables.origin)),
      ("contents", .object (Table.all.map (ofRows tables.contents)))]

def tables? : Json → Option (Option Tables)
  | .null => some none
  | .object [("origin", .text name), ("contents", contents)] => do
    return some ⟨← origin? name, ← fill contents Table.all .empty⟩
  | _ => none

def text (storage : Storage) : String :=
  (Json.object [("versioned", .flag storage.versioned), ("tables", ofTables storage.tables)]).render

def read? (text : String) : Option Storage :=
  if text.isEmpty then some .blank
  else
    match Json.read? text with
    | some (.object [("versioned", .flag versioned), ("tables", tables)]) =>
      (tables? tables).map fun tables => ⟨tables, versioned⟩
    | _ => none

end Snapshot

end Guildhall
