import Guildhall.Store.Rule

/-!
The statements that change tables. Each gives the new contents, or the failure of the first rule
that is broken; what was there before is then still there.
-/

namespace Guildhall

abbrev Statement := Database → Except Failure Database

section

variable (catalog : Catalog) (table : Table)

def insertRow (row : table.Row) : Statement := fun db =>
  let outcome := db.put table (db.rows table ++ [row])
  demand (fitting (table.cells row).integers ::
    rowRules catalog table row (db.rows table) outcome) outcome

def changeRows (integers : List Int) (chosen : table.Row → Bool) (change : table.Row → table.Row) :
    Statement := fun db =>
  let others := (db.rows table).filter (fun row => !chosen row)
  let outcome :=
    db.put table ((db.rows table).map fun row => if chosen row then change row else row)
  demand (fitting integers ::
    ((db.rows table).filter chosen).flatMap
      (fun row => rowRules catalog table (change row) others outcome)) outcome

def holdsKeyOf (row : table.Row) (db : Database) : Bool :=
  (db.rows table).any (table.sameKey (catalog table).primaryKey row)

def putRow (row : table.Row) (change : table.Row → table.Row) : Statement := fun db =>
  if holdsKeyOf catalog table row db then
    changeRows catalog table (table.cells row).integers
      (table.sameKey (catalog table).primaryKey row) change db
  else insertRow catalog table row db

def ensureRow (row : table.Row) : Statement := fun db =>
  if holdsKeyOf catalog table row db then demand [fitting (table.cells row).integers] db
  else insertRow catalog table row db

end

/-- The tables while a deletion runs: the rows that stay, and those that go. -/
structure Deletion where
  kept : Database
  gone : Database

namespace Deletion

def start (table : Table) (chosen : table.Row → Bool) (db : Database) : Deletion where
  kept := db.put table ((db.rows table).filter fun row => !chosen row)
  gone := Database.empty.put table ((db.rows table).filter chosen)

def drags (catalog : Catalog) (table : Table) (gone : Database) (row : table.Row) : Bool :=
  (catalog table).references.any fun reference =>
    reference.onDelete = .cascade && reference.pointsInto table row gone

/-- Moves the rows of one table that go along with rows of the tables before it. -/
def spread (catalog : Catalog) (deletion : Deletion) (table : Table) : Deletion :=
  let rows := deletion.kept.rows table
  let dragged := drags catalog table deletion.gone
  { kept := deletion.kept.put table (rows.filter fun row => !dragged row)
    gone := deletion.gone.put table (deletion.gone.rows table ++ rows.filter dragged) }

def cleared (catalog : Catalog) (table : Table) (gone : Database) (row : table.Row) : table.Row :=
  (catalog table).references.foldl (fun row reference =>
    if reference.onDelete = .clear ∧ reference.pointsInto table row gone then
      table.clear reference.columns row
    else row) row

def clearIn (catalog : Catalog) (gone : Database) (db : Database) (table : Table) : Database :=
  db.put table ((db.rows table).map (cleared catalog table gone))

def unhindered (catalog : Catalog) (deletion : Deletion) : Bool :=
  Table.all.all fun table => (deletion.kept.rows table).all fun row =>
    (catalog table).references.all fun reference =>
      !(reference.onDelete = .refuse && reference.pointsInto table row deletion.gone)

end Deletion

def deleteRows (catalog : Catalog) (table : Table) (integers : List Int)
    (chosen : table.Row → Bool) : Statement := fun db =>
  let deletion := Table.all.foldl (Deletion.spread catalog) (Deletion.start table chosen db)
  demand [fitting integers, ⟨Deletion.unhindered catalog deletion, .store .noTarget⟩]
    (Table.all.foldl (Deletion.clearIn catalog deletion.gone) deletion.kept)

def inOrder (statements : List Statement) : Statement := fun db =>
  statements.foldlM (fun db statement => statement db) db

/-- A transaction leaves the outcome of all its statements, or else the tables as they were. -/
def transact (statement : Statement) (db : Database) : Except Failure Unit × Database :=
  match statement db with
  | .ok outcome => (.ok (), outcome)
  | .error failure => (.error failure, db)

end Guildhall
