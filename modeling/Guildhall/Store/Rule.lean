import Guildhall.Store.Database
import Guildhall.Store.Failure
import Guildhall.Store.Catalog.Basic

/-!
The conditions under which a statement goes through, in the order in which they are looked at:
integers fit their words, then named unique constraints, then the primary key, then references.
-/

namespace Guildhall

structure Rule where
  holds : Bool
  failure : Failure

def demand {α : Type} (rules : List Rule) (answer : α) : Except Failure α :=
  match rules.find? (fun rule => !rule.holds) with
  | some broken => .error broken.failure
  | none => .ok answer

def fitting (integers : List Int) : Rule := ⟨integers.all fitsWord, .tooLarge⟩

/-- The key of a row in the named columns; a row with a null there has none. -/
def Table.key? (table : Table) (columns : List String) (row : table.Row) : Option (List Cell) :=
  Cells.key? (table.cells row) columns

def Table.sameKey (table : Table) (columns : List String) (a b : table.Row) : Bool :=
  match table.key? columns a with
  | some key => table.key? columns b = some key
  | none => false

def unclaimed (table : Table) (columns : List String) (row : table.Row) (others : List table.Row) :
    Rule :=
  ⟨!others.any (table.sameKey columns row), .store (.duplicate (table.columnsText columns))⟩

def Reference.pointsInto (reference : Reference) (table : Table) (row : table.Row)
    (db : Database) : Bool :=
  match table.key? reference.columns row with
  | some key =>
    (db.rows reference.target).any fun other =>
      reference.target.key? reference.targetColumns other = some key
  | none => false

def Reference.isEmpty (reference : Reference) (table : Table) (row : table.Row) : Bool :=
  (table.key? reference.columns row).isNone

def targeted (reference : Reference) (table : Table) (row : table.Row) (db : Database) : Rule :=
  ⟨reference.isEmpty table row || reference.pointsInto table row db, .store .noTarget⟩

def rowRules (catalog : Catalog) (table : Table) (row : table.Row) (others : List table.Row)
    (db : Database) : List Rule :=
  (catalog table).uniques.map (fun named => unclaimed table named.columns row others) ++
    unclaimed table (catalog table).primaryKey row others ::
    (catalog table).references.map (fun reference => targeted reference table row db)

end Guildhall
