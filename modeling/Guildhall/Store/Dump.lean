import Guildhall.Store.Database
import Guildhall.Store.Rule

/-!
The raw cells of tables, in the order of their primary keys.
-/

namespace Guildhall

def compareCells : List Cell → List Cell → Ordering
  | [], [] => .eq
  | [], _ :: _ => .lt
  | _ :: _, [] => .gt
  | a :: as, b :: bs => (a.compare b).then (compareCells as bs)

def Database.dump (catalog : Catalog) (db : Database) (table : Table) : List (List Cell) :=
  let rows := (db.rows table).map (table.cells ·)
  let key (cells : Cells) := (cells.key? (catalog table).primaryKey).getD []
  let ordered := rows.mergeSort fun a b => (compareCells (key a) (key b)).isLE
  ordered.map fun cells => cells.map Prod.snd

end Guildhall
