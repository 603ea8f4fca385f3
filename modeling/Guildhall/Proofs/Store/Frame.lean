import Guildhall.Proofs.Store.Insertion

/-!
Statements that leave a table as it is, and what a change in place leaves of the rows that it does
not choose.
-/

namespace Guildhall

/-- Where the statement succeeds, the rows of the table are as before. -/
def Leaves (table : Table) (statement : Statement) : Prop :=
  ∀ {db left : Database}, statement db = .ok left → left.rows table = db.rows table

section Statements

variable {table other : Table}

theorem leaves_insertRow {row : table.Row} (apart : other ≠ table) :
    Leaves other (insertRow Catalog.declared table row) := by
  intro db left done
  obtain ⟨-, rfl, -⟩ := insertRow_ok.mp done
  exact Database.rows_put_of_ne db apart _

theorem leaves_changeRows {integers : List Int} {chosen : table.Row → Bool}
    {change : table.Row → table.Row} (apart : other ≠ table) :
    Leaves other (changeRows Catalog.declared table integers chosen change) := by
  intro db left done
  obtain ⟨-, rfl, -⟩ := changeRows_ok.mp done
  exact Database.rows_put_of_ne db apart _

theorem leaves_putRow {row : table.Row} {change : table.Row → table.Row} (apart : other ≠ table) :
    Leaves other (putRow Catalog.declared table row change) := by
  intro db left done
  rcases putRow_ok done with inserted | changed
  · exact leaves_insertRow apart inserted
  · exact leaves_changeRows apart changed

theorem leaves_ensureRow {row : table.Row} (apart : other ≠ table) :
    Leaves other (ensureRow Catalog.declared table row) := by
  intro db left done
  rcases ensureRow_ok done with inserted | ⟨-, rfl⟩
  · exact leaves_insertRow apart inserted
  · rfl

theorem leaves_deleteRows {integers : List Int} {chosen : table.Row → Bool}
    (channels : other ≠ .channels) (directs : other ≠ .directChannels)
    (spared : ∀ db row, ¬Falls Catalog.declared db table chosen other row) :
    Leaves other (deleteRows Catalog.declared table integers chosen) := by
  intro db left done
  exact (cascaded_deleteRows done).stays channels directs (spared db)

theorem leaves_inOrder {statements : List Statement}
    (each : ∀ statement ∈ statements, Leaves other statement) :
    Leaves other (inOrder statements) := by
  intro db left done
  induction statements generalizing db with
  | nil =>
      cases done
      rfl
  | cons statement rest ih =>
      obtain ⟨middle, first, later⟩ := inOrder_cons.mp done
      have stays : left.rows other = middle.rows other :=
        ih (fun next member => each next (List.mem_cons_of_mem _ member)) later
      exact stays.trans (each statement List.mem_cons_self first)

theorem leaves_createDirect {draft : Directs.Draft} (channels : other ≠ .directChannels)
    (recipients : other ≠ .recipients) :
    Leaves other (Directs.create Catalog.declared draft) := by
  intro db left done
  unfold Directs.create at done
  split at done
  · refine leaves_inOrder ?_ done
    intro statement member
    rcases List.mem_cons.mp member with rfl | member
    · exact leaves_insertRow channels
    · obtain ⟨userId, -, rfl⟩ := List.mem_map.mp member
      exact leaves_insertRow recipients
  · cases done

end Statements

section Rows

variable {table : Table} {chosen other : table.Row → Bool} {change : table.Row → table.Row}
  {db : Database}

theorem filter_changedRows_self (steady : ∀ row, chosen row = true → chosen (change row) = true) :
    (changedRows table chosen change db).filter chosen =
      ((db.rows table).filter chosen).map change := by
  unfold changedRows
  induction db.rows table with
  | nil => rfl
  | cons row rest ih =>
      by_cases picked : chosen row = true
      · simp [picked, steady row picked, ih]
      · simp [picked, ih]

theorem filter_changedRows_other (apart : ∀ row, chosen row = true → other row = false)
    (steady : ∀ row, chosen row = true → other (change row) = false) :
    (changedRows table chosen change db).filter other = (db.rows table).filter other := by
  unfold changedRows
  induction db.rows table with
  | nil => rfl
  | cons row rest ih =>
      by_cases picked : chosen row = true
      · simp [picked, apart row picked, steady row picked, ih]
      · simp [picked, List.filter_cons, ih]

end Rows

end Guildhall
