import Guildhall.Proofs.Store.Effect

/-!
Tables with their secrets blanked: the password hashes of users and the storage keys of attachments.
No constraint looks at them, so that a statement does to blanked tables what it does to the tables
themselves, up to the blanks, and fails on both in the same way.
-/

namespace Guildhall

def User.censored (user : User) : User := { user with passwordHash := "" }

def UserRow.censored (row : UserRow) : UserRow := { row with passwordHash := "" }

def Attachment.censored (attachment : Attachment) : Attachment :=
  { attachment with storageKey := "" }

namespace Table

def secrets : Table → List String
  | .users => ["password_hash"]
  | .attachments => ["storage_key"]
  | _ => []

def censored : (table : Table) → table.Row → table.Row
  | .users => UserRow.censored
  | .attachments => Attachment.censored
  | _ => id

theorem integers_censored (table : Table) (row : table.Row) :
    (table.cells (table.censored row)).integers = (table.cells row).integers := by
  cases table <;> rfl

theorem get_censored {table : Table} {name : String} (shown : name ∉ table.secrets)
    (row : table.Row) :
    (table.cells (table.censored row)).get? name = (table.cells row).get? name := by
  cases table
  case users =>
    have other : (name == "password_hash") = false := by simpa [secrets] using shown
    simp [cells, censored, UserRow.cells, UserRow.censored, Cells.get?, List.lookup_cons, other]
  case attachments =>
    have other : (name == "storage_key") = false := by simpa [secrets] using shown
    simp [cells, censored, Attachment.cells, Attachment.censored, Cells.get?, List.lookup_cons,
      other]
  all_goals rfl

theorem key_censored {table : Table} {columns : List String}
    (shown : ∀ name ∈ columns, name ∉ table.secrets) (row : table.Row) :
    table.key? columns (table.censored row) = table.key? columns row := by
  unfold Table.key? Cells.key?
  induction columns with
  | nil => rfl
  | cons name rest ih =>
      have head : name ∉ table.secrets := shown name List.mem_cons_self
      have tail : ∀ other ∈ rest, other ∉ table.secrets :=
        fun other member => shown other (List.mem_cons_of_mem _ member)
      rw [List.mapM_cons, List.mapM_cons, get_censored head, ih tail]

theorem clear_censored (table : Table) (columns : List String) (row : table.Row) :
    table.clear columns (table.censored row) = table.censored (table.clear columns row) := by
  cases table <;> rfl

end Table

def Database.censored (db : Database) : Database :=
  { db with
    users := db.users.map UserRow.censored
    attachments := db.attachments.map Attachment.censored }

theorem rows_censored (db : Database) (table : Table) :
    db.censored.rows table = (db.rows table).map table.censored := by
  cases table
  case users => rfl
  case attachments => rfl
  all_goals exact (List.map_id _).symm

theorem put_censored (db : Database) (table : Table) (rows : List table.Row) :
    (db.put table rows).censored = db.censored.put table (rows.map table.censored) := by
  cases table
  case users => rfl
  case attachments => rfl
  all_goals
    change db.censored.put _ rows = db.censored.put _ (rows.map id)
    rw [List.map_id]

section Rules

variable {table : Table}

theorem keys_shown (table : Table) :
    ∀ columns ∈ (Catalog.declared table).primaryKey ::
      (Catalog.declared table).uniques.map Named.columns,
      ∀ name ∈ columns, name ∉ table.secrets := by
  cases table <;> decide

theorem sources_shown (table : Table) :
    ∀ reference ∈ (Catalog.declared table).references,
      ∀ name ∈ reference.columns, name ∉ table.secrets := by
  cases table <;> decide

theorem targets_shown (table : Table) :
    ∀ reference ∈ (Catalog.declared table).references,
      ∀ name ∈ reference.targetColumns, name ∉ reference.target.secrets := by
  cases table <;> decide

theorem sameKey_censored {columns : List String}
    (shown : ∀ name ∈ columns, name ∉ table.secrets) (a b : table.Row) :
    table.sameKey columns (table.censored a) (table.censored b) = table.sameKey columns a b :=
  sameKey_congr (Table.key_censored shown a) (Table.key_censored shown b)

theorem unclaimed_censored {columns : List String}
    (shown : ∀ name ∈ columns, name ∉ table.secrets) (row : table.Row) (others : List table.Row) :
    unclaimed table columns (table.censored row) (others.map table.censored) =
      unclaimed table columns row others := by
  have alike : (others.map table.censored).any (table.sameKey columns (table.censored row)) =
      others.any (table.sameKey columns row) := by
    rw [List.any_map]
    congr 1
    funext other
    exact sameKey_censored shown row other
  rw [unclaimed, unclaimed, alike]

theorem pointsInto_censored {reference : Reference}
    (declared : reference ∈ (Catalog.declared table).references) (row : table.Row)
    (db : Database) :
    reference.pointsInto table (table.censored row) db.censored =
      reference.pointsInto table row db := by
  unfold Reference.pointsInto
  rw [Table.key_censored (sources_shown table reference declared), rows_censored]
  simp only [List.any_map, Function.comp_def,
    Table.key_censored (targets_shown table reference declared)]

theorem isEmpty_censored {reference : Reference}
    (declared : reference ∈ (Catalog.declared table).references) (row : table.Row) :
    reference.isEmpty table (table.censored row) = reference.isEmpty table row := by
  rw [Reference.isEmpty, Reference.isEmpty,
    Table.key_censored (sources_shown table reference declared)]

/-- Blanked tables demand the same of a blanked row. -/
theorem rowRules_censored (row : table.Row) (others : List table.Row) (db : Database) :
    rowRules Catalog.declared table (table.censored row) (others.map table.censored) db.censored =
      rowRules Catalog.declared table row others db := by
  have shown := keys_shown table
  have uniques : ∀ named ∈ (Catalog.declared table).uniques,
      unclaimed table named.columns (table.censored row) (others.map table.censored) =
        unclaimed table named.columns row others := by
    intro named member
    exact unclaimed_censored
      (shown named.columns (List.mem_cons_of_mem _ (List.mem_map_of_mem member))) row others
  have references : ∀ reference ∈ (Catalog.declared table).references,
      targeted reference table (table.censored row) db.censored =
        targeted reference table row db := by
    intro reference declared
    rw [targeted, targeted, isEmpty_censored declared, pointsInto_censored declared]
  rw [rowRules, rowRules, List.map_congr_left uniques, List.map_congr_left references,
    unclaimed_censored (shown _ List.mem_cons_self)]

end Rules

theorem demand_map {α β : Type} (rules : List Rule) (f : α → β) (answer : α) :
    demand rules (f answer) = (demand rules answer).map f := by
  unfold demand
  cases rules.find? (fun rule => !rule.holds) <;> rfl

/-- The second statement does to blanked tables what the first does to the tables. -/
def Blind (statement other : Statement) : Prop :=
  ∀ db : Database, other db.censored = (statement db).map Database.censored

section Statements

variable {table : Table} {chosen veiled : table.Row → Bool}
  {change altered : table.Row → table.Row}

theorem blind_insertRow (row : table.Row) :
    Blind (insertRow Catalog.declared table row)
      (insertRow Catalog.declared table (table.censored row)) := by
  intro db
  have outcome : db.censored.put table (db.censored.rows table ++ [table.censored row]) =
      (db.put table (db.rows table ++ [row])).censored := by
    rw [put_censored, rows_censored, List.map_append, List.map_singleton]
  unfold insertRow
  dsimp only
  rw [outcome, rows_censored, rowRules_censored, Table.integers_censored, demand_map]

theorem filter_censored (alike : ∀ row, veiled (table.censored row) = chosen row)
    (rows : List table.Row) :
    (rows.map table.censored).filter veiled = (rows.filter chosen).map table.censored := by
  rw [List.filter_map]
  congr 2
  funext row
  exact alike row

theorem blind_changeRows (integers : List Int)
    (alike : ∀ row, veiled (table.censored row) = chosen row)
    (kept : ∀ row, altered (table.censored row) = table.censored (change row)) :
    Blind (changeRows Catalog.declared table integers chosen change)
      (changeRows Catalog.declared table integers veiled altered) := by
  intro db
  have others : (db.censored.rows table).filter (fun row => !veiled row) =
      ((db.rows table).filter fun row => !chosen row).map table.censored := by
    rw [rows_censored]
    exact filter_censored (fun row => by rw [alike]) _
  have picked : (db.censored.rows table).filter veiled =
      ((db.rows table).filter chosen).map table.censored := by
    rw [rows_censored]
    exact filter_censored alike _
  have each : ∀ row, (if veiled (table.censored row) then altered (table.censored row)
      else table.censored row) = table.censored (if chosen row then change row else row) := by
    intro row
    rw [alike, kept]
    split <;> rfl
  have outcome : db.censored.put table ((db.censored.rows table).map fun row =>
      if veiled row then altered row else row) =
      (db.put table ((db.rows table).map fun row =>
        if chosen row then change row else row)).censored := by
    rw [put_censored, rows_censored, List.map_map, List.map_map]
    congr 2
    funext row
    exact each row
  unfold changeRows
  dsimp only
  rw [outcome, others, picked, List.flatMap_map]
  simp only [kept, rowRules_censored, demand_map]

theorem holdsKeyOf_censored (row : table.Row) (db : Database) :
    holdsKeyOf Catalog.declared table (table.censored row) db.censored =
      holdsKeyOf Catalog.declared table row db := by
  unfold holdsKeyOf
  rw [rows_censored, List.any_map]
  congr 1
  funext other
  exact sameKey_censored (keys_shown table _ List.mem_cons_self) row other

theorem blind_putRow (row : table.Row)
    (kept : ∀ old, altered (table.censored old) = table.censored (change old)) :
    Blind (putRow Catalog.declared table row change)
      (putRow Catalog.declared table (table.censored row) altered) := by
  intro db
  unfold putRow
  rw [holdsKeyOf_censored, Table.integers_censored]
  split
  · exact blind_changeRows _
      (sameKey_censored (keys_shown table _ List.mem_cons_self) row) kept db
  · exact blind_insertRow row db

theorem blind_ensureRow (row : table.Row) :
    Blind (ensureRow Catalog.declared table row)
      (ensureRow Catalog.declared table (table.censored row)) := by
  intro db
  unfold ensureRow
  rw [holdsKeyOf_censored, Table.integers_censored]
  split
  · exact demand_map _ _ _
  · exact blind_insertRow row db

def Deletion.censored (deletion : Deletion) : Deletion :=
  ⟨deletion.kept.censored, deletion.gone.censored⟩

theorem start_censored (alike : ∀ row, veiled (table.censored row) = chosen row)
    (db : Database) :
    Deletion.start table veiled db.censored = (Deletion.start table chosen db).censored := by
  unfold Deletion.start Deletion.censored
  congr 1
  · rw [put_censored, rows_censored, filter_censored fun row => by rw [alike]]
  · rw [put_censored, rows_censored, filter_censored alike]
    rfl

theorem drags_censored (gone : Database) (row : table.Row) :
    Deletion.drags Catalog.declared table gone.censored (table.censored row) =
      Deletion.drags Catalog.declared table gone row := by
  unfold Deletion.drags
  rw [Bool.eq_iff_iff, List.any_eq_true, List.any_eq_true]
  refine exists_congr fun reference => and_congr_right fun declared => ?_
  rw [pointsInto_censored declared]

theorem spread_censored (deletion : Deletion) (table : Table) :
    Deletion.spread Catalog.declared deletion.censored table =
      (Deletion.spread Catalog.declared deletion table).censored := by
  have stay : ∀ row : table.Row, (!Deletion.drags Catalog.declared table
      deletion.gone.censored (table.censored row)) =
      !Deletion.drags Catalog.declared table deletion.gone row := by
    intro row
    rw [drags_censored]
  unfold Deletion.spread Deletion.censored
  dsimp only
  congr 1
  · rw [put_censored, rows_censored, filter_censored stay]
  · rw [put_censored, rows_censored, rows_censored, filter_censored (drags_censored _),
      List.map_append]

theorem clearing_censored (gone : Database) (references : List Reference) (row : table.Row)
    (declared : ∀ reference ∈ references, reference ∈ (Catalog.declared table).references) :
    references.foldl (Deletion.clearing table gone.censored) (table.censored row) =
      table.censored (references.foldl (Deletion.clearing table gone) row) := by
  induction references generalizing row with
  | nil => rfl
  | cons reference rest ih =>
      have head := declared reference List.mem_cons_self
      have tail : ∀ other ∈ rest, other ∈ (Catalog.declared table).references :=
        fun other member => declared other (List.mem_cons_of_mem _ member)
      have step : Deletion.clearing table gone.censored (table.censored row) reference =
          table.censored (Deletion.clearing table gone row reference) := by
        unfold Deletion.clearing
        rw [pointsInto_censored head]
        split
        · exact Table.clear_censored table reference.columns row
        · rfl
      rw [List.foldl_cons, List.foldl_cons, step]
      exact ih _ tail

theorem clearIn_censored (gone db : Database) (table : Table) :
    Deletion.clearIn Catalog.declared gone.censored db.censored table =
      (Deletion.clearIn Catalog.declared gone db table).censored := by
  unfold Deletion.clearIn
  rw [put_censored, rows_censored, List.map_map, List.map_map]
  congr 2
  funext row
  exact clearing_censored gone _ row fun _ member => member

theorem unhindered_censored (deletion : Deletion) :
    Deletion.unhindered Catalog.declared deletion.censored =
      Deletion.unhindered Catalog.declared deletion := by
  unfold Deletion.unhindered Deletion.censored
  dsimp only
  congr 1
  funext table
  rw [rows_censored, List.all_map]
  congr 1
  funext row
  rw [Function.comp_apply, Bool.eq_iff_iff, List.all_eq_true, List.all_eq_true]
  refine forall_congr' fun reference => forall_congr' fun declared => ?_
  rw [pointsInto_censored declared]

theorem blind_deleteRows (integers : List Int)
    (alike : ∀ row, veiled (table.censored row) = chosen row) :
    Blind (deleteRows Catalog.declared table integers chosen)
      (deleteRows Catalog.declared table integers veiled) := by
  intro db
  have spreads : Table.all.foldl (Deletion.spread Catalog.declared)
      (Deletion.start table veiled db.censored) =
      (Table.all.foldl (Deletion.spread Catalog.declared)
        (Deletion.start table chosen db)).censored := by
    rw [start_censored alike]
    exact List.foldl_hom Deletion.censored spread_censored
  generalize complete : Table.all.foldl (Deletion.spread Catalog.declared)
    (Deletion.start table chosen db) = deletion at spreads
  -- What has gone is complete before the references to it are cleared, so each pass is led back on
  -- its own.
  have clears : Table.all.foldl (Deletion.clearIn Catalog.declared deletion.gone.censored)
      deletion.kept.censored =
      (Table.all.foldl (Deletion.clearIn Catalog.declared deletion.gone)
        deletion.kept).censored :=
    List.foldl_hom Database.censored (clearIn_censored deletion.gone)
  unfold deleteRows
  dsimp only
  rw [spreads, complete, unhindered_censored]
  exact (congrArg _ clears).trans (demand_map _ _ _)

theorem blind_inOrder {statements : List Statement}
    (each : ∀ statement ∈ statements, Blind statement statement) :
    Blind (inOrder statements) (inOrder statements) := by
  induction statements with
  | nil => exact fun db => rfl
  | cons statement rest ih =>
      intro db
      have blind : Blind statement statement := each statement List.mem_cons_self
      have later : Blind (inOrder rest) (inOrder rest) :=
        ih fun other member => each other (List.mem_cons_of_mem _ member)
      change (statement db.censored).bind (inOrder rest) =
        ((statement db).bind (inOrder rest)).map Database.censored
      rw [blind db]
      cases statement db with
      | error failure => rfl
      | ok middle => exact later middle

theorem transact_censored {statement other : Statement} (blind : Blind statement other)
    (db : Database) :
    transact other db.censored =
      ((transact statement db).1, (transact statement db).2.censored) := by
  unfold transact
  rw [blind db]
  cases statement db <;> rfl

end Statements

end Guildhall
