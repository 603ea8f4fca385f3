import Guildhall.Proofs.Store.Constraint

/-!
Deletion with everything that goes along. In a catalog whose cascading references look back to
earlier tables one pass over the tables is enough: no row that stays refers to one that is gone, and
so all constraints hold again.
-/

namespace Guildhall

/-- What deletion needs of a catalog: cascades look back to earlier tables, and clearing a reference
empties it and touches no key. -/
structure Catalog.Orderly (catalog : Catalog) : Prop where
  rooted : catalog.Rooted
  backward : ∀ table, ∀ reference ∈ (catalog table).references,
    reference.onDelete = .cascade →
      Table.all.idxOf reference.target < Table.all.idxOf table
  clearEmpties : ∀ (table : Table) (row : table.Row), ∀ reference ∈ (catalog table).references,
    reference.onDelete = .clear →
      table.key? reference.columns (table.clear reference.columns row) = none
  clearKeeps : ∀ (table : Table) (row : table.Row), ∀ reference ∈ (catalog table).references,
    reference.onDelete = .clear → ∀ columns ∈
      (catalog table).primaryKey :: (catalog table).uniques.map Named.columns,
      table.key? columns (table.clear reference.columns row) = table.key? columns row
  clearLeaves : ∀ (table : Table) (row : table.Row), ∀ reference ∈ (catalog table).references,
    reference.onDelete = .clear → ∀ other ∈ (catalog table).references,
      table.key? other.columns (table.clear reference.columns row) =
        table.key? other.columns row ∨
      table.key? other.columns (table.clear reference.columns row) = none

theorem all_nodup : Table.all.Nodup := by decide

theorem mem_all (table : Table) : table ∈ Table.all := by
  cases table <;> decide

namespace Deletion

variable {catalog : Catalog} {table : Table} (deletion : Deletion)

theorem spread_kept_self :
    (spread catalog deletion table).kept.rows table =
      (deletion.kept.rows table).filter fun row => !drags catalog table deletion.gone row := by
  simp [spread]

theorem spread_gone_self :
    (spread catalog deletion table).gone.rows table =
      deletion.gone.rows table ++
        (deletion.kept.rows table).filter (drags catalog table deletion.gone) := by
  simp [spread]

theorem spread_of_ne {other : Table} (apart : other ≠ table) :
    (spread catalog deletion table).kept.rows other = deletion.kept.rows other ∧
      (spread catalog deletion table).gone.rows other = deletion.gone.rows other := by
  simp [spread, Database.rows_put_of_ne _ apart]

theorem spreadAll_outside {tables : List Table} {other : Table} (outside : other ∉ tables) :
    (tables.foldl (spread catalog) deletion).kept.rows other = deletion.kept.rows other ∧
      (tables.foldl (spread catalog) deletion).gone.rows other = deletion.gone.rows other := by
  induction tables generalizing deletion with
  | nil => exact ⟨rfl, rfl⟩
  | cons table rest ih =>
      simp only [List.mem_cons, not_or] at outside
      have later := ih (spread catalog deletion table) outside.2
      exact ⟨later.1.trans (spread_of_ne deletion outside.1).1,
        later.2.trans (spread_of_ne deletion outside.1).2⟩

theorem spread_kept_sublist (other : Table) :
    ((spread catalog deletion table).kept.rows other).Sublist (deletion.kept.rows other) := by
  by_cases same : other = table
  · subst same
    rw [spread_kept_self]
    exact List.filter_sublist
  · exact (spread_of_ne deletion same).1 ▸ List.Sublist.refl _

theorem spreadAll_kept_sublist (tables : List Table) (other : Table) :
    ((tables.foldl (spread catalog) deletion).kept.rows other).Sublist
      (deletion.kept.rows other) := by
  induction tables generalizing deletion with
  | nil => exact List.Sublist.refl _
  | cons table rest ih =>
      exact (ih (spread catalog deletion table)).trans (spread_kept_sublist deletion other)

/-- No row is lost: it stays, or it is gone. -/
theorem spread_partition {other : Table} {row : other.Row}
    (present : row ∈ deletion.kept.rows other ∨ row ∈ deletion.gone.rows other) :
    row ∈ (spread catalog deletion table).kept.rows other ∨
      row ∈ (spread catalog deletion table).gone.rows other := by
  by_cases same : other = table
  · subst same
    rw [spread_kept_self, spread_gone_self, List.mem_append, List.mem_filter, List.mem_filter]
    rcases present with kept | gone
    · cases dragged : drags catalog other deletion.gone row with
      | true => exact Or.inr (Or.inr ⟨kept, rfl⟩)
      | false => exact Or.inl ⟨kept, rfl⟩
    · exact Or.inr (Or.inl gone)
  · rwa [(spread_of_ne deletion same).1, (spread_of_ne deletion same).2]

theorem spreadAll_partition (tables : List Table) {other : Table} {row : other.Row}
    (present : row ∈ deletion.kept.rows other ∨ row ∈ deletion.gone.rows other) :
    row ∈ (tables.foldl (spread catalog) deletion).kept.rows other ∨
      row ∈ (tables.foldl (spread catalog) deletion).gone.rows other := by
  induction tables generalizing deletion with
  | nil => exact present
  | cons table rest ih =>
      exact ih (spread catalog deletion table) (spread_partition deletion present)

theorem pointsInto_congr {reference : Reference} {row : table.Row} {db left : Database}
    (same : db.rows reference.target = left.rows reference.target) :
    reference.pointsInto table row db = reference.pointsInto table row left := by
  unfold Reference.pointsInto
  rw [same]

/-- A table is passed after the targets of its cascading references, whose fate is then settled. -/
theorem spreadAll_settled (orderly : catalog.Orderly) {row : table.Row} {reference : Reference}
    (declared : reference ∈ (catalog table).references) (cascades : reference.onDelete = .cascade)
    (kept : row ∈ (Table.all.foldl (spread catalog) deletion).kept.rows table) :
    reference.pointsInto table row (Table.all.foldl (spread catalog) deletion).gone = false := by
  obtain ⟨before, after, split⟩ := List.append_of_mem (mem_all table)
  have nodup := all_nodup
  have back := orderly.backward table reference declared cascades
  rw [split] at kept nodup back ⊢
  have distinct := List.nodup_append.mp nodup
  have notBefore : table ∉ before := fun inside =>
    distinct.2.2 table inside table List.mem_cons_self rfl
  have notAfter : table ∉ after := (List.nodup_cons.mp distinct.2.1).1
  have targetBefore : reference.target ∈ before := by
    by_cases inside : reference.target ∈ before
    · exact inside
    · simp only [List.idxOf_append, if_neg notBefore, if_neg inside,
        List.idxOf_cons_self] at back
      omega
  have targetOutside : reference.target ∉ table :: after := fun inside =>
    distinct.2.2 reference.target targetBefore reference.target inside rfl
  simp only [List.foldl_append, List.foldl_cons] at kept ⊢
  simp only [List.mem_cons, not_or] at targetOutside
  rw [(spreadAll_outside _ notAfter).1, spread_kept_self, List.mem_filter] at kept
  have spared : drags catalog table (before.foldl (spread catalog) deletion).gone row = false := by
    simpa using kept.2
  have settled := List.any_eq_false.mp spared reference declared
  rw [pointsInto_congr ((spreadAll_outside _ targetOutside.2).2.trans
    (spread_of_ne _ targetOutside.1).2)]
  simpa [cascades] using settled

theorem start_partition {chosen : table.Row → Bool} {db : Database} {other : Table}
    {row : other.Row} (present : row ∈ db.rows other) :
    row ∈ (start table chosen db).kept.rows other ∨
      row ∈ (start table chosen db).gone.rows other := by
  by_cases same : other = table
  · subst same
    simp only [start, Database.rows_put_self, List.mem_filter]
    cases chosen row <;> simp [present]
  · simp only [start, Database.rows_put_of_ne _ same]
    exact Or.inl present

theorem start_kept_sublist {chosen : table.Row → Bool} {db : Database} (other : Table) :
    ((start table chosen db).kept.rows other).Sublist (db.rows other) := by
  by_cases same : other = table
  · subst same
    simp only [start, Database.rows_put_self]
    exact List.filter_sublist
  · simp only [start, Database.rows_put_of_ne _ same]
    exact List.Sublist.refl _

def clearing (table : Table) (gone : Database) (row : table.Row) (reference : Reference) :
    table.Row :=
  if reference.onDelete = .clear ∧ reference.pointsInto table row gone then
    table.clear reference.columns row
  else row

theorem cleared_eq (gone : Database) (row : table.Row) :
    cleared catalog table gone row =
      (catalog table).references.foldl (clearing table gone) row := rfl

section Clearing

variable (orderly : catalog.Orderly)

include orderly

theorem cleared_keeps (gone : Database) (row : table.Row) {columns : List String}
    (key : columns ∈ (catalog table).primaryKey :: (catalog table).uniques.map Named.columns) :
    table.key? columns (cleared catalog table gone row) = table.key? columns row := by
  rw [cleared_eq]
  refine List.foldlRecOn (motive := fun left => table.key? columns left = table.key? columns row)
    (catalog table).references _ rfl ?_
  intro left same reference declared
  unfold clearing
  split
  · rename_i clears
    exact (orderly.clearKeeps table left reference declared clears.1 columns key).trans same
  · exact same

theorem clearing_leaves (gone : Database) (row : table.Row) {other : Reference}
    (known : other ∈ (catalog table).references) {references : List Reference}
    (declared : ∀ reference ∈ references, reference ∈ (catalog table).references) :
    table.key? other.columns (references.foldl (clearing table gone) row) =
        table.key? other.columns row ∨
      table.key? other.columns (references.foldl (clearing table gone) row) = none := by
  refine List.foldlRecOn (motive := fun left =>
    table.key? other.columns left = table.key? other.columns row ∨
      table.key? other.columns left = none) references _ (Or.inl rfl) ?_
  intro left sofar reference member
  unfold clearing
  split
  · rename_i clears
    rcases orderly.clearLeaves table left reference (declared reference member) clears.1 other
      known with same | empty
    · rwa [same]
    · exact Or.inr empty
  · exact sofar

theorem cleared_leaves (gone : Database) (row : table.Row) {other : Reference}
    (known : other ∈ (catalog table).references) :
    table.key? other.columns (cleared catalog table gone row) = table.key? other.columns row ∨
      table.key? other.columns (cleared catalog table gone row) = none :=
  clearing_leaves orderly gone row known fun _ member => member

theorem cleared_empties {gone : Database} {row : table.Row} {reference : Reference}
    (declared : reference ∈ (catalog table).references) (clears : reference.onDelete = .clear)
    (points : reference.pointsInto table row gone = true) :
    table.key? reference.columns (cleared catalog table gone row) = none := by
  obtain ⟨before, after, split⟩ := List.append_of_mem declared
  have inside : before ⊆ (catalog table).references ∧ after ⊆ (catalog table).references := by
    simp [split]
  -- Earlier clearings may have emptied the same columns, and later ones leave them empty.
  have early := clearing_leaves orderly gone row declared inside.1
  rw [cleared_eq, split, List.foldl_append, List.foldl_cons]
  generalize before.foldl (clearing table gone) row = middle at early ⊢
  have empty : table.key? reference.columns (clearing table gone middle reference) = none := by
    unfold clearing
    split
    · exact orderly.clearEmpties table middle reference declared clears
    · rename_i untouched
      rcases early with same | empty
      · have still : reference.pointsInto table middle gone = true := by
          unfold Reference.pointsInto at points ⊢
          rwa [same]
        exact absurd ⟨clears, still⟩ untouched
      · exact empty
  rcases clearing_leaves orderly gone (clearing table gone middle reference) declared inside.2
    with same | lost
  · exact same.trans empty
  · exact lost

end Clearing

theorem clearIn_all {gone db : Database} {tables : List Table} (nodup : tables.Nodup)
    (other : Table) :
    (tables.foldl (clearIn catalog gone) db).rows other =
      if other ∈ tables then (db.rows other).map (cleared catalog other gone)
      else db.rows other := by
  induction tables generalizing db with
  | nil => simp
  | cons table rest ih =>
      obtain ⟨fresh, nodupRest⟩ := List.nodup_cons.mp nodup
      rw [List.foldl_cons, ih nodupRest]
      by_cases same : other = table
      · subst same
        rw [if_neg fresh, if_pos List.mem_cons_self]
        exact Database.rows_put_self db other _
      · simp only [clearIn, Database.rows_put_of_ne _ same, List.mem_cons, same, false_or]

/-- The chosen rows and all that go along with them, taken out. -/
def complete (catalog : Catalog) (table : Table) (chosen : table.Row → Bool) (db : Database) :
    Deletion :=
  Table.all.foldl (spread catalog) (start table chosen db)

variable (catalog) (chosen : table.Row → Bool) {db : Database}

theorem complete_partition {other : Table} {row : other.Row} (present : row ∈ db.rows other) :
    row ∈ (complete catalog table chosen db).kept.rows other ∨
      row ∈ (complete catalog table chosen db).gone.rows other :=
  spreadAll_partition _ Table.all (start_partition present)

theorem complete_kept_sublist (other : Table) :
    ((complete catalog table chosen db).kept.rows other).Sublist (db.rows other) :=
  (spreadAll_kept_sublist _ Table.all other).trans (start_kept_sublist other)

variable {catalog chosen}

theorem complete_settled (orderly : catalog.Orderly) {other : Table} {row : other.Row}
    {reference : Reference} (declared : reference ∈ (catalog other).references)
    (stays : row ∈ (complete catalog table chosen db).kept.rows other)
    (unhindered : unhindered catalog (complete catalog table chosen db) = true)
    (points : reference.pointsInto other row (complete catalog table chosen db).gone = true) :
    reference.onDelete = .clear := by
  cases kind : reference.onDelete with
  | clear => rfl
  | cascade =>
      have settled := spreadAll_settled _ orderly declared kind stays
      rw [complete] at points
      rw [points] at settled
      cases settled
  | refuse =>
      have each := List.all_eq_true.mp unhindered other (mem_all other)
      have here := List.all_eq_true.mp (List.all_eq_true.mp each row stays) reference declared
      simp [kind, points] at here

end Deletion

open Deletion

variable {catalog : Catalog} {table : Table} {integers : List Int} {chosen : table.Row → Bool}
  {db left : Database}

theorem deleteRows_ok :
    deleteRows catalog table integers chosen db = .ok left ↔
      integers.all fitsWord = true ∧
        unhindered catalog (complete catalog table chosen db) = true ∧
        left = Table.all.foldl (clearIn catalog (complete catalog table chosen db).gone)
          (complete catalog table chosen db).kept := by
  unfold deleteRows
  rw [demand_ok]
  simp only [List.forall_mem_cons, List.not_mem_nil, false_implies, implies_true, and_true]
  constructor
  · rintro ⟨⟨fits, free⟩, rfl⟩
    exact ⟨fits, free, rfl⟩
  · rintro ⟨fits, free, rfl⟩
    exact ⟨⟨fits, free⟩, rfl⟩

/-- What a deletion leaves of each table: the rows that stay, without lost references. -/
theorem deleteRows_rows (done : deleteRows catalog table integers chosen db = .ok left)
    (other : Table) :
    left.rows other = ((complete catalog table chosen db).kept.rows other).map
      (cleared catalog other (complete catalog table chosen db).gone) := by
  obtain ⟨-, -, outcome⟩ := deleteRows_ok.mp done
  rw [outcome, clearIn_all all_nodup, if_pos (mem_all other)]

theorem deleteRows_left (done : deleteRows catalog table integers chosen db = .ok left)
    (other : Table) : ∀ row ∈ left.rows other, ∃ old ∈ db.rows other,
      row = cleared catalog other (complete catalog table chosen db).gone old := by
  intro row member
  rw [deleteRows_rows done] at member
  obtain ⟨old, kept, rfl⟩ := List.mem_map.mp member
  exact ⟨old, (complete_kept_sublist catalog chosen other).subset kept, rfl⟩

theorem deleteRows_spared (done : deleteRows catalog table integers chosen db = .ok left) :
    ∀ row ∈ left.rows table, ∃ old ∈ db.rows table, chosen old = false ∧
      row = cleared catalog table (complete catalog table chosen db).gone old := by
  intro row member
  rw [deleteRows_rows done] at member
  obtain ⟨old, kept, rfl⟩ := List.mem_map.mp member
  have started := (spreadAll_kept_sublist (start table chosen db) Table.all table).subset kept
  simp only [start, Database.rows_put_self, List.mem_filter, Bool.not_eq_true'] at started
  exact ⟨old, started.1, started.2, rfl⟩

theorem distinct_cleared (orderly : catalog.Orderly) {other : Table} {columns : List String}
    {gone : Database} {rows kept : List other.Row}
    (key : columns ∈ (catalog other).primaryKey :: (catalog other).uniques.map Named.columns)
    (distinct : other.Distinct columns rows) (stays : kept.Sublist rows) :
    other.Distinct columns (kept.map (cleared catalog other gone)) := by
  refine List.pairwise_map.mpr ((distinct.sublist stays).imp ?_)
  intro a b apart
  rwa [sameKey_congr (cleared_keeps orderly gone a key) (cleared_keeps orderly gone b key)]

theorem sound_deleteRows (orderly : catalog.Orderly) (sound : db.Sound catalog)
    (done : deleteRows catalog table integers chosen db = .ok left) : left.Sound catalog := by
  obtain ⟨-, free, -⟩ := deleteRows_ok.mp done
  have rows := deleteRows_rows done
  refine ⟨fun other => ?_, fun other named declared => ?_, fun other => ?_⟩
  · rw [rows]
    exact distinct_cleared orderly List.mem_cons_self (sound.primaryKeys other)
      (complete_kept_sublist catalog chosen other)
  · rw [rows]
    exact distinct_cleared orderly (List.mem_cons_of_mem _ (List.mem_map_of_mem declared))
      (sound.uniques other named declared) (complete_kept_sublist catalog chosen other)
  · intro row member reference declared
    rw [rows] at member
    obtain ⟨old, stays, rfl⟩ := List.mem_map.mp member
    have before := (complete_kept_sublist catalog chosen other).subset stays
    rcases cleared_leaves orderly (complete catalog table chosen db).gone old declared
      with same | empty
    -- Where a target is lost the reference has been cleared: had it dragged its row along, the row
    -- would not be here, and had it refused, nothing would have been deleted.
    · rcases sound.references other old before reference declared with blank | points
      · exact Or.inl (by unfold Reference.isEmpty at blank ⊢; rwa [same])
      · obtain ⟨key, named, target, present, matched⟩ := pointsInto_iff.mp points
        rcases complete_partition catalog chosen present with kept | lost
        · have heir : cleared catalog reference.target (complete catalog table chosen db).gone
              target ∈ left.rows reference.target := by
            rw [rows]
            exact List.mem_map_of_mem kept
          have keyed : reference.target.key? reference.targetColumns (cleared catalog
              reference.target (complete catalog table chosen db).gone target) = some key := by
            rw [orderly.rooted other reference declared] at matched ⊢
            exact (cleared_keeps orderly _ target List.mem_cons_self).trans matched
          exact Or.inr (pointsInto_iff.mpr ⟨key, same.trans named, _, heir, keyed⟩)
        · have pointsGone := pointsInto_iff.mpr ⟨key, named, target, lost, matched⟩
          have clears := complete_settled orderly declared stays free pointsGone
          exact Or.inl (by
            unfold Reference.isEmpty
            rw [cleared_empties orderly declared clears pointsGone]
            rfl)
    · exact Or.inl (by unfold Reference.isEmpty; rw [empty]; rfl)

end Guildhall
