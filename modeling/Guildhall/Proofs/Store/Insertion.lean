import Guildhall.Proofs.Store.Removal

/-!
How insertions end once their integers fit: with a conflict where a key is taken, or else with a
missing target where a reference has none, or else with the new row. An insertion that gives way to
a stored row of its key never ends with a conflict.
-/

namespace Guildhall

section Demands

variable {α : Type} {first rest : List Rule} {answer : α}

theorem demand_append_error {other : α} {failure : Failure}
    (failed : demand first other = .error failure) :
    demand (first ++ rest) answer = .error failure := by
  unfold demand at failed ⊢
  rw [List.find?_append]
  cases broken : first.find? (fun rule => !rule.holds) with
  | none =>
      rw [broken] at failed
      cases failed
  | some rule =>
      rw [broken] at failed
      exact failed

theorem demand_broken {rule : Rule} (member : rule ∈ first) (broken : rule.holds = false) :
    ∃ failure, demand first answer = .error failure := by
  cases outcome : demand first answer with
  | error failure => exact ⟨failure, rfl⟩
  | ok result =>
      rw [(demand_ok.mp outcome).1 rule member] at broken
      cases broken

end Demands

section Conditions

variable (catalog : Catalog) (table : Table) (row : table.Row) (db : Database)

/-- A key of the row is the key of a stored row. -/
def Taken : Prop :=
  ∃ columns ∈ (catalog table).primaryKey :: (catalog table).uniques.map Named.columns,
    ∃ other ∈ db.rows table, table.sameKey columns row other = true

/-- A reference of the row is not empty and has no target. -/
def Dangling : Prop :=
  ∃ reference ∈ (catalog table).references, ¬reference.Answered table row db

def Database.with : Database := db.put table (db.rows table ++ [row])

def keyRules : List Rule :=
  (catalog table).uniques.map (fun named => unclaimed table named.columns row (db.rows table)) ++
    [unclaimed table (catalog table).primaryKey row (db.rows table)]

end Conditions

section Insertions

variable {catalog : Catalog} {table : Table} {row : table.Row} {db : Database}

theorem keyRules_broken (taken : Taken catalog table row db) :
    ∃ rule ∈ keyRules catalog table row db, rule.holds = false := by
  obtain ⟨columns, key, other, stored, shared⟩ := taken
  have broken : (unclaimed table columns row (db.rows table)).holds = false := by
    simp only [unclaimed, Bool.not_eq_false', List.any_eq_true]
    exact ⟨other, stored, shared⟩
  rcases List.mem_cons.mp key with rfl | unique
  · exact ⟨_, List.mem_append_right _ List.mem_cons_self, broken⟩
  · obtain ⟨named, declared, rfl⟩ := List.mem_map.mp unique
    exact ⟨_, List.mem_append_left _ (List.mem_map_of_mem declared), broken⟩

/-- A taken key is reported whatever else is wrong. -/
theorem insertRow_taken (fits : (table.cells row).integers.all fitsWord = true)
    (taken : Taken catalog table row db) :
    ∃ columns, insertRow catalog table row db = .error (.store (.duplicate columns)) := by
  let early := fitting (table.cells row).integers :: keyRules catalog table row db
  have split : insertRow catalog table row db =
      demand (early ++ (catalog table).references.map fun reference =>
        targeted reference table row (db.with table row)) (db.with table row) := by
    simp [early, insertRow, rowRules, keyRules, Database.with]
  obtain ⟨rule, member, broken⟩ := keyRules_broken taken
  obtain ⟨failure, failed⟩ : ∃ failure, demand early db = .error failure :=
    demand_broken (List.mem_cons_of_mem _ member) broken
  rw [split, demand_append_error failed]
  obtain ⟨rule, member, broken, rfl⟩ := demand_error failed
  rcases List.mem_cons.mp member with rfl | member
  · rw [fitting, fits] at broken
    cases broken
  · rcases List.mem_append.mp member with unique | primary
    · obtain ⟨named, -, rfl⟩ := List.mem_map.mp unique
      exact ⟨_, rfl⟩
    · obtain rfl := List.mem_singleton.mp primary
      exact ⟨_, rfl⟩

inductive Insertion (catalog : Catalog) (table : Table) (row : table.Row) (db : Database) :
    Except Failure Database → Prop where
  | conflict {columns : String} (taken : Taken catalog table row db) :
      Insertion catalog table row db (.error (.store (.duplicate columns)))
  | noTarget (free : ¬Taken catalog table row db)
      (dangling : Dangling catalog table row (db.with table row)) :
      Insertion catalog table row db (.error (.store .noTarget))
  | added (free : ¬Taken catalog table row db)
      (answered : ¬Dangling catalog table row (db.with table row)) :
      Insertion catalog table row db (.ok (db.with table row))

theorem insertRow_ends (fits : (table.cells row).integers.all fitsWord = true) :
    Insertion catalog table row db (insertRow catalog table row db) := by
  by_cases taken : Taken catalog table row db
  · obtain ⟨columns, failed⟩ := insertRow_taken fits taken
    rw [failed]
    exact .conflict taken
  · cases outcome : insertRow catalog table row db with
    | ok left =>
        obtain ⟨-, rfl, admissible⟩ := insertRow_ok.mp outcome
        refine .added taken ?_
        rintro ⟨reference, declared, unanswered⟩
        exact unanswered (admissible.references reference declared)
    | error failure =>
        cases insertRow_error outcome with
        | large large =>
            rw [fits] at large
            cases large
        | taken key stored shared => exact absurd ⟨_, key, _, stored, shared⟩ taken
        | missing declared unanswered => exact .noTarget taken ⟨_, declared, unanswered⟩

end Insertions

/-- The outcome is a missing target where there is one, and else a success. -/
def Settles (missing : Prop) (outcome : Except Failure Database) : Prop :=
  (missing ∧ outcome = .error (.store .noTarget)) ∨ (¬missing ∧ ∃ left, outcome = .ok left)

structure Catalog.Plain (catalog : Catalog) (table : Table) : Prop where
  uniques : (catalog table).uniques = []
  elsewhere : ∀ reference ∈ (catalog table).references, reference.target ≠ table

theorem dangling_congr {catalog : Catalog} {table : Table} {row new : table.Row}
    {db left : Database} (elsewhere : ∀ reference ∈ (catalog table).references,
      reference.target ≠ table)
    (keys : ∀ reference ∈ (catalog table).references,
      table.key? reference.columns new = table.key? reference.columns row)
    (others : ∀ other, other ≠ table → left.rows other = db.rows other) :
    Dangling catalog table new left ↔ Dangling catalog table row db := by
  refine exists_congr fun reference => and_congr_right fun declared => not_congr ?_
  unfold Reference.Answered Reference.isEmpty Reference.pointsInto
  rw [keys reference declared, others reference.target (elsewhere reference declared)]

section Replacements

variable {table : Table} {row : table.Row} {db : Database}

theorem holdsKeyOf_iff : holdsKeyOf Catalog.declared table row db = true ↔
    ∃ other ∈ db.rows table, table.identity row = table.identity other := by
  simp only [holdsKeyOf, List.any_eq_true, sameKey_identity]

theorem settles_insertRow (plain : Catalog.declared.Plain table)
    (fits : (table.cells row).integers.all fitsWord = true)
    (fresh : holdsKeyOf Catalog.declared table row db = false) :
    Settles (Dangling Catalog.declared table row db)
      (insertRow Catalog.declared table row db) := by
  have free : ¬Taken Catalog.declared table row db := by
    rintro ⟨columns, key, other, stored, shared⟩
    rw [plain.uniques, List.map_nil, List.mem_singleton] at key
    subst key
    have held := holdsKeyOf_iff.mpr ⟨other, stored, sameKey_identity.mp shared⟩
    rw [fresh] at held
    cases held
  have lacks : Dangling Catalog.declared table row (db.with table row) ↔
      Dangling Catalog.declared table row db :=
    dangling_congr plain.elsewhere (fun _ _ => rfl)
      fun other apart => Database.rows_put_of_ne db apart _
  have ends : Insertion Catalog.declared table row db
      (insertRow Catalog.declared table row db) := insertRow_ends fits
  generalize insertRow Catalog.declared table row db = outcome at ends
  cases ends with
  | conflict taken => exact absurd taken free
  | noTarget _ dangling => exact Or.inl ⟨lacks.mp dangling, rfl⟩
  | added _ answered => exact Or.inr ⟨fun lost => answered (lacks.mpr lost), _, rfl⟩

theorem settles_ensureRow (plain : Catalog.declared.Plain table)
    (fits : (table.cells row).integers.all fitsWord = true)
    (settled : ∀ other ∈ db.rows table, table.identity row = table.identity other →
      ¬Dangling Catalog.declared table row db) :
    Settles (Dangling Catalog.declared table row db)
      (ensureRow Catalog.declared table row db) := by
  unfold ensureRow
  by_cases held : holdsKeyOf Catalog.declared table row db = true
  · rw [if_pos held]
    obtain ⟨other, stored, same⟩ := holdsKeyOf_iff.mp held
    refine Or.inr ⟨settled other stored same, db, demand_ok.mpr ⟨?_, rfl⟩⟩
    simpa [fitting] using fits
  · rw [if_neg held]
    exact settles_insertRow plain fits (Bool.of_not_eq_true held)

/-- How a change of the row with a given identity ends, where it keeps the identity: the new row
lacks a target, or it goes in. No other row has its key. -/
theorem changeRows_ends {integers : List Int} {chosen : table.Row → Bool}
    {change : table.Row → table.Row} {identity : List Cell} (plain : Catalog.declared.Plain table)
    (fits : integers.all fitsWord = true)
    (picks : ∀ row, chosen row = true ↔ table.identity row = identity)
    (steady : ∀ old, chosen old = true → table.identity (change old) = table.identity old) :
    ((∃ old ∈ db.rows table, chosen old = true ∧
        Dangling Catalog.declared table (change old) db) ∧
      changeRows Catalog.declared table integers chosen change db = .error (.store .noTarget)) ∨
    ((∀ old ∈ db.rows table, chosen old = true →
        ¬Dangling Catalog.declared table (change old) db) ∧
      changeRows Catalog.declared table integers chosen change db =
        .ok (db.put table (changedRows table chosen change db))) := by
  have lacks : ∀ row : table.Row,
      Dangling Catalog.declared table row (db.put table (changedRows table chosen change db)) ↔
        Dangling Catalog.declared table row db := fun row =>
    dangling_congr plain.elsewhere (fun _ _ => rfl)
      fun other apart => Database.rows_put_of_ne db apart _
  cases outcome : changeRows Catalog.declared table integers chosen change db with
  | ok left =>
      obtain ⟨-, rfl, admissible⟩ := changeRows_ok.mp outcome
      refine Or.inr ⟨fun old stored picked lost => ?_, rfl⟩
      obtain ⟨reference, declared, unanswered⟩ := (lacks _).mpr lost
      exact unanswered ((admissible old stored picked).references reference declared)
  | error failure =>
      obtain ⟨rule, member, broken, rfl⟩ := demand_error outcome
      rcases List.mem_cons.mp member with rfl | member
      · rw [fitting, fits] at broken
        cases broken
      obtain ⟨old, among, member⟩ := List.mem_flatMap.mp member
      obtain ⟨stored, picked⟩ := List.mem_filter.mp among
      -- A key that is taken would be that of another row with the identity, which is chosen too.
      rcases rowRules_broken member broken with
        ⟨columns, key, ⟨other, stays, shared⟩, -⟩ | ⟨reference, declared, unanswered, noTarget⟩
      · rw [plain.uniques, List.map_nil, List.mem_singleton] at key
        subst key
        have alike := (steady old picked).symm.trans (sameKey_identity.mp shared)
        have chosenToo : chosen other = true :=
          (picks other).mpr (alike.symm.trans ((picks old).mp picked))
        simp [chosenToo] at stays
      · rw [noTarget]
        exact Or.inl ⟨⟨old, stored, picked, (lacks _).mp ⟨reference, declared, unanswered⟩⟩, rfl⟩

theorem settles_putRow {change : table.Row → table.Row} (plain : Catalog.declared.Plain table)
    (fits : (table.cells row).integers.all fitsWord = true)
    (steady : ∀ old, table.identity row = table.identity old →
      table.identity (change old) = table.identity old)
    (keys : ∀ old, table.identity row = table.identity old →
      ∀ reference ∈ (Catalog.declared table).references,
        table.key? reference.columns (change old) = table.key? reference.columns row) :
    Settles (Dangling Catalog.declared table row db)
      (putRow Catalog.declared table row change db) := by
  unfold putRow
  by_cases held : holdsKeyOf Catalog.declared table row db = true
  · rw [if_pos held]
    have lacks : ∀ old, table.identity row = table.identity old →
        (Dangling Catalog.declared table (change old) db ↔
          Dangling Catalog.declared table row db) := fun old same =>
      dangling_congr plain.elsewhere (keys old same) fun _ _ => rfl
    have picks : ∀ other, table.sameKey (Catalog.declared table).primaryKey row other = true ↔
        table.identity other = table.identity row := fun other =>
      sameKey_identity.trans eq_comm
    have same : ∀ old, table.sameKey (Catalog.declared table).primaryKey row old = true →
        table.identity (change old) = table.identity old := fun old picked =>
      steady old ((picks old).mp picked).symm
    rcases @changeRows_ends table db _ _ change _ plain fits picks same with
      ⟨⟨old, -, picked, lost⟩, failed⟩ | ⟨full, done⟩
    · exact Or.inl ⟨(lacks old ((picks old).mp picked).symm).mp lost, failed⟩
    · obtain ⟨old, stored, same⟩ := holdsKeyOf_iff.mp held
      exact Or.inr ⟨mt (lacks old same).mpr (full old stored ((picks old).mpr same.symm)), _, done⟩
  · rw [if_neg held]
    exact settles_insertRow plain fits (Bool.of_not_eq_true held)

end Replacements

end Guildhall
