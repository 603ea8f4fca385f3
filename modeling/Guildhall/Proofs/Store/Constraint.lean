import Guildhall.Store.Statement

/-!
The constraints of a catalog as one predicate on the tables, and the statements that put rows in or
change them in place: what passes their rules keeps the predicate.
-/

namespace Guildhall

/-- No two rows have the same key in the columns. -/
def Table.Distinct (table : Table) (columns : List String) (rows : List table.Row) : Prop :=
  rows.Pairwise fun a b => table.sameKey columns a b = false

/-- The reference is empty in the row, or its target is there. -/
def Reference.Answered (reference : Reference) (table : Table) (row : table.Row)
    (db : Database) : Prop :=
  reference.isEmpty table row = true ∨ reference.pointsInto table row db = true

structure Database.Sound (catalog : Catalog) (db : Database) : Prop where
  primaryKeys : ∀ table : Table, table.Distinct (catalog table).primaryKey (db.rows table)
  uniques : ∀ table : Table, ∀ named ∈ (catalog table).uniques,
    table.Distinct named.columns (db.rows table)
  references : ∀ table : Table, ∀ row ∈ db.rows table,
    ∀ reference ∈ (catalog table).references, reference.Answered table row db

def Catalog.Rooted (catalog : Catalog) : Prop :=
  ∀ table, ∀ reference ∈ (catalog table).references,
    reference.targetColumns = (catalog reference.target).primaryKey

variable {catalog : Catalog} {table : Table}

theorem demand_ok {α : Type} {rules : List Rule} {answer result : α} :
    demand rules answer = .ok result ↔
      (∀ rule ∈ rules, rule.holds = true) ∧ answer = result := by
  unfold demand
  cases broken : rules.find? (fun rule => !rule.holds) with
  | none =>
      have holding := List.find?_eq_none.mp broken
      simp only [Except.ok.injEq]
      constructor
      · intro same
        exact ⟨fun rule member => by simpa using holding rule member, same⟩
      · exact And.right
  | some rule =>
      have member := List.mem_of_find?_eq_some broken
      have fails := List.find?_some broken
      constructor
      · intro impossible
        cases impossible
      · intro holding
        simp [holding.1 rule member] at fails

theorem demand_error {α : Type} {rules : List Rule} {answer : α} {failure : Failure}
    (failed : demand rules answer = .error failure) :
    ∃ rule ∈ rules, rule.holds = false ∧ rule.failure = failure := by
  unfold demand at failed
  cases broken : rules.find? (fun rule => !rule.holds) with
  | none =>
      rw [broken] at failed
      cases failed
  | some rule =>
      rw [broken] at failed
      have fails := List.find?_some broken
      exact ⟨rule, List.mem_of_find?_eq_some broken, by simpa using fails,
        Except.error.inj failed⟩

theorem sameKey_iff {columns : List String} {a b : table.Row} :
    table.sameKey columns a b = true ↔
      ∃ key, table.key? columns a = some key ∧ table.key? columns b = some key := by
  unfold Table.sameKey
  cases table.key? columns a with
  | none => simp
  | some key => simp

theorem sameKey_comm {columns : List String} {a b : table.Row} :
    table.sameKey columns a b = table.sameKey columns b a := by
  rw [Bool.eq_iff_iff, sameKey_iff, sameKey_iff]
  exact exists_congr fun key => And.comm

theorem sameKey_congr {columns : List String} {a b c d : table.Row}
    (first : table.key? columns a = table.key? columns c)
    (second : table.key? columns b = table.key? columns d) :
    table.sameKey columns a b = table.sameKey columns c d := by
  unfold Table.sameKey
  rw [first, second]

theorem sameKey_named (table : Table) {columns : List String} (cells : table.Row → List Cell)
    (named : ∀ row, table.key? columns row = some (cells row)) {a b : table.Row} :
    table.sameKey columns a b = true ↔ cells a = cells b := by
  simp only [sameKey_iff, named, Option.some.injEq]
  constructor
  · rintro ⟨key, rfl, same⟩
    exact same.symm
  · intro same
    exact ⟨_, rfl, same.symm⟩

theorem pointsInto_iff {reference : Reference} {row : table.Row} {db : Database} :
    reference.pointsInto table row db = true ↔
      ∃ key, table.key? reference.columns row = some key ∧
        ∃ other ∈ db.rows reference.target,
          reference.target.key? reference.targetColumns other = some key := by
  unfold Reference.pointsInto
  cases table.key? reference.columns row with
  | none => simp
  | some key => simp [List.any_eq_true]

theorem answered_of_keys {reference : Reference} {row : table.Row} {db left : Database}
    (answered : reference.Answered table row db)
    (remain : ∀ other ∈ db.rows reference.target, ∃ heir ∈ left.rows reference.target,
      reference.target.key? reference.targetColumns heir =
        reference.target.key? reference.targetColumns other) :
    reference.Answered table row left := by
  rcases answered with empty | points
  · exact Or.inl empty
  · obtain ⟨key, named, other, member, matched⟩ := pointsInto_iff.mp points
    obtain ⟨heir, present, same⟩ := remain other member
    exact Or.inr (pointsInto_iff.mpr ⟨key, named, heir, present, same.trans matched⟩)

/-- What the rules demand of a row beside the others, where `db` is the outcome. -/
structure Admissible (catalog : Catalog) (table : Table) (row : table.Row)
    (others : List table.Row) (db : Database) : Prop where
  uniques : ∀ named ∈ (catalog table).uniques, ∀ other ∈ others,
    table.sameKey named.columns row other = false
  primaryKey : ∀ other ∈ others, table.sameKey (catalog table).primaryKey row other = false
  references : ∀ reference ∈ (catalog table).references, reference.Answered table row db

theorem rowRules_hold {row : table.Row} {others : List table.Row} {db : Database} :
    (∀ rule ∈ rowRules catalog table row others db, rule.holds = true) ↔
      Admissible catalog table row others db := by
  simp only [rowRules, List.mem_append, List.mem_cons, List.mem_map]
  constructor
  · intro holding
    refine ⟨fun named member other present => ?_, fun other present => ?_,
      fun reference member => ?_⟩
    · have free := holding _ (Or.inl ⟨named, member, rfl⟩)
      simpa using List.any_eq_false.mp (by simpa [unclaimed] using free) other present
    · have free := holding _ (Or.inr (Or.inl rfl))
      simpa using List.any_eq_false.mp (by simpa [unclaimed] using free) other present
    · have kept := holding _ (Or.inr (Or.inr ⟨reference, member, rfl⟩))
      simpa [targeted, Reference.Answered] using kept
  · rintro admissible rule (⟨named, member, rfl⟩ | rfl | ⟨reference, member, rfl⟩)
    · simpa [unclaimed] using admissible.uniques named member
    · simpa [unclaimed] using admissible.primaryKey
    · simpa [targeted, Reference.Answered] using admissible.references reference member

theorem rowRules_broken {row : table.Row} {others : List table.Row} {db : Database} {rule : Rule}
    (member : rule ∈ rowRules catalog table row others db) (broken : rule.holds = false) :
    (∃ columns ∈ (catalog table).primaryKey :: (catalog table).uniques.map Named.columns,
      (∃ other ∈ others, table.sameKey columns row other = true) ∧
        rule.failure = .store (.duplicate (table.columnsText columns))) ∨
    ∃ reference ∈ (catalog table).references,
      ¬reference.Answered table row db ∧ rule.failure = .store .noTarget := by
  simp only [rowRules, List.mem_append, List.mem_cons, List.mem_map] at member
  have shared : ∀ columns, (unclaimed table columns row others).holds = false →
      ∃ other ∈ others, table.sameKey columns row other = true := by
    intro columns broken
    simpa only [unclaimed, Bool.not_eq_false', List.any_eq_true] using broken
  rcases member with ⟨named, declared, rfl⟩ | rfl | ⟨reference, declared, rfl⟩
  · exact Or.inl ⟨named.columns, List.mem_cons_of_mem _ (List.mem_map_of_mem declared),
      shared _ broken, rfl⟩
  · exact Or.inl ⟨_, List.mem_cons_self, shared _ broken, rfl⟩
  · refine Or.inr ⟨reference, declared, fun answered => ?_, rfl⟩
    simp only [targeted, Bool.or_eq_false_iff] at broken
    rcases answered with empty | points
    · rw [empty] at broken
      cases broken.1
    · rw [points] at broken
      cases broken.2

theorem insertRow_ok {row : table.Row} {db left : Database} :
    insertRow catalog table row db = .ok left ↔
      (table.cells row).integers.all fitsWord = true ∧
        left = db.put table (db.rows table ++ [row]) ∧
        Admissible catalog table row (db.rows table) left := by
  unfold insertRow
  rw [demand_ok, List.forall_mem_cons, rowRules_hold]
  constructor
  · rintro ⟨⟨fits, admissible⟩, rfl⟩
    exact ⟨fits, rfl, admissible⟩
  · rintro ⟨fits, rfl, admissible⟩
    exact ⟨⟨fits, admissible⟩, rfl⟩

inductive Refused (catalog : Catalog) (table : Table) (row : table.Row) (db : Database) :
    Failure → Prop where
  | large (large : (table.cells row).integers.all fitsWord = false) :
      Refused catalog table row db .tooLarge
  | taken {columns : List String} {other : table.Row}
      (key : columns ∈ (catalog table).primaryKey :: (catalog table).uniques.map Named.columns)
      (stored : other ∈ db.rows table) (shared : table.sameKey columns row other = true) :
      Refused catalog table row db (.store (.duplicate (table.columnsText columns)))
  | missing {reference : Reference} (declared : reference ∈ (catalog table).references)
      (unanswered : ¬reference.Answered table row (db.put table (db.rows table ++ [row]))) :
      Refused catalog table row db (.store .noTarget)

theorem insertRow_error {row : table.Row} {db : Database} {failure : Failure}
    (failed : insertRow catalog table row db = .error failure) :
    Refused catalog table row db failure := by
  obtain ⟨rule, member, broken, rfl⟩ := demand_error failed
  rcases List.mem_cons.mp member with rfl | member
  · exact .large broken
  · rcases rowRules_broken member broken with
      ⟨columns, key, ⟨other, stored, shared⟩, same⟩ | ⟨reference, declared, unanswered, same⟩
    · exact same ▸ .taken key stored shared
    · exact same ▸ .missing declared unanswered

def changedRows (table : Table) (chosen : table.Row → Bool) (change : table.Row → table.Row)
    (db : Database) : List table.Row :=
  (db.rows table).map fun row => if chosen row then change row else row

theorem changeRows_ok {integers : List Int} {chosen : table.Row → Bool}
    {change : table.Row → table.Row} {db left : Database} :
    changeRows catalog table integers chosen change db = .ok left ↔
      integers.all fitsWord = true ∧ left = db.put table (changedRows table chosen change db) ∧
        ∀ row ∈ db.rows table, chosen row = true →
          Admissible catalog table (change row)
            ((db.rows table).filter fun row => !chosen row) left := by
  unfold changeRows
  simp only [demand_ok, List.forall_mem_cons, List.forall_mem_flatMap, List.mem_filter,
    rowRules_hold]
  constructor
  · rintro ⟨⟨fits, admissible⟩, rfl⟩
    exact ⟨fits, rfl, fun row member picked => admissible row ⟨member, picked⟩⟩
  · rintro ⟨fits, rfl, admissible⟩
    exact ⟨⟨fits, fun row member => admissible row member.1 member.2⟩, rfl⟩

theorem putRow_ok {row : table.Row} {change : table.Row → table.Row} {db left : Database}
    (done : putRow catalog table row change db = .ok left) :
    insertRow catalog table row db = .ok left ∨
      changeRows catalog table (table.cells row).integers
        (table.sameKey (catalog table).primaryKey row) change db = .ok left := by
  unfold putRow at done
  split at done
  · exact Or.inr done
  · exact Or.inl done

theorem ensureRow_ok {row : table.Row} {db left : Database}
    (done : ensureRow catalog table row db = .ok left) :
    insertRow catalog table row db = .ok left ∨
      holdsKeyOf catalog table row db = true ∧ left = db := by
  unfold ensureRow at done
  split at done
  · exact Or.inr ⟨by assumption, (demand_ok.mp done).2.symm⟩
  · exact Or.inl done

theorem rows_put (db : Database) (table other : Table) (new : List table.Row)
    (P : (table : Table) → List table.Row → Prop) (own : P table new)
    (apart : ∀ other, other ≠ table → P other (db.rows other)) :
    P other ((db.put table new).rows other) := by
  by_cases same : other = table
  · subst same
    rwa [Database.rows_put_self]
  · rw [Database.rows_put_of_ne db same]
    exact apart other same

theorem distinct_append {columns : List String} {rows : List table.Row} {row : table.Row}
    (distinct : table.Distinct columns rows)
    (fresh : ∀ other ∈ rows, table.sameKey columns row other = false) :
    table.Distinct columns (rows ++ [row]) := by
  refine List.pairwise_append.mpr ⟨distinct, List.pairwise_singleton _ _, ?_⟩
  intro other member last isLast
  obtain rfl := List.mem_singleton.mp isLast
  rw [sameKey_comm]
  exact fresh other member

theorem sound_empty : Database.empty.Sound catalog where
  primaryKeys table := by cases table <;> exact List.Pairwise.nil
  uniques table _ _ := by cases table <;> exact List.Pairwise.nil
  references table row member := by cases table <;> cases member

theorem sound_insertRow {row : table.Row} {db left : Database} (sound : db.Sound catalog)
    (done : insertRow catalog table row db = .ok left) : left.Sound catalog := by
  obtain ⟨-, outcome, admissible⟩ := insertRow_ok.mp done
  have grown : ∀ (other : Table), ∀ old ∈ db.rows other, old ∈ left.rows other := by
    intro other
    rw [outcome]
    refine rows_put db table other _ (fun other new => ∀ old ∈ db.rows other, old ∈ new) ?_ ?_
    · exact fun old member => List.mem_append_left _ member
    · exact fun other _ old member => member
  have stay : ∀ (other : Table) (old : other.Row), ∀ reference : Reference,
      reference.Answered other old db → reference.Answered other old left := by
    intro other old reference answered
    exact answered_of_keys answered fun target member => ⟨target, grown _ target member, rfl⟩
  refine ⟨fun other => ?_, fun other => ?_, fun other => ?_⟩
  · rw [outcome]
    refine rows_put db table other _ (fun other new =>
      other.Distinct (catalog other).primaryKey new) ?_ fun other _ => sound.primaryKeys other
    exact distinct_append (sound.primaryKeys table) admissible.primaryKey
  · rw [outcome]
    refine rows_put db table other _ (fun other new => ∀ named ∈ (catalog other).uniques,
      other.Distinct named.columns new) ?_ fun other _ => sound.uniques other
    exact fun named member =>
      distinct_append (sound.uniques table named member) (admissible.uniques named member)
  · have each := rows_put db table other (db.rows table ++ [row]) (fun other new =>
      ∀ old ∈ new, ∀ reference ∈ (catalog other).references, reference.Answered other old left)
    rw [← outcome] at each
    apply each
    · intro old member reference declared
      rcases List.mem_append.mp member with before | last
      · exact stay table old reference (sound.references table old before reference declared)
      · obtain rfl := List.mem_singleton.mp last
        exact admissible.references reference declared
    · intro other _ old member reference declared
      exact stay other old reference (sound.references other old member reference declared)

/-- A change of one row, beside which the keys of all others are free, leaves keys distinct. -/
theorem distinct_changedRows {columns primaryKey : List String} {chosen : table.Row → Bool}
    {change : table.Row → table.Row} {db : Database}
    (identified : table.Distinct primaryKey (db.rows table))
    (distinct : table.Distinct columns (db.rows table))
    (alone : ∀ a b, chosen a = true → chosen b = true → table.sameKey primaryKey a b = true)
    (free : ∀ row ∈ db.rows table, chosen row = true →
      ∀ other ∈ (db.rows table).filter (fun row => !chosen row),
        table.sameKey columns (change row) other = false) :
    table.Distinct columns (changedRows table chosen change db) := by
  refine List.pairwise_map.mpr ((identified.and distinct).imp_of_mem ?_)
  intro a b first second apart
  have kept : ∀ row ∈ db.rows table, chosen row ≠ true →
      row ∈ (db.rows table).filter fun row => !chosen row := by
    intro row member spared
    exact List.mem_filter.mpr ⟨member, by simpa using spared⟩
  by_cases pickedFirst : chosen a = true <;> by_cases pickedSecond : chosen b = true
  · rw [alone a b pickedFirst pickedSecond] at apart
    cases apart.1
  · rw [if_pos pickedFirst, if_neg pickedSecond]
    exact free a first pickedFirst b (kept b second pickedSecond)
  · rw [if_neg pickedFirst, if_pos pickedSecond, sameKey_comm]
    exact free b second pickedSecond a (kept a first pickedFirst)
  · rw [if_neg pickedFirst, if_neg pickedSecond]
    exact apart.2

theorem sound_changeRows {integers : List Int} {chosen : table.Row → Bool}
    {change : table.Row → table.Row} {db left : Database} (rooted : catalog.Rooted)
    (sound : db.Sound catalog)
    (alone : ∀ a b, chosen a = true → chosen b = true →
      table.sameKey (catalog table).primaryKey a b = true)
    (steady : ∀ row, chosen row = true → table.key? (catalog table).primaryKey (change row) =
      table.key? (catalog table).primaryKey row)
    (done : changeRows catalog table integers chosen change db = .ok left) :
    left.Sound catalog := by
  obtain ⟨-, outcome, admissible⟩ := changeRows_ok.mp done
  have heirs : ∀ (other : Table), ∀ old ∈ db.rows other, ∃ heir ∈ left.rows other,
      other.key? (catalog other).primaryKey heir = other.key? (catalog other).primaryKey old := by
    intro other
    rw [outcome]
    refine rows_put db table other _ (fun other new => ∀ old ∈ db.rows other, ∃ heir ∈ new,
      other.key? (catalog other).primaryKey heir = other.key? (catalog other).primaryKey old)
      ?_ fun other _ old member => ⟨old, member, rfl⟩
    intro old member
    refine ⟨_, List.mem_map_of_mem member, ?_⟩
    by_cases picked : chosen old = true
    · rw [if_pos picked]
      exact steady old picked
    · rw [if_neg picked]
  -- References name primary keys, which the change keeps, so none of them loses its target.
  have stay : ∀ (other : Table) (old : other.Row), ∀ reference ∈ (catalog other).references,
      reference.Answered other old db → reference.Answered other old left := by
    intro other old reference declared answered
    refine answered_of_keys answered ?_
    rw [rooted other reference declared]
    exact heirs reference.target
  refine ⟨fun other => ?_, fun other => ?_, fun other => ?_⟩
  · rw [outcome]
    refine rows_put db table other _ (fun other new =>
      other.Distinct (catalog other).primaryKey new) ?_ fun other _ => sound.primaryKeys other
    exact distinct_changedRows (sound.primaryKeys table) (sound.primaryKeys table) alone
      fun row member picked => (admissible row member picked).primaryKey
  · rw [outcome]
    refine rows_put db table other _ (fun other new => ∀ named ∈ (catalog other).uniques,
      other.Distinct named.columns new) ?_ fun other _ => sound.uniques other
    exact fun named declared => distinct_changedRows (sound.primaryKeys table)
      (sound.uniques table named declared) alone
      fun row member picked => (admissible row member picked).uniques named declared
  · have each := rows_put db table other (changedRows table chosen change db) (fun other new =>
      ∀ old ∈ new, ∀ reference ∈ (catalog other).references, reference.Answered other old left)
    rw [← outcome] at each
    apply each
    · intro row member reference declared
      obtain ⟨old, before, rfl⟩ := List.mem_map.mp member
      by_cases picked : chosen old = true
      · rw [if_pos picked]
        exact (admissible old before picked).references reference declared
      · rw [if_neg picked]
        exact stay table old reference declared
          (sound.references table old before reference declared)
    · intro other _ old member reference declared
      exact stay other old reference declared
        (sound.references other old member reference declared)

end Guildhall
