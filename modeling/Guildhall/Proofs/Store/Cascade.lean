import Guildhall.Proofs.Store.Consistency

/-!
What a deletion takes along: exactly the least set of rows that has the named row and is closed
under cascading references. All other rows stay, and of these only channels and direct channels
change, where they lose the parent or the owner.
-/

namespace Guildhall

def Reference.Names (reference : Reference) (table : Table) (row : table.Row)
    (other : reference.target.Row) : Prop :=
  ∃ key, table.key? reference.columns row = some key ∧
    reference.target.key? reference.targetColumns other = some key

/-- The least set of stored rows that has the chosen ones and all that refer to one of the set by a
cascading reference. -/
inductive Falls (catalog : Catalog) (db : Database) (table : Table) (chosen : table.Row → Bool) :
    (other : Table) → other.Row → Prop where
  | chosen {row : table.Row} (stored : row ∈ db.rows table) (picked : chosen row = true) :
      Falls catalog db table chosen table row
  | dragged {other : Table} {row : other.Row} {reference : Reference}
      {target : reference.target.Row} (stored : row ∈ db.rows other)
      (declared : reference ∈ (catalog other).references) (cascades : reference.onDelete = .cascade)
      (names : reference.Names other row target)
      (falls : Falls catalog db table chosen reference.target target) :
      Falls catalog db table chosen other row

theorem pointsInto_names {reference : Reference} {table : Table} {row : table.Row}
    {db : Database} : reference.pointsInto table row db = true ↔
      ∃ target ∈ db.rows reference.target, reference.Names table row target := by
  rw [pointsInto_iff]
  constructor
  · rintro ⟨key, named, target, present, matched⟩
    exact ⟨target, present, key, named, matched⟩
  · rintro ⟨target, present, key, named, matched⟩
    exact ⟨key, named, target, present, matched⟩

namespace Deletion

variable {catalog : Catalog} {table : Table} {chosen : table.Row → Bool} {db : Database}

/-- A deletion under way: of every table some rows stay where they were, and the others are gone. -/
def Splits (db : Database) (deletion : Deletion) : Prop :=
  ∀ other : Table, ∃ stays : other.Row → Bool,
    deletion.kept.rows other = (db.rows other).filter stays ∧
      ∀ row, row ∈ deletion.gone.rows other ↔ row ∈ db.rows other ∧ stays row = false

theorem rows_empty (table : Table) : Database.empty.rows table = [] := by
  cases table <;> rfl

theorem splits_start : Splits db (start table chosen db) := by
  intro other
  by_cases same : other = table
  · subst same
    refine ⟨fun row => !chosen row, by simp [start], fun row => ?_⟩
    simp [start]
  · refine ⟨fun _ => true, ?_, fun row => ?_⟩
    · simp [start, Database.rows_put_of_ne _ same]
    · simp [start, Database.rows_put_of_ne _ same, rows_empty]

theorem splits_spread {deletion : Deletion} (splits : Splits db deletion) :
    Splits db (spread catalog deletion table) := by
  intro other
  obtain ⟨stays, kept, gone⟩ := splits other
  by_cases same : other = table
  · subst same
    refine ⟨fun row => stays row && !drags catalog other deletion.gone row, ?_, fun row => ?_⟩
    · rw [spread_kept_self, kept, List.filter_filter]
      exact List.filter_congr fun row _ => Bool.and_comm _ _
    · rw [spread_gone_self, List.mem_append, gone, List.mem_filter, kept, List.mem_filter]
      simp only [Bool.and_eq_false_iff, Bool.not_eq_false']
      by_cases before : stays row = true <;> simp [before]
  · refine ⟨stays, ?_, fun row => ?_⟩
    · rw [(spread_of_ne deletion same).1, kept]
    · rw [(spread_of_ne deletion same).2, gone]

theorem splits_complete : Splits db (complete catalog table chosen db) :=
  List.foldlRecOn Table.all _ splits_start fun _ splits _ _ => splits_spread splits

/-- Whatever a pass takes is in the least set. -/
theorem falls_spread {deletion : Deletion} {next : Table} (splits : Splits db deletion)
    (sofar : ∀ (other : Table), ∀ row ∈ deletion.gone.rows other,
      Falls catalog db table chosen other row) :
    ∀ (other : Table), ∀ row ∈ (spread catalog deletion next).gone.rows other,
      Falls catalog db table chosen other row := by
  intro other row member
  by_cases same : other = next
  · subst same
    rw [spread_gone_self, List.mem_append, List.mem_filter] at member
    rcases member with before | ⟨kept, drags⟩
    · exact sofar other row before
    · obtain ⟨reference, declared, points⟩ := List.any_eq_true.mp drags
      simp only [Bool.and_eq_true, decide_eq_true_eq] at points
      obtain ⟨target, gone, names⟩ := pointsInto_names.mp points.2
      obtain ⟨stays, same, -⟩ := splits other
      have stored : row ∈ db.rows other := (List.mem_filter.mp (same ▸ kept)).1
      exact .dragged stored declared points.1 names (sofar reference.target target gone)
  · rw [(spread_of_ne deletion same).2] at member
    exact sofar other row member

theorem falls_of_gone {other : Table} {row : other.Row}
    (gone : row ∈ (complete catalog table chosen db).gone.rows other) :
    Falls catalog db table chosen other row := by
  have start : ∀ (other : Table), ∀ row ∈ (start table chosen db).gone.rows other,
      Falls catalog db table chosen other row := by
    intro other row member
    by_cases same : other = table
    · subst same
      simp only [Deletion.start, Database.rows_put_self, List.mem_filter] at member
      exact .chosen member.1 member.2
    · simp only [Deletion.start, Database.rows_put_of_ne _ same, rows_empty] at member
      cases member
  have both := List.foldlRecOn (motive := fun deletion => Splits db deletion ∧
      ∀ (other : Table), ∀ row ∈ deletion.gone.rows other, Falls catalog db table chosen other row)
    Table.all (spread catalog) ⟨splits_start, start⟩
    fun deletion sofar next _ => ⟨splits_spread sofar.1, falls_spread sofar.1 sofar.2⟩
  exact both.2 other row gone

/-- A pass over the tables takes all of the least set: it comes to a table after the targets of its
cascading references. -/
theorem gone_of_falls (orderly : catalog.Orderly) {other : Table} {row : other.Row}
    (falls : Falls catalog db table chosen other row) :
    row ∈ (complete catalog table chosen db).gone.rows other := by
  -- By the way a row comes to fall: whatever is not gone has been kept, and nothing that is kept
  -- points into what is gone.
  induction falls with
  | @chosen row stored picked =>
      refine (complete_partition catalog chosen stored).resolve_left fun kept => ?_
      have started := (spreadAll_kept_sublist (start table chosen db) Table.all table).subset kept
      simp [start, picked] at started
  | @dragged other row reference target stored declared cascades names falls gone =>
      refine (complete_partition catalog chosen stored).resolve_left fun kept => ?_
      have settled := spreadAll_settled _ orderly declared cascades kept
      have points := pointsInto_names.mpr ⟨target, gone, names⟩
      rw [complete] at points
      rw [points] at settled
      cases settled

theorem gone_iff_falls (orderly : catalog.Orderly) (other : Table) (row : other.Row) :
    row ∈ (complete catalog table chosen db).gone.rows other ↔
      Falls catalog db table chosen other row :=
  ⟨falls_of_gone, gone_of_falls orderly⟩

open scoped Classical in
theorem kept_eq_filter (orderly : catalog.Orderly) (other : Table) :
    (complete catalog table chosen db).kept.rows other =
      (db.rows other).filter fun row => ¬Falls catalog db table chosen other row := by
  have splits : Splits db (complete catalog table chosen db) := splits_complete
  obtain ⟨stays, kept, gone⟩ := splits other
  rw [kept]
  refine List.filter_congr fun row stored => ?_
  have taken := (gone row).symm.trans (gone_iff_falls orderly other row)
  by_cases falls : Falls catalog db table chosen other row
  · simp [falls, (taken.mpr falls).2]
  · have stay : stays row = true :=
      Bool.of_not_eq_false fun leaves => falls (taken.mp ⟨stored, leaves⟩)
    simp [falls, stay]

end Deletion

section Roots

variable {catalog : Catalog} {table : Table} {chosen : table.Row → Bool} {db : Database}

theorem falls_root {other : Table} {row : other.Row}
    (rootless : ∀ reference ∈ (catalog other).references, reference.onDelete ≠ .cascade)
    (falls : Falls catalog db table chosen other row) : other = table := by
  cases falls with
  | chosen => rfl
  | dragged stored declared cascades => exact absurd cascades (rootless _ declared)

theorem falls_chosen {row : table.Row}
    (rootless : ∀ reference ∈ (catalog table).references, reference.onDelete ≠ .cascade)
    (falls : Falls catalog db table chosen table row) : chosen row = true := by
  cases falls with
  | chosen stored picked => exact picked
  | dragged stored declared cascades => exact absurd cascades (rootless _ declared)

theorem rootless_users : ∀ reference ∈ (Catalog.declared .users).references,
    reference.onDelete ≠ .cascade := by decide

theorem rootless_directChannels : ∀ reference ∈ (Catalog.declared .directChannels).references,
    reference.onDelete ≠ .cascade := by decide

end Roots

theorem names_to {table target : Table} {column : String} {onDelete : OnDelete} {row : table.Row}
    {other : target.Row} {source : Option Int} {id : Int}
    (holds : table.key? [column] row = source.map fun n => [.int n])
    (identified : target.key? ["id"] other = some [.int id]) :
    (Reference.to column target onDelete).Names table row other ↔ source = some id := by
  unfold Reference.Names Reference.to
  simp only [holds, identified]
  cases source with
  | none => simp
  | some n => simp [eq_comm]

theorem names_parent {row parent : ChannelRow} :
    (Reference.to "parent_id" .channels .clear).Names .channels row parent ↔
      row.parentId = some parent.id := by
  refine names_to ?_ rfl
  obtain ⟨_, _, _, _, _, _, parentId⟩ := row
  cases parentId <;> rfl

theorem names_owner {row : DirectChannelRow} {owner : UserRow} :
    (Reference.to "owner_id" .users .clear).Names .directChannels row owner ↔
      row.ownerId = some owner.id := by
  refine names_to ?_ rfl
  obtain ⟨_, _, ownerId, _, _⟩ := row
  cases ownerId <;> rfl

theorem names_guildOwner {guild : GuildRow} {owner : UserRow} :
    (Reference.to "owner_id" .users .refuse).Names .guilds guild owner ↔
      guild.ownerId = owner.id := by
  have named : (Reference.to "owner_id" .users .refuse).Names .guilds guild owner ↔
      some guild.ownerId = some owner.id := names_to rfl rfl
  rw [named, Option.some.injEq]

theorem refuses_declared {table : Table} {reference : Reference}
    (declared : reference ∈ (Catalog.declared table).references)
    (refuses : reference.onDelete = .refuse) :
    table = .guilds ∧ reference = .to "owner_id" .users .refuse := by
  revert reference
  cases table <;> decide

namespace Deletion

theorem clearing_of_ne {table : Table} {gone : Database} {row : table.Row} {reference : Reference}
    (other : reference.onDelete ≠ .clear) : clearing table gone row reference = row :=
  if_neg fun clears => other clears.1

theorem clearing_eq {table : Table} {gone : Database} {row : table.Row} {reference : Reference}
    {lost : Prop} [Decidable lost] (clears : reference.onDelete = .clear)
    (points : reference.pointsInto table row gone = true ↔ lost) :
    clearing table gone row reference =
      if lost then table.clear reference.columns row else row :=
  if_congr ((and_iff_right clears).trans points) rfl rfl

theorem cleared_same {table : Table} (gone : Database) (row : table.Row)
    (channels : table ≠ .channels) (directs : table ≠ .directChannels) :
    cleared Catalog.declared table gone row = row := by
  rw [cleared_eq]
  refine List.foldlRecOn (motive := fun left => left = row) _ _ rfl ?_
  intro left same reference declared
  rw [clearing_of_ne, same]
  intro clears
  rcases clears_declared declared clears with ⟨here, -⟩ | ⟨here, -⟩
  · exact channels here
  · exact directs here

open scoped Classical in
theorem cleared_parent (gone : Database) (row : ChannelRow) :
    cleared Catalog.declared .channels gone row =
      if ∃ parent ∈ gone.channels, row.parentId = some parent.id then
        { row with parentId := none }
      else row := by
  have guild : clearing .channels gone row (.to "guild_id" .guilds .cascade) = row :=
    clearing_of_ne (by decide)
  have lost : (Reference.to "parent_id" .channels .clear).pointsInto .channels row gone = true ↔
      ∃ parent ∈ gone.channels, row.parentId = some parent.id := by
    rw [pointsInto_names]
    exact exists_congr fun parent => and_congr_right fun _ => names_parent
  rw [cleared_eq]
  change clearing .channels gone (clearing .channels gone row _) _ = _
  rw [guild]
  exact clearing_eq rfl lost

open scoped Classical in
theorem cleared_owner (gone : Database) (row : DirectChannelRow) :
    cleared Catalog.declared .directChannels gone row =
      if ∃ owner ∈ gone.users, row.ownerId = some owner.id then { row with ownerId := none }
      else row := by
  have lost : (Reference.to "owner_id" .users .clear).pointsInto .directChannels row gone = true ↔
      ∃ owner ∈ gone.users, row.ownerId = some owner.id := by
    rw [pointsInto_names]
    exact exists_congr fun owner => and_congr_right fun _ => names_owner
  exact clearing_eq rfl lost

theorem unhindered_iff (deletion : Deletion) :
    unhindered Catalog.declared deletion = true ↔
      ∀ guild ∈ deletion.kept.guilds, ∀ owner ∈ deletion.gone.users, guild.ownerId ≠ owner.id := by
  unfold unhindered
  simp only [List.all_eq_true, Bool.not_eq_true', Bool.and_eq_false_iff, decide_eq_false_iff_not]
  constructor
  · intro free guild kept owner gone owns
    have here := free .guilds (mem_all .guilds) guild kept (.to "owner_id" .users .refuse)
      List.mem_cons_self
    have points : (Reference.to "owner_id" .users .refuse).pointsInto .guilds guild
        deletion.gone = true := pointsInto_names.mpr ⟨owner, gone, names_guildOwner.mpr owns⟩
    rw [points] at here
    exact here.elim (fun other => other rfl) Bool.noConfusion
  · intro free table _ row kept reference declared
    by_cases refuses : reference.onDelete = .refuse
    · obtain ⟨rfl, rfl⟩ := refuses_declared declared refuses
      refine Or.inr (Bool.eq_false_iff.mpr fun points => ?_)
      obtain ⟨owner, gone, names⟩ := pointsInto_names.mp points
      exact free row kept owner gone (names_guildOwner.mp names)
    · exact Or.inl refuses

end Deletion

end Guildhall
