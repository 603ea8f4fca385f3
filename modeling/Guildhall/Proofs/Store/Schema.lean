import Guildhall.Proofs.Store.Rollback
import Guildhall.Proofs.Store.Guard
import Guildhall.Store.Dump
import Guildhall.Store.Raw
import Mathlib.Data.List.Forall2

/-!
A storage that was set up at once and one that was built by migration. They declare the same of
every table, so that no caller can tell them apart: each call and each transaction of a search gives
the same on both, and so does any run of them. Where the value of a column that is not given would
come from makes no difference, since each call gives all columns.
-/

namespace Guildhall

open Calendar

inductive Observation where
  | answered (outcome : Except Failure Answer)
  | searched (finder : Directs.Finder)

def Event.perform (event : Event) (storage : Storage) : Observation × Storage :=
  match event.action with
  | .call command =>
    let (outcome, left) := storage.run event.now command
    (.answered outcome, left)
  | .search finder =>
    let (next, left) := storage.step event.now finder
    (.searched next, left)

def Run.replay (run : Run) (storage : Storage) : List Observation × Storage :=
  match run with
  | [] => ([], storage)
  | event :: rest =>
    let (shown, next) := event.perform storage
    let (later, last) := Run.replay rest next
    (shown :: later, last)

section Given

variable {table : Table}

/-- The cell is that of the column, and null only where the column may be and has no default. -/
structure Suits (column : Column) (cell : String × Cell) : Prop where
  name : column.name = cell.1
  null : cell.2 = .null → column.nullable = true ∧ column.default = .nothing

theorem names_given (table : Table) (row : table.Row) :
    (Catalog.declared table).columns.map Column.name = (table.cells row).map Prod.fst := by
  cases table <;> rfl

theorem columns_given (table : Table) (row : table.Row) :
    List.Forall₂ Suits (Catalog.declared table).columns (table.cells row) := by
  have nulls : List.Forall₂ (fun column cell =>
      cell.2 = Cell.null → column.nullable = true ∧ column.default = .nothing)
      (Catalog.declared table).columns (table.cells row) := by
    cases table
    all_goals
      simp [Catalog.declared, Table.cells, UserRow.cells, GuildRow.cells, MemberRow.cells,
        Role.cells, MemberRoleRow.cells, ChannelRow.cells, ChannelOverride.cells, BanRow.cells,
        InviteRow.cells, MessageRow.cells, Attachment.cells, ReactionRow.cells,
        DirectChannelRow.cells, RecipientRow.cells, ReadStateRow.cells, VoiceStateRow.cells,
        Column.word, Column.of, Column.limited, Column.text, Column.number, Column.flag,
        Column.time, Column.orNull, Column.withDefault, Column.withNow]
  have names := names_given table row
  generalize (Catalog.declared table).columns = columns at names nulls
  generalize table.cells row = cells at names nulls
  induction nulls with
  | nil => exact .nil
  | cons null _ ih =>
      obtain ⟨name, rest⟩ := List.cons.inj names
      exact .cons ⟨name, null⟩ (ih rest)

theorem get?_given {row : table.Row} {cell : String × Cell} (member : cell ∈ table.cells row) :
    (table.cells row).get? cell.1 = some cell.2 := by
  have distinct : ((table.cells row).map Prod.fst).Nodup := by
    rw [← names_given]
    cases table <;> decide
  obtain ⟨before, after, split⟩ := List.append_of_mem member
  rw [split] at distinct ⊢
  refine List.lookup_eq_some_iff.mpr ⟨before, after, rfl, fun other earlier => ?_⟩
  rw [List.map_append, List.nodup_append] at distinct
  simpa using (distinct.2.2 _ (List.mem_map_of_mem earlier) _ List.mem_cons_self).symm

/-- No default is put into a row that is given whole. -/
theorem complete_given (now : DateTime) (row : table.Row) :
    complete (Catalog.declared table) now (table.cells row) = table.cells row := by
  have filled : ∀ {column : Column} {cell : String × Cell}, Suits column cell →
      cell ∈ table.cells row → (column.name, column.fill now (table.cells row)) = cell := by
    intro column cell suits member
    rw [Column.fill, suits.name, get?_given member]
    obtain ⟨name, cell⟩ := cell
    cases cell with
    | null => rw [(suits.null rfl).2]
    | _ => rfl
  obtain ⟨length, each⟩ := List.forall₂_iff_zip.mp (columns_given table row)
  have same : List.Forall₂ Eq (complete (Catalog.declared table) now (table.cells row))
      (table.cells row) :=
    List.forall₂_map_left_iff.mpr (List.forall₂_iff_zip.mpr
      ⟨length, fun member => filled (each member) (List.of_mem_zip member).2⟩)
  rwa [List.forall₂_eq_eq_eq] at same

theorem ofCells?_given (row : table.Row) : table.ofCells? (table.cells row) = some row := by
  cases table
  case users =>
    obtain ⟨_, _, _, avatarHash, _, _⟩ := row
    cases avatarHash <;> rfl
  case guilds =>
    obtain ⟨_, _, iconHash, _, _⟩ := row
    cases iconHash <;> rfl
  case members =>
    obtain ⟨_, _, nickname, _⟩ := row
    cases nickname <;> rfl
  case channels =>
    obtain ⟨_, _, _, _, _, topic, parentId⟩ := row
    cases topic <;> cases parentId <;> rfl
  case bans =>
    obtain ⟨_, _, reason, _, _⟩ := row
    cases reason <;> rfl
  case invites =>
    obtain ⟨_, _, channelId, _, _, _, expiresAt, _⟩ := row
    cases channelId <;> cases expiresAt <;> rfl
  case messages =>
    obtain ⟨_, _, _, _, _, editedAt⟩ := row
    cases editedAt <;> rfl
  case directChannels =>
    obtain ⟨_, _, ownerId, pairKey, _⟩ := row
    cases ownerId <;> cases pairKey <;> rfl
  all_goals rfl

theorem filled_given {column : Column} (row : table.Row)
    (member : column ∈ (Catalog.declared table).columns) :
    (filled table (table.cells row) column).holds = true := by
  obtain ⟨cell, among, suits⟩ : ∃ cell ∈ table.cells row, Suits column cell := by
    obtain ⟨place, rfl⟩ := List.mem_iff_get.mp member
    have given := columns_given table row
    have inside : place < (table.cells row).length := given.length_eq ▸ place.isLt
    exact ⟨_, List.get_mem _ ⟨place, inside⟩, given.get place.isLt inside⟩
  rw [filled, suits.name, get?_given among]
  by_cases null : cell.2 = .null
  · simp [(suits.null null).1]
  · simp [null]

/-- A row that is given cell by cell goes in as if a call created it. -/
theorem insertCells_given (origin : Origin) (now : DateTime) (row : table.Row) :
    insertCells origin.catalog now table (table.cells row) =
      insertRow origin.catalog table row := by
  funext db
  rw [catalog_declared]
  simp only [insertCells, complete_given, ofCells?_given]
  cases fits : (table.cells row).integers.all fitsWord with
  | false =>
      have guarded : Guarded (table.cells row).integers
          (insertRow Catalog.declared table row db) := guarded_insertRow row
      have stopped : demand (fitting (table.cells row).integers ::
          (Catalog.declared table).columns.map (filled table (table.cells row))) () =
          .error .tooLarge := by simp [demand, fitting, fits]
      rw [guarded.large fits, stopped]
      rfl
  | true =>
      have taken : demand (fitting (table.cells row).integers ::
          (Catalog.declared table).columns.map (filled table (table.cells row))) () = .ok () :=
        demand_ok.mpr ⟨List.forall_mem_cons.mpr
          ⟨fits, List.forall_mem_map.mpr fun _ => filled_given row⟩, rfl⟩
      rw [taken]
      rfl

end Given

section Replays

variable (db : Database)

theorem perform_alike (event : Event) : ∃ shown, ∀ origin versioned,
    event.perform ⟨some ⟨origin, db⟩, versioned⟩ =
      (shown, ⟨some ⟨origin, event.apply db⟩, versioned⟩) := by
  obtain ⟨now, action⟩ := event
  cases action with
  | call command =>
      refine ⟨.answered (command.run Catalog.declared now db).1, fun origin versioned => ?_⟩
      simp only [Event.perform, Event.apply, Storage.run, Storage.attempt, catalog_declared]
  | search finder =>
      refine ⟨.searched (finder.step Catalog.declared now db).1, fun origin versioned => ?_⟩
      simp only [Event.perform, Event.apply, Storage.step, Storage.attempt, catalog_declared]

theorem replay_alike (run : Run) : ∃ shown, ∀ origin versioned,
    run.replay ⟨some ⟨origin, db⟩, versioned⟩ =
      (shown, ⟨some ⟨origin, run.after db⟩, versioned⟩) := by
  induction run generalizing db with
  | nil => exact ⟨[], fun _ _ => rfl⟩
  | cons event rest ih =>
      obtain ⟨first, performed⟩ := perform_alike db event
      obtain ⟨later, replayed⟩ := ih (event.apply db)
      refine ⟨first :: later, fun origin versioned => ?_⟩
      simp only [Run.replay, performed, replayed, after_cons]

end Replays

/-- On a fresh storage it makes no difference whether the tables are set up at once or created by
migration: any run shows the same, event after event, and leaves the same rows, which are listed
alike. -/
theorem schemas_alike (run : Run) : ∃ shown db,
    run.replay Storage.blank.setUp = (shown, ⟨some ⟨.declared, db⟩, false⟩) ∧
    Storage.blank.upgrade.map run.replay = .ok (shown, ⟨some ⟨.migrated, db⟩, true⟩) ∧
    ∀ table, db.dump Origin.declared.catalog table = db.dump Origin.migrated.catalog table := by
  obtain ⟨shown, replayed⟩ := replay_alike .empty run
  refine ⟨shown, run.after .empty, replayed .declared false, ?_, fun table => ?_⟩
  · exact congrArg Except.ok (replayed .migrated true)
  · rw [catalog_declared, catalog_declared]

end Guildhall
