import Guildhall.Proofs.Store.Classification
import Guildhall.Proofs.Store.Entry
import Guildhall.Proofs.Directs.Refusal

/-!
How every call that puts rows in ends in a reachable database, once its integers fit: as a conflict,
as a missing reference, or with the new rows. The first two are what the wording of the driver is
taken for.
-/

namespace Guildhall

open Calendar

/-- The call meets a conflict exactly if it clashes, a missing reference exactly if it lacks a row
and does not clash, and gives the answer otherwise. -/
structure Concludes (clashes lacks : Prop) (answer : Answer) (outcome : Except Failure Answer) :
    Prop where
  conflict :
    (∃ detail constraint, outcome = .error (.store (.conflict detail constraint))) ↔ clashes
  missing : (∃ detail, outcome = .error (.store (.invalidReference detail))) ↔ ¬clashes ∧ lacks
  done : ¬clashes → ¬lacks → outcome = .ok answer

section Conclusions

variable {clashes lacks : Prop} {answer : Answer}

theorem concludes_conflict {columns : String} (clash : clashes) :
    Concludes clashes lacks answer (.error (.store (.duplicate columns))) where
  conflict := ⟨fun _ => clash, fun _ => ⟨columns, some columns, rfl⟩⟩
  missing := by simp [clash, StoreError.duplicate]
  done free := absurd clash free

theorem concludes_missing (free : ¬clashes) (lack : lacks) :
    Concludes clashes lacks answer (.error (.store .noTarget)) where
  conflict := by simp [free, StoreError.noTarget]
  missing := ⟨fun _ => ⟨free, lack⟩, fun _ => ⟨_, rfl⟩⟩
  done _ full := absurd lack full

theorem concludes_done (free : ¬clashes) (full : ¬lacks) :
    Concludes clashes lacks answer (.ok answer) where
  conflict := by simp [free]
  missing := by simp [full]
  done _ _ := rfl

end Conclusions

section Wordings

open DriverReport

variable {table : Table} {row : table.Row} {db : Database}

def keysOf (table : Table) : List (List String) :=
  (Catalog.declared table).primaryKey :: (Catalog.declared table).uniques.map Named.columns

def refusals (table : Table) : List String :=
  "FOREIGN KEY constraint failed" ::
    (keysOf table).map fun columns => Kind.unique.wording (table.columnsText columns)

theorem fault_duplicate (table : Table) : ∀ columns ∈ keysOf table,
    (worded (Kind.unique.wording (table.columnsText columns))).fault =
      .duplicate (table.columnsText columns) := by
  have bare : ∀ columns ∈ keysOf table, trimmed (table.columnsText columns) =
      table.columnsText columns ∧ table.columnsText columns ≠ "" := by
    cases table <;> decide +kernel
  intro columns key
  obtain ⟨same, filled⟩ := bare columns key
  rw [fault_wording, if_pos (Or.inl rfl), Kind.shown, same, if_neg filled]
  rfl

theorem fault_noTarget : (worded "FOREIGN KEY constraint failed").fault = .noTarget := by
  decide

/-- An insertion fails with what the wording of the driver is taken for. -/
theorem insertRow_reported {fault : StoreError}
    (failed : insertRow Catalog.declared table row db = .error (.store fault)) :
    ∃ text ∈ refusals table, (worded text).fault = fault := by
  have taken : ∀ columns ∈ keysOf table, ∃ text ∈ refusals table,
      (worded text).fault = .duplicate (table.columnsText columns) := fun columns key =>
    ⟨_, List.mem_cons_of_mem _ (List.mem_map_of_mem key), fault_duplicate table columns key⟩
  obtain ⟨rule, member, -, same⟩ := demand_error failed
  simp only [rowRules, List.mem_cons, List.mem_append, List.mem_map] at member
  rcases member with rfl | ⟨named, unique, rfl⟩ | rfl | ⟨reference, -, rfl⟩
  · cases same
  · cases same
    exact taken _ (List.mem_cons_of_mem _ (List.mem_map_of_mem unique))
  · cases same
    exact taken _ List.mem_cons_self
  · cases same
    exact ⟨_, List.mem_cons_self, fault_noTarget⟩

end Wordings

section Calls

variable {db : Database} {now : DateTime}

theorem run_creation (creation : Creation) (fits : creation.write.integers.all fitsWord = true) :
    let call := Command.run Catalog.declared now (.write creation.write) db
    Concludes (creation.Clashes db) (creation.Lacks db) .done call.1 ∧
      (call.1 = .ok .done → call.2 = db.with creation.table creation.row) := by
  rw [creation.integers_creation] at fits
  have ends : Insertion Catalog.declared creation.table creation.row db
      (insertRow Catalog.declared creation.table creation.row db) := insertRow_ends fits
  simp only [run_write, creation.statement_creation, creation.answer_creation]
  generalize insertRow Catalog.declared creation.table creation.row db = outcome at ends
  cases ends with
  | conflict taken =>
      exact ⟨concludes_conflict ((creation.taken_creation db).mp taken), by simp⟩
  | noTarget free dangling =>
      exact ⟨concludes_missing (mt (creation.taken_creation db).mpr free)
        ((creation.dangling_creation db).mp dangling), by simp⟩
  | added free answered =>
      exact ⟨concludes_done (mt (creation.taken_creation db).mpr free)
        (mt (creation.dangling_creation db).mpr answered), fun _ => rfl⟩

theorem run_entry (sound : db.Sound Catalog.declared) (entry : Entry)
    (fits : entry.write.integers.all fitsWord = true) :
    Concludes False (entry.Lacks db) (entry.write.answer db)
      (Command.run Catalog.declared now (.write entry.write) db).1 := by
  rw [run_write]
  rcases Entry.settles_entry sound entry now fits with ⟨lacks, failed⟩ | ⟨full, left, done⟩
  · rw [failed]
    exact concludes_missing id lacks
  · rw [done]
    exact concludes_done id full

theorem run_direct (sound : db.Sound Catalog.declared) {id : Int} {recipients : List Int}
    {kind : Int} {ownerId : Option Int} {createdAt : Option DateTime} {key : Option String} :
    let write := Write.createDirect id recipients kind ownerId createdAt
    let draft : Directs.Draft := ⟨id, recipients, kind, ownerId, createdAt.getD now⟩
    let call := Command.run Catalog.declared now (.write write) db
    draft.pairKey? = .ok key → write.integers.all fitsWord = true →
      Concludes (draft.Conflicts key db) (draft.Dangles key db) .done call.1 ∧
      (call.1 = .ok .done → call.2 = draft.opened key db recipients) ∧
      ∀ failure, call.1 = .error failure ↔ draft.FailsFirst key db failure := by
  intro write draft call named fits
  have ends : Directs.Opening draft key db (Directs.create Catalog.declared draft db) :=
    Directs.create_ends sound named fits
  have first := fun failure => @Directs.create_error_iff draft key db named failure
  have statement : write.statement Catalog.declared now = Directs.create Catalog.declared draft :=
    rfl
  simp only [call, run_write, statement]
  cases outcome : Directs.create Catalog.declared draft db with
  | error failure =>
      rw [outcome] at ends first
      refine ⟨?_, by simp, fun other => by simpa using first other⟩
      cases ends with
      | conflict conflicts => exact concludes_conflict conflicts
      | noTarget dangles =>
          exact concludes_missing
            (fun conflicts => Directs.not_dangles_of_conflicts conflicts dangles) dangles
  | ok left =>
      rw [outcome] at ends first
      obtain ⟨unmet, found, rfl⟩ := Directs.opening_ok ends
      exact ⟨concludes_done unmet found, fun _ => rfl, fun other => by simpa using first other⟩

end Calls

/-- Every insertion ends in the way that the stored keys and rows decide. -/
theorem outcome_exact (past : Run) (now : DateTime) :
    let db := past.after .empty
    let call := fun write : Write => Command.run Catalog.declared now (.write write) db
    (∀ creation : Creation, creation.write.integers.all fitsWord = true →
      Concludes (creation.Clashes db) (creation.Lacks db) .done (call creation.write).1 ∧
      ((call creation.write).1 = .ok .done →
        (call creation.write).2 = db.with creation.table creation.row)) ∧
    (∀ entry : Entry, entry.write.integers.all fitsWord = true →
      Concludes False (entry.Lacks db) (entry.write.answer db) (call entry.write).1) ∧
    ∀ (id : Int) (recipients : List Int) (kind : Int) (ownerId : Option Int)
      (createdAt : Option DateTime) (key : Option String),
      let write := Write.createDirect id recipients kind ownerId createdAt
      let draft : Directs.Draft := ⟨id, recipients, kind, ownerId, createdAt.getD now⟩
      draft.pairKey? = .ok key → write.integers.all fitsWord = true →
        Concludes (draft.Conflicts key db) (draft.Dangles key db) .done (call write).1 ∧
        ((call write).1 = .ok .done → (call write).2 = draft.opened key db recipients) ∧
        ∀ failure, (call write).1 = .error failure ↔ draft.FailsFirst key db failure := by
  intro db call
  have sound : db.Sound Catalog.declared := reachable_sound (reachable_after past)
  exact ⟨fun creation fits => run_creation creation fits,
    fun entry fits => run_entry sound entry fits,
    fun id recipients kind ownerId createdAt key named fits => run_direct sound named fits⟩

theorem settled_outcomes :
    let db := settled.after .empty
    let call := fun write : Write => Command.run Catalog.declared noon (.write write) db
    (∃ detail constraint, (call (.createUser ⟨3, "ada", "Eve", none, "", noon⟩)).1 =
      .error (.store (.conflict detail constraint))) ∧
    (call (.createChannel ⟨32, 10, "own", .text, 0, none, some 32⟩)).1 = .ok .done ∧
    (∃ detail, (call (.addMemberRole 10 1 20)).1 = .error (.store (.invalidReference detail))) ∧
    ∃ detail constraint, (call (.createDirect 51 [1, 1, 9] DirectKind.group.code none none)).1 =
      .error (.store (.conflict detail constraint)) := by
  intro db call
  obtain ⟨creations, entries, directs⟩ := outcome_exact settled noon
  refine ⟨?_, ?_, ?_, ?_⟩
  · refine (creations (.user ⟨3, "ada", "Eve", none, "", noon⟩) (by decide)).1.conflict.mpr ?_
    exact ⟨⟨1, "ada", "Ada", none, "", noon.wall⟩, by decide +kernel, Or.inr rfl⟩
  · refine (creations (.channel ⟨32, 10, "own", .text, 0, none, some 32⟩)
      (by decide)).1.done ?_ ?_
    · rintro ⟨row, stored, clashes⟩
      have rows : db.channels = [⟨30, 10, "area", 4, 0, none, none⟩,
          ⟨31, 10, "talk", 0, 0, none, some 30⟩] := by decide +kernel
      simp only [db, rows, List.mem_cons, List.not_mem_nil, or_false] at stored
      rcases stored with rfl | rfl <;> simp at clashes
    · rintro (lost | ⟨id, ⟨⟩, apart, -⟩)
      · exact lost ⟨⟨10, "guild", none, 1, noon.wall⟩, by decide +kernel, rfl⟩
      · exact apart rfl
  · refine (entries (.memberRole 10 1 20) (by decide)).missing.mpr ⟨id, Or.inr ?_⟩
    rintro ⟨member, stored, -, same⟩
    have rows : db.members = [⟨10, 2, none, noon.wall⟩] := by decide +kernel
    simp only [db, rows, List.mem_singleton] at stored
    subst stored
    cases same
  · refine (directs 51 [1, 1, 9] DirectKind.group.code none none none rfl
      (by decide)).1.conflict.mpr (Or.inr ⟨?_, [1], 1, [9], rfl, ⟨?_, ?_⟩, ?_⟩)
    · rintro ⟨id, ⟨⟩, -⟩
    · exact List.nodup_singleton 1
    · simp only [List.mem_singleton, forall_eq]
      exact ⟨⟨1, "ada", "Ada", none, "", noon.wall⟩, by decide +kernel, rfl⟩
    · exact List.mem_singleton_self 1

end Guildhall
