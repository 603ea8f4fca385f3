import Guildhall.Proofs.Store.Register
import Guildhall.Proofs.Store.Touch

/-!
The rows of a table that have one primary key. There is at most one, and a statement does to it what
it does to the row that it names, or nothing. Where one call puts rows in and another deletes them
they make a register.
-/

namespace Guildhall

section Keyed

variable {table : Table} {chosen : table.Row → Bool} {identity : List Cell} {db left : Database}
  (picks : ∀ row, chosen row = true ↔ table.identity row = identity)

include picks

theorem keyed_short (sound : db.Sound Catalog.declared) :
    ((db.rows table).filter chosen).length ≤ 1 := by
  have distinct := (sound.primaryKeys table).sublist (List.filter_sublist (p := chosen))
  have named : ∀ row ∈ (db.rows table).filter chosen, table.identity row = identity :=
    fun row member => (picks row).mp (List.mem_filter.mp member).2
  generalize (db.rows table).filter chosen = rows at distinct named
  match rows with
  | [] => exact Nat.zero_le 1
  | [row] => exact Nat.le_refl 1
  | first :: second :: rest =>
      have apart := (List.pairwise_cons.mp distinct).1 second List.mem_cons_self
      have same : table.identity first = table.identity second :=
        (named first List.mem_cons_self).trans
          (named second (List.mem_cons_of_mem _ List.mem_cons_self)).symm
      rw [sameKey_identity.mpr same] at apart
      cases apart

theorem keyed_alone (sound : db.Sound Catalog.declared) {row : table.Row}
    (stored : row ∈ db.rows table) (named : table.identity row = identity) :
    (db.rows table).filter chosen = [row] := by
  have member : row ∈ (db.rows table).filter chosen :=
    List.mem_filter.mpr ⟨stored, (picks row).mpr named⟩
  have short := keyed_short picks sound
  generalize (db.rows table).filter chosen = rows at member short
  match rows with
  | [other] => rw [List.mem_singleton.mp member]
  | first :: second :: rest =>
      simp only [List.length_cons] at short
      omega

theorem keyed_fresh {row : table.Row} (done : insertRow Catalog.declared table row db = .ok left)
    (named : table.identity row = identity) : (db.rows table).filter chosen = [] := by
  obtain ⟨-, -, admissible⟩ := insertRow_ok.mp done
  refine List.filter_eq_nil_iff.mpr fun other stored picked => ?_
  have shared := sameKey_identity.mpr (named.trans ((picks other).mp picked).symm)
  rw [admissible.primaryKey other stored] at shared
  cases shared

theorem keyed_insertRow {row : table.Row} (sound : db.Sound Catalog.declared)
    (done : insertRow Catalog.declared table row db = .ok left)
    (named : table.identity row = identity) : (left.rows table).filter chosen = [row] := by
  have after : left.Sound Catalog.declared := sound_insertRow sound done
  obtain ⟨-, rfl, -⟩ := insertRow_ok.mp done
  refine keyed_alone picks after ?_ named
  simp

theorem keyed_insertOther {row : table.Row}
    (done : insertRow Catalog.declared table row db = .ok left)
    (other : table.identity row ≠ identity) :
    (left.rows table).filter chosen = (db.rows table).filter chosen := by
  obtain ⟨-, rfl, -⟩ := insertRow_ok.mp done
  have missed : ¬chosen row = true := fun picked => other ((picks row).mp picked)
  simp [missed]

/-- A row that is put in where none has its key stands as it is, and else changes the one there. -/
theorem keyed_putRow {row : table.Row} {change : table.Row → table.Row}
    (sound : db.Sound Catalog.declared)
    (done : putRow Catalog.declared table row change db = .ok left)
    (named : table.identity row = identity)
    (steady : ∀ old, table.identity row = table.identity old →
      table.identity (change old) = table.identity old) :
    (left.rows table).filter chosen =
      [(((db.rows table).filter chosen).head?.map change).getD row] := by
  unfold putRow at done
  split at done
  · rename_i held
    obtain ⟨old, stored, same⟩ := holdsKeyOf_iff.mp held
    have alone : (db.rows table).filter chosen = [old] :=
      keyed_alone picks sound stored (same.symm.trans named)
    have key : table.sameKey (Catalog.declared table).primaryKey row = chosen := by
      funext other
      rw [Bool.eq_iff_iff, sameKey_identity, picks, named, eq_comm]
    obtain ⟨-, rfl, -⟩ := changeRows_ok.mp done
    rw [Database.rows_put_self, key, filter_changedRows_self, alone]
    · rfl
    · intro other picked
      have same := (picks other).mp picked
      rw [picks, steady other (named.trans same.symm), same]
  · rw [keyed_fresh picks done named, keyed_insertRow picks sound done named]
    rfl

theorem keyed_putOther {row : table.Row} {change : table.Row → table.Row}
    (done : putRow Catalog.declared table row change db = .ok left)
    (other : table.identity row ≠ identity)
    (steady : ∀ old, table.identity row = table.identity old →
      table.identity (change old) = table.identity old) :
    (left.rows table).filter chosen = (db.rows table).filter chosen := by
  rcases putRow_ok done with inserted | changed
  · exact keyed_insertOther picks inserted other
  · obtain ⟨-, rfl, -⟩ := changeRows_ok.mp changed
    rw [Database.rows_put_self]
    refine filter_changedRows_other (fun old picked => ?_) fun old picked => ?_
    · refine Bool.eq_false_iff.mpr fun also => other ?_
      exact (sameKey_identity.mp picked).trans ((picks old).mp also)
    · have same := sameKey_identity.mp picked
      refine Bool.eq_false_iff.mpr fun also => other ?_
      rw [same, ← steady old same, (picks _).mp also]

theorem keyed_changes {integers : List Int} {change : table.Row → table.Row}
    (plain : Catalog.declared.Plain table) (sound : db.Sound Catalog.declared)
    (fits : integers.all fitsWord = true)
    (steady : ∀ old, table.identity (change old) = table.identity old)
    (keys : ∀ old, ∀ reference ∈ (Catalog.declared table).references,
      table.key? reference.columns (change old) = table.key? reference.columns old) :
    ∃ left, changeRows Catalog.declared table integers chosen change db = .ok left := by
  rcases changeRows_ends plain fits picks fun old _ => steady old with ⟨lacking, -⟩ | ⟨-, done⟩
  · obtain ⟨old, stored, -, lacks⟩ := lacking
    rw [dangling_congr plain.elsewhere (keys old) fun _ _ => rfl] at lacks
    obtain ⟨reference, declared, unanswered⟩ := lacks
    exact absurd (sound.references table old stored reference declared) unanswered
  · exact ⟨_, done⟩

end Keyed

section Deletions

variable {table : Table} {integers : List Int} {chosen named : table.Row → Bool}
  {db left : Database}

theorem refers_away : ∀ table ∈ Table.leaves,
    ∀ reference ∈ (Catalog.declared table).references, reference.target ∉ [table] := by
  intro table leaf
  revert leaf
  cases table <;> decide

theorem falls_ownLeaf (leaf : table ∈ Table.leaves) {row : table.Row}
    (falls : Falls Catalog.declared db table chosen table row) : chosen row = true := by
  cases falls with
  | chosen stored picked => exact picked
  | dragged stored declared cascades names falls =>
      exact absurd (falls_within (closed_leaf leaf) (List.mem_singleton_self table) falls)
        (refers_away table leaf _ declared)

theorem rows_deleteLeaf (leaf : table ∈ Table.leaves)
    (done : deleteRows Catalog.declared table integers chosen db = .ok left) :
    left.rows table = (db.rows table).filter fun row => !chosen row := by
  classical
  have channels : table ≠ .channels := by
    rintro rfl
    revert leaf
    decide
  have directs : table ≠ .directChannels := by
    rintro rfl
    revert leaf
    decide
  rw [(cascaded_deleteRows done).others table channels directs]
  refine List.filter_congr fun row stored => ?_
  have falls : Falls Catalog.declared db table chosen table row ↔ chosen row = true :=
    ⟨falls_ownLeaf leaf, .chosen stored⟩
  simp [falls]

theorem large_deleteLeaf {failure : Failure} (leaf : table ∈ Table.leaves)
    (failed : deleteRows Catalog.declared table integers chosen db = .error failure) :
    integers.all fitsWord = false := by
  rcases deleteRows_error.mp failed with ⟨large, -⟩ | ⟨-, hindered, -⟩
  · exact large
  · have spared : ∀ owner, ¬Falls Catalog.declared db table chosen .users owner := by
      intro owner falls
      have within := falls_within (closed_leaf leaf) (List.mem_singleton_self table) falls
      have users : Table.users ∈ Table.leaves := List.mem_singleton.mp within ▸ leaf
      exact absurd users (by decide)
    rw [unhindered_complete.mpr fun _ _ _ owner falls => absurd falls (spared owner)] at hindered
    cases hindered

theorem keyed_deleted (leaf : table ∈ Table.leaves)
    (done : deleteRows Catalog.declared table integers chosen db = .ok left) :
    (left.rows table).filter chosen = [] := by
  rw [rows_deleteLeaf leaf done, List.filter_filter, List.filter_eq_nil_iff]
  intro row stored
  simp

theorem keyed_deletedOther (leaf : table ∈ Table.leaves)
    (done : deleteRows Catalog.declared table integers named db = .ok left)
    (apart : ∀ row, named row = true → chosen row = false) :
    (left.rows table).filter chosen = (db.rows table).filter chosen := by
  rw [rows_deleteLeaf leaf done, List.filter_filter]
  refine List.filter_congr fun row stored => ?_
  cases picked : named row with
  | true => simp [apart row picked]
  | false => simp

end Deletions

section Removals

variable {table : Table} (aloof : table.Aloof) {chosen : table.Row → Bool} {event : Event}
  {db : Database}

include aloof

theorem keyed_taken {identity : List Cell}
    (picks : ∀ row, chosen row = true ↔ table.identity row = identity)
    (sound : db.Sound Catalog.declared) {row : table.Row}
    (present : row ∈ (db.rows table).filter chosen) (takes : event.Takes table row db) :
    ((event.apply db).rows table).filter chosen = [] := by
  classical
  obtain ⟨removal, does, goes⟩ := takes
  obtain ⟨stored, picked⟩ := List.mem_filter.mp present
  have alone := keyed_alone picks sound stored ((picks row).mp picked)
  rw [rows_removal aloof does, List.filter_comm, alone]
  simp [goes]

theorem keyed_spared {removal : Removal} (does : event.Does removal.write db)
    (spared : ∀ row ∈ (db.rows table).filter chosen, ¬event.Takes table row db) :
    ((event.apply db).rows table).filter chosen = (db.rows table).filter chosen := by
  classical
  rw [rows_removal aloof does, List.filter_comm, List.filter_eq_self]
  intro row present
  have stays : ¬removal.Takes db table row := fun takes => spared row present ⟨removal, does, takes⟩
  simp [stays]

end Removals

/-- The rows of one key in a table, which the one call puts there and the other deletes. -/
structure Register.Keyed {Given : Type} {table : Table} (register : Register Given table.Row)
    (chosen : table.Row → Bool) (put : Given → Write) (drop : Write) : Prop where
  aloof : table.Aloof
  leaf : table ∈ Table.leaves
  rows_eq : ∀ db, register.rows db = (db.rows table).filter chosen
  identity : ∃ identity, ∀ row, chosen row = true ↔ table.identity row = identity
  puts_iff : ∀ {given event db}, register.Puts given event db ↔
    chosen (register.fresh given) = true ∧ event.Does (put given) db
  put_injective : Function.Injective put
  statement_put : ∀ given now, (put given).statement Catalog.declared now =
    putRow Catalog.declared table (register.fresh given) (register.renew given)
  steady : ∀ given old, table.identity (register.fresh given) = table.identity old →
    table.identity (register.renew given old) = table.identity old
  statement_drop : ∃ integers, ∀ now, drop.statement Catalog.declared now =
    deleteRows Catalog.declared table integers chosen
  /-- No other call is about the table but one that deletes the row of another key. -/
  only : ∀ write : Write, write.table = table → (∃ given, write = put given) ∨ write = drop ∨
    ∃ integers named, (∀ now, write.statement Catalog.declared now =
      deleteRows Catalog.declared table integers named) ∧
      ∀ row, named row = true → chosen row = false
  ends_iff : ∀ {event db row}, db.Consistent → register.rows db = [row] →
    (register.Ends event db ↔ event.Does drop db ∨ event.Takes table row db)
  ends_apart : ∀ {given event db}, register.Ends event db → ¬event.Does (put given) db
  renew_fresh : ∀ given, register.renew given (register.fresh given) = register.fresh given
  renew_renew : ∀ later earlier row,
    register.renew later (register.renew earlier row) = register.renew later row

namespace Register.Keyed

variable {Given : Type} {table : Table} {register : Register Given table.Row}
  {chosen : table.Row → Bool} {put : Given → Write} {drop : Write}
  (keyed : register.Keyed chosen put drop) {event : Event} {db : Database}

include keyed

theorem rows_put {given : Given} (sound : db.Sound Catalog.declared)
    (puts : register.Puts given event db) : register.rows (event.apply db) =
      [((register.rows db).head?.map (register.renew given)).getD (register.fresh given)] := by
  obtain ⟨identity, picks⟩ := keyed.identity
  obtain ⟨picked, does⟩ := keyed.puts_iff.mp puts
  have done := (Event.does_iff.mp does).2
  rw [keyed.statement_put] at done
  rw [keyed.rows_eq, keyed.rows_eq]
  exact keyed_putRow picks sound done ((picks _).mp picked) (keyed.steady given)

theorem rows_lost (sound : db.Sound Catalog.declared)
    (lost : event.Does drop db ∨ ∃ row ∈ register.rows db, event.Takes table row db) :
    register.rows (event.apply db) = [] := by
  obtain ⟨identity, picks⟩ := keyed.identity
  simp only [keyed.rows_eq] at lost ⊢
  rcases lost with does | ⟨row, present, takes⟩
  · obtain ⟨integers, drops⟩ := keyed.statement_drop
    have done := (Event.does_iff.mp does).2
    rw [drops] at done
    exact keyed_deleted keyed.leaf done
  · exact keyed_taken keyed.aloof picks sound present takes

theorem rows_spared (unput : ¬register.PutsAny event db)
    (kept : ¬(event.Does drop db ∨ ∃ row ∈ register.rows db, event.Takes table row db)) :
    register.rows (event.apply db) = register.rows db := by
  obtain ⟨identity, picks⟩ := keyed.identity
  simp only [keyed.rows_eq, not_or, not_exists, not_and] at kept ⊢
  cases touched_event keyed.aloof event db with
  | untouched same => rw [same]
  | removed does apart => exact keyed_spared keyed.aloof does kept.2
  | called does about =>
      have done := (Event.does_iff.mp does).2
      rcases keyed.only _ about with ⟨given, rfl⟩ | rfl | ⟨integers, named, deletes, apart⟩
      · rw [keyed.statement_put] at done
        refine keyed_putOther picks done (fun same => unput ⟨given, ?_⟩) (keyed.steady given)
        exact keyed.puts_iff.mpr ⟨(picks _).mpr same, does⟩
      · exact absurd does kept.1
      · rw [deletes] at done
        exact keyed_deletedOther keyed.leaf done apart

theorem turn (event : Event) (reachable : Reachable db) : register.Turn event db := by
  have sound := reachable_sound reachable
  by_cases puts : register.PutsAny event db
  · obtain ⟨given, puts⟩ := puts
    have does := (keyed.puts_iff.mp puts).2
    exact .put puts (fun ends => keyed.ends_apart ends does) (keyed.rows_put sound puts)
  have fate : register.rows (event.apply db) = [] ∨
      register.rows (event.apply db) = register.rows db :=
    (em _).imp (keyed.rows_lost sound) (keyed.rows_spared puts)
  obtain ⟨identity, picks⟩ := keyed.identity
  have short := keyed_short picks sound
  rw [← keyed.rows_eq] at short
  match rows : register.rows db with
  | [] =>
      -- Where nothing is stored nothing is lost, whether the event would end a row or not.
      have still : register.rows (event.apply db) = [] := by simpa [rows] using fate
      by_cases ends : register.Ends event db
      · exact .ended ends puts still
      · exact .other puts ends (still.trans rows.symm)
  | [row] =>
      have lost : (event.Does drop db ∨ ∃ row ∈ register.rows db, event.Takes table row db) ↔
          register.Ends event db := by
        rw [keyed.ends_iff (consistent_of_sound sound) rows]
        simp [rows]
      by_cases ends : register.Ends event db
      · exact .ended ends puts (keyed.rows_lost sound (lost.mpr ends))
      · exact .other puts ends (keyed.rows_spared puts (lost.not.mpr ends))
  | first :: second :: rest => simp [rows] at short

theorem lawful : register.Lawful where
  start := by
    rw [keyed.rows_eq]
    cases table <;> rfl
  turn event _ reachable := keyed.turn event reachable
  single first second := by
    have does := (keyed.puts_iff.mp second).2
    exact keyed.put_injective (does_only does.1 (keyed.puts_iff.mp first).2)
  renew_fresh := keyed.renew_fresh
  renew_renew := keyed.renew_renew

end Register.Keyed

end Guildhall
