import Guildhall.Proofs.Decimal.Numeral
import Guildhall.Proofs.Store.Run

/-!
Whatever identifies a stored row fits the words of the storage.
-/

namespace Guildhall

theorem wordBound_pos : 0 < wordBound := Int.natCast_pos.mpr (Nat.pow_pos Nat.two_pos)

theorem fitsWord_iff {n : Int} : fitsWord n = true ↔ -wordBound ≤ n ∧ n < wordBound := by
  simp [fitsWord]

theorem writable_of_fits {n : Int} (fits : fitsWord n = true) : Decimal.isWritable n = true := by
  have bounds := fitsWord_iff.mp fits
  have small : wordBound < 10 ^ 19 := by decide
  have few : 10 ^ 19 ≤ 10 ^ Decimal.digitLimit := Nat.pow_le_pow_right (by decide) (by decide)
  rw [Decimal.isWritable_iff]
  omega

def Table.Fits (table : Table) (row : table.Row) : Prop :=
  ∀ n, Cell.int n ∈ table.identity row → fitsWord n = true

def Database.Fits (db : Database) : Prop := ∀ table, ∀ row ∈ db.rows table, table.Fits row

theorem mem_of_key {cells : Cells} {names : List String} {key : List Cell} {cell : Cell}
    (found : cells.key? names = some key) (member : cell ∈ key) :
    ∃ name, (name, cell) ∈ cells := by
  induction names generalizing key with
  | nil =>
      cases found
      cases member
  | cons name rest ih =>
      simp only [Cells.key?, List.mapM_cons, Option.bind_eq_bind, Option.bind_eq_some_iff] at found
      obtain ⟨first, here, others, later, same⟩ := found
      cases same
      rcases List.mem_cons.mp member with rfl | member
      · have named : cells.get? name = some cell := by
          split at here
          · cases here
          · cases here
          · rename_i given
            rw [given, here]
        obtain ⟨before, after, split, -⟩ := List.lookup_eq_some_iff.mp named
        exact ⟨name, by simp [split]⟩
      · exact ih later member

theorem fits_of_cells {table : Table} {row : table.Row}
    (fits : (table.cells row).integers.all fitsWord = true) : table.Fits row := by
  intro n named
  obtain ⟨name, member⟩ := mem_of_key (key_identity table row) named
  exact List.all_eq_true.mp fits n (List.mem_filterMap.mpr ⟨(name, .int n), member, rfl⟩)

theorem fits_effect {tables : List Table} {db left : Database} (fits : db.Fits)
    (effect : Effect tables db left) : left.Fits := by
  intro other
  cases effect with
  | insert within done =>
      obtain ⟨words, rfl, -⟩ := insertRow_ok.mp done
      refine rows_put db _ other _ (fun other new => ∀ row ∈ new, other.Fits row) ?_
        fun other _ => fits other
      intro row member
      rcases List.mem_append.mp member with before | last
      · exact fits _ row before
      · obtain rfl := List.mem_singleton.mp last
        exact fits_of_cells words
  | change within alone steady done =>
      obtain ⟨-, rfl, -⟩ := changeRows_ok.mp done
      refine rows_put db _ other _ (fun other new => ∀ row ∈ new, other.Fits row) ?_
        fun other _ => fits other
      intro row member
      obtain ⟨old, before, rfl⟩ := List.mem_map.mp member
      split
      · rename_i picked
        rw [Table.Fits, steady old picked]
        exact fits _ old before
      · exact fits _ old before
  | delete done =>
      intro row member
      obtain ⟨old, before, rfl⟩ := deleteRows_left done other row member
      rw [Table.Fits, identity_cleared]
      exact fits other old before

theorem reachable_fits {db : Database} (reachable : Reachable db) : db.Fits := by
  refine reachable_keeps ?_ ?_ reachable
  · intro table row member
    cases table <;> cases member
  · intro event db fits
    rcases event_tables event db with same | ⟨write, -, done⟩
    · rwa [same]
    · exact effects_keep fits_effect fits (Write.effects done)

end Guildhall
