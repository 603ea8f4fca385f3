import Guildhall.Proofs.Store.Retrieval
import Guildhall.Proofs.Store.Batch
import Mathlib.Data.List.Perm.Basic

/-!
Tables that have the same rows in another order. An order that tells rows apart lists them alike,
and a key that one row has at most finds the same row.
-/

namespace Guildhall

/-- Every table has the same rows, in whatever order they were written. -/
def Database.SameRows (a b : Database) : Prop :=
  ∀ (table : Table) (row : table.Row), row ∈ a.rows table ↔ row ∈ b.rows table

theorem rows_nodup {db : Database} (sound : db.Sound Catalog.declared) (table : Table) :
    (db.rows table).Nodup := by
  refine (sound.primaryKeys table).imp ?_
  rintro a b apart rfl
  rw [sameKey_identity.mpr rfl] at apart
  cases apart

section Lists

variable {α : Type} {rows others : List α}

instance downward_trans {order : α → α → Ordering} [Std.TransCmp order] :
    Std.TransCmp (downward order) :=
  @Std.TransCmp.opposite _ order _

theorem sortBy_isLE (order : α → α → Ordering) [Std.TransCmp order] (rows : List α) :
    (sortBy order rows).Pairwise fun a b => (order a b).isLE = true := by
  refine sortBy_ordered (fun a b => Iff.rfl) (fun a b c => Std.TransCmp.isLE_trans) ?_ rows
  intro a b
  have swapped : order b a = (order a b).swap := Std.OrientedCmp.eq_swap
  rw [swapped]
  cases order a b <;> simp

/-- Where the order takes none of the rows for another one it leaves them one way to stand. -/
theorem sortBy_perm_eq {order : α → α → Ordering} [Std.TransCmp order] (perm : rows.Perm others)
    (tells : ∀ a ∈ rows, ∀ b ∈ rows, order a b = .eq → a = b) :
    sortBy order rows = sortBy order others := by
  have sorted : (sortBy order rows).Perm (sortBy order others) :=
    (sortBy_perm order rows).trans (perm.trans (sortBy_perm order others).symm)
  refine sorted.eq_of_pairwise ?_ (sortBy_isLE order rows) (sortBy_isLE order others)
  intro a b first second before after
  have left := (sortBy_perm order rows).mem_iff.mp first
  have right := perm.mem_iff.mpr ((sortBy_perm order others).mem_iff.mp second)
  exact tells a left b right (Std.OrientedCmp.isLE_antisymm before after)

theorem filter_perm_eq {chosen : α → Bool} (perm : rows.Perm others)
    (alone : ∀ a ∈ rows, ∀ b ∈ rows, chosen a = true → chosen b = true → a = b) :
    rows.filter chosen = others.filter chosen := by
  have paired : ∀ rows : List α, rows.Pairwise fun _ _ => True :=
    fun rows => List.pairwise_of_forall fun _ _ => trivial
  refine (perm.filter chosen).eq_of_pairwise ?_ (paired _) (paired _)
  intro a b first second _ _
  obtain ⟨here, pickedFirst⟩ := List.mem_filter.mp first
  obtain ⟨there, pickedSecond⟩ := List.mem_filter.mp second
  exact alone a here b (perm.mem_iff.mpr there) pickedFirst pickedSecond

end Lists

/-- Two databases in which all constraints hold, with the same rows. -/
structure Twins (a b : Database) : Prop where
  first : a.Sound Catalog.declared
  second : b.Sound Catalog.declared
  same : a.SameRows b

namespace Twins

variable {a b : Database} (twins : Twins a b)

include twins

theorem perm (table : Table) : (a.rows table).Perm (b.rows table) :=
  (List.perm_ext_iff_of_nodup (rows_nodup twins.first table) (rows_nodup twins.second table)).mpr
    (twins.same table)

theorem sorted (table : Table) (order : table.Row → table.Row → Ordering) [Std.TransCmp order]
    {chosen : table.Row → Bool}
    (tells : ∀ r s, chosen r = true → chosen s = true → order r s = .eq →
      table.identity r = table.identity s) :
    sortBy order ((a.rows table).filter chosen) = sortBy order ((b.rows table).filter chosen) := by
  refine sortBy_perm_eq ((twins.perm table).filter chosen) ?_
  intro r first s second same
  obtain ⟨here, pickedFirst⟩ := List.mem_filter.mp first
  obtain ⟨there, pickedSecond⟩ := List.mem_filter.mp second
  exact eq_of_identity twins.first here there (tells r s pickedFirst pickedSecond same)

theorem joined (table target : Table) (order : target.Row → target.Row → Ordering)
    [Std.TransCmp order] {chosen : table.Row → Bool} {names : table.Row → target.Row → Bool}
    (tells : ∀ r s, order r s = .eq → target.identity r = target.identity s) :
    sortBy order (((a.rows table).filter chosen).flatMap fun row =>
        (a.rows target).filter (names row)) =
      sortBy order (((b.rows table).filter chosen).flatMap fun row =>
        (b.rows target).filter (names row)) := by
  refine sortBy_perm_eq (((twins.perm table).filter chosen).flatMap fun row _ =>
    (twins.perm target).filter (names row)) ?_
  have stored : ∀ r ∈ ((a.rows table).filter chosen).flatMap (fun row =>
      (a.rows target).filter (names row)), r ∈ a.rows target := by
    intro r member
    obtain ⟨row, -, named⟩ := List.mem_flatMap.mp member
    exact (List.mem_filter.mp named).1
  intro r first s second same
  exact eq_of_identity twins.first (stored r first) (stored s second) (tells r s same)

theorem keyed (table : Table) {chosen : table.Row → Bool} (identity : List Cell)
    (picks : ∀ row, chosen row = true → table.identity row = identity) :
    (a.rows table).filter chosen = (b.rows table).filter chosen := by
  refine filter_perm_eq (twins.perm table) ?_
  intro r first s second pickedFirst pickedSecond
  exact eq_of_identity twins.first first second
    ((picks r pickedFirst).trans (picks s pickedSecond).symm)

theorem found (table : Table) {chosen : table.Row → Bool} (identity : List Cell)
    (picks : ∀ row, chosen row = true → table.identity row = identity) :
    (a.rows table).find? chosen = (b.rows table).find? chosen := by
  rw [← List.head?_filter, ← List.head?_filter, twins.keyed table identity picks]

theorem any (table : Table) (chosen : table.Row → Bool) :
    (a.rows table).any chosen = (b.rows table).any chosen :=
  (twins.perm table).any_eq

end Twins

end Guildhall
