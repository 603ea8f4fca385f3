import Guildhall.Store.Query

/-!
Questions that mention words only are answered, and answers stand in the order of their keys.
-/

namespace Guildhall

theorem ask_fits {α : Type} {integers : List Int} (fits : integers.all fitsWord = true)
    (answer : Database → α) (db : Database) : ask integers answer db = .ok (answer db) := by
  simp [ask, demand, fitting, fits]

theorem ask_large {α : Type} {integers : List Int} (large : integers.all fitsWord = false)
    (answer : Database → α) (db : Database) : ask integers answer db = .error .tooLarge := by
  simp [ask, demand, fitting, large]

theorem askRead_fits {α : Type} {integers : List Int} (fits : integers.all fitsWord = true)
    (answer : Database → Except Failure α) (db : Database) :
    askRead integers answer db = answer db := by
  rw [askRead, ask_fits fits]
  rfl

theorem askRead_large {α : Type} {integers : List Int} (large : integers.all fitsWord = false)
    (answer : Database → Except Failure α) (db : Database) :
    askRead integers answer db = .error .tooLarge := by
  rw [askRead, ask_large large]
  rfl

theorem admit_reached {engine : Engine} {others rows : Nat}
    (reached : engine.reaches others rows = true) : engine.allow others rows = .ok () :=
  if_pos reached

theorem admit_missed {engine : Engine} {others rows : Nat}
    (missed : engine.reaches others rows = false) :
    engine.allow others rows = .error Engine.tooManyValues :=
  if_neg (Bool.eq_false_iff.mp missed)

theorem sortBy_perm {α : Type} (order : α → α → Ordering) (rows : List α) :
    (sortBy order rows).Perm rows :=
  List.mergeSort_perm rows _

theorem sortBy_nil {α : Type} (order : α → α → Ordering) : sortBy order [] = [] :=
  List.mergeSort_nil

theorem sortBy_ordered {α : Type} {order : α → α → Ordering} {before : α → α → Prop}
    (orders : ∀ a b, (order a b).isLE = true ↔ before a b)
    (trans : ∀ a b c, before a b → before b c → before a c)
    (total : ∀ a b, before a b ∨ before b a) (rows : List α) :
    (sortBy order rows).Pairwise before := by
  have sorted : (sortBy order rows).Pairwise fun a b => (order a b).isLE = true := by
    refine List.pairwise_mergeSort ?_ ?_ rows
    · intro a b c
      simpa only [orders] using trans a b c
    · intro a b
      simpa only [Bool.or_eq_true, orders] using total a b
  exact sorted.imp (orders _ _).mp

theorem sortBy_map {α β : Type} {order : α → α → Ordering} {other : β → β → Ordering} (f : α → β)
    (alike : ∀ a b, other (f a) (f b) = order a b) (rows : List α) :
    sortBy other (rows.map f) = (sortBy order rows).map f := by
  refine (List.map_mergeSort ?_).symm
  intro a _ b _
  rw [alike]

theorem sortBy_cons {α : Type} {order : α → α → Ordering} [Std.TransCmp order] (row : α)
    (rest : List α) : ∃ before after, sortBy order rest = before ++ after ∧
      before = (sortBy order rest).filter (fun other => !(order row other).isLE) ∧
      after = (sortBy order rest).filter (fun other => (order row other).isLE) ∧
      sortBy order (row :: rest) = before ++ row :: after := by
  have trans : ∀ a b c, (order a b).isLE = true → (order b c).isLE = true →
      (order a c).isLE = true := fun _ _ _ => Std.TransCmp.isLE_trans
  have total : ∀ a b, ((order a b).isLE || (order b a).isLE) = true := by
    intro a b
    rw [@Std.OrientedCmp.eq_swap _ order _ b a]
    cases order a b <;> rfl
  obtain ⟨before, after, whole, others, early⟩ := List.mergeSort_cons trans total row rest
  have sorted := List.pairwise_mergeSort trans total (row :: rest)
  rw [whole] at sorted
  have late := (List.pairwise_cons.mp (List.pairwise_append.mp sorted).2.1).1
  refine ⟨before, after, others, ?_, ?_, whole⟩
  · rw [sortBy, others, List.filter_append, List.filter_eq_self.mpr early,
      List.filter_eq_nil_iff.mpr, List.append_nil]
    intro other member
    simp [late other member]
  · rw [sortBy, others, List.filter_append, List.filter_eq_self.mpr late,
      List.filter_eq_nil_iff.mpr, List.nil_append]
    intro other member
    simpa using early other member

/-- It is the same to choose rows before and after they are sorted. -/
theorem filter_sortBy {α : Type} {order : α → α → Ordering} [Std.TransCmp order]
    (chosen : α → Bool) (rows : List α) :
    (sortBy order rows).filter chosen = sortBy order (rows.filter chosen) := by
  induction rows with
  | nil => simp [sortBy_nil]
  | cons row rest ih =>
      obtain ⟨before, after, others, early, late, whole⟩ := @sortBy_cons _ order _ row rest
      cases picked : chosen row with
      | false =>
          rw [whole, List.filter_cons_of_neg (by simp [picked]), ← ih, others]
          simp [picked]
      | true =>
          obtain ⟨first, last, -, sooner, later, placed⟩ :=
            @sortBy_cons _ order _ row (rest.filter chosen)
          rw [whole, List.filter_cons_of_pos picked, placed, sooner, later, ← ih, early, late]
          simp only [List.filter_append, List.filter_cons_of_pos picked, List.filter_filter,
            Bool.and_comm]

theorem isLE_byTime {α : Type} {time : α → Nat} {rest : α → α → Ordering} {a b : α} :
    (compareLex (compareOn time) rest a b).isLE = true ↔
      time a < time b ∨ time a = time b ∧ (rest a b).isLE = true := by
  simp only [compareLex, compareOn, Ordering.isLE_then_iff_or, Nat.compare_eq_lt,
    Nat.compare_eq_eq]

theorem strictly_byTime {α : Type} {time : α → Nat} {key : α → Int} {rows : List α}
    (ordered : rows.Pairwise fun a b => time a < time b ∨ time a = time b ∧ key a ≤ key b)
    (distinct : (rows.map key).Nodup) :
    rows.Pairwise fun a b => time a < time b ∨ time a = time b ∧ key a < key b := by
  refine (ordered.and (List.pairwise_map.mp distinct)).imp ?_
  rintro a b ⟨before, apart⟩
  omega

theorem ascending_sortBy {α : Type} (key : α → Int) (rows : List α) :
    (sortBy (compareOn key) rows).Pairwise fun a b => key a ≤ key b := by
  have orders : ∀ a b, (compareOn key a b).isLE = true ↔ key a ≤ key b := by
    simp [compareOn, Int.isLE_compare]
  exact sortBy_ordered orders (fun _ _ _ => Int.le_trans) (fun _ _ => Int.le_total _ _) rows

theorem strictly_descending {α : Type} {key : α → Int} {rows : List α}
    (distinct : (rows.map key).Nodup) :
    (sortBy (downward (compareOn key)) rows).Pairwise fun a b => key b < key a := by
  have orders : ∀ a b, (downward (compareOn key) a b).isLE = true ↔ key b ≤ key a := by
    simp [downward, compareOn, Int.isLE_compare]
  have sorted : (sortBy (downward (compareOn key)) rows).Pairwise fun a b => key b ≤ key a :=
    sortBy_ordered orders (by omega) (by omega) rows
  have apart : (sortBy (downward (compareOn key)) rows).Pairwise fun a b => key a ≠ key b :=
    List.pairwise_map.mp (((sortBy_perm _ rows).map key).nodup_iff.mpr distinct)
  refine (sorted.and apart).imp ?_
  intro a b both
  have lower := both.1
  omega

end Guildhall
