import Guildhall.Proofs.Store.Occurrence

/-!
Rows that are kept up to date: under one key stands at most one. It is put in where there is none,
put over where there is one, and at some time it goes.
-/

namespace Guildhall

/-- What is stored under one key, how it is put there, and by what it goes. -/
structure Register (Given Row : Type) where
  rows : Database → List Row
  Puts : Given → Event → Database → Prop
  Ends : Event → Database → Prop
  fresh : Given → Row
  renew : Given → Row → Row

namespace Register

section Kinds

variable {Given Row : Type} (register : Register Given Row)

def Opens (given : Given) (event : Event) (db : Database) : Prop :=
  register.rows db = [] ∧ register.Puts given event db

def PutsAny (event : Event) (db : Database) : Prop := ∃ given, register.Puts given event db

/-- What one event does to the row. -/
inductive Turn (event : Event) (db : Database) : Prop where
  | put {given : Given} (puts : register.Puts given event db) (spared : ¬register.Ends event db)
      (rows : register.rows (event.apply db) =
        [((register.rows db).head?.map (register.renew given)).getD (register.fresh given)])
  | ended (ends : register.Ends event db) (unput : ¬register.PutsAny event db)
      (rows : register.rows (event.apply db) = [])
  | other (unput : ¬register.PutsAny event db) (spared : ¬register.Ends event db)
      (rows : register.rows (event.apply db) = register.rows db)

/-- Of all that was given the first and the last show, and nothing of what came between. -/
structure Lawful : Prop where
  start : register.rows .empty = []
  turn : ∀ (event : Event) {db : Database}, Reachable db → register.Turn event db
  single : ∀ {first second : Given} {event : Event} {db : Database},
    register.Puts first event db → register.Puts second event db → first = second
  renew_fresh : ∀ given, register.renew given (register.fresh given) = register.fresh given
  renew_renew : ∀ later earlier row,
    register.renew later (register.renew earlier row) = register.renew later row

end Kinds

section Laws

variable {Given Row : Type} {register : Register Given Row}

theorem put_of_opened {run : Run} {first : Given}
    (opened : run.Stands (register.Opens first) register.Ends) :
    ∃ last, run.Stands (register.Puts last) register.PutsAny := by
  obtain ⟨before, event, after, split, opens, spared⟩ := opened
  have stands : run.Stands (register.Puts first) register.Ends :=
    ⟨before, event, after, split, opens.2, spared⟩
  exact stands_last stands

variable (lawful : register.Lawful) (run : Run)

include lawful

theorem opened_iff : register.rows (run.after .empty) ≠ [] ↔
    ∃ first, run.Stands (register.Opens first) register.Ends := by
  induction run using List.reverseRecOn with
  | nil => simp [lawful.start, stands_nil]
  | append_singleton past event ih =>
      simp only [after_snoc, stands_snoc]
      cases lawful.turn event (reachable_after past) with
      | put puts spared rows =>
          refine ⟨fun _ => ?_, fun _ => by simp [rows]⟩
          by_cases empty : register.rows (Run.after past .empty) = []
          · exact ⟨_, Or.inl ⟨empty, puts⟩⟩
          · obtain ⟨first, stands⟩ := ih.mp empty
            exact ⟨first, Or.inr ⟨stands, spared⟩⟩
      | ended ends unput rows =>
          refine ⟨fun present => absurd rows present, ?_⟩
          rintro ⟨first, opens | stands⟩
          · exact absurd ⟨first, opens.2⟩ unput
          · exact absurd ends stands.2
      | other unput spared rows =>
          rw [rows, ih]
          refine exists_congr fun first => ⟨fun stands => Or.inr ⟨stands, spared⟩, ?_⟩
          rintro (opens | stands)
          · exact absurd ⟨first, opens.2⟩ unput
          · exact stands.1

/-- The row shows what was given first and what was given last. -/
theorem rows_opened {first last : Given}
    (opened : run.Stands (register.Opens first) register.Ends)
    (put : run.Stands (register.Puts last) register.PutsAny) :
    register.rows (run.after .empty) = [register.renew last (register.fresh first)] := by
  induction run using List.reverseRecOn generalizing last with
  | nil => exact absurd opened stands_nil
  | append_singleton past event ih =>
      rw [stands_snoc] at opened put
      rw [after_snoc]
      cases lawful.turn event (reachable_after past) with
      | @put given puts spared rows =>
          obtain rfl : last = given := by
            rcases put with puts' | ⟨-, unput⟩
            · exact lawful.single puts' puts
            · exact absurd ⟨given, puts⟩ unput
          rcases opened with ⟨empty, opens⟩ | ⟨stands, -⟩
          · obtain rfl := lawful.single opens puts
            simp [rows, empty, lawful.renew_fresh]
          · -- What was given in between is put over once more and leaves no trace.
            obtain ⟨middle, before⟩ := put_of_opened stands
            simp [rows, ih stands before, lawful.renew_renew]
      | ended ends unput rows =>
          rcases opened with opens | stands
          · exact absurd ⟨first, opens.2⟩ unput
          · exact absurd ends stands.2
      | other unput spared rows =>
          rcases opened with opens | ⟨stands, -⟩
          · exact absurd ⟨first, opens.2⟩ unput
          rcases put with puts | ⟨before, -⟩
          · exact absurd ⟨last, puts⟩ unput
          · rw [rows, ih stands before]

theorem row_iff {row : Row} : row ∈ register.rows (run.after .empty) ↔
    ∃ first last, run.Stands (register.Opens first) register.Ends ∧
      run.Stands (register.Puts last) register.PutsAny ∧
      row = register.renew last (register.fresh first) := by
  constructor
  · intro member
    obtain ⟨first, opened⟩ := (opened_iff lawful run).mp (List.ne_nil_of_mem member)
    obtain ⟨last, put⟩ := put_of_opened opened
    rw [rows_opened lawful run opened put, List.mem_singleton] at member
    exact ⟨first, last, opened, put, member⟩
  · rintro ⟨first, last, opened, put, rfl⟩
    simp [rows_opened lawful run opened put]

theorem rows_short : (register.rows (run.after .empty)).length ≤ 1 := by
  by_cases empty : register.rows (run.after .empty) = []
  · simp [empty]
  · obtain ⟨first, opened⟩ := (opened_iff lawful run).mp empty
    obtain ⟨last, put⟩ := put_of_opened opened
    simp [rows_opened lawful run opened put]

theorem gone_iff (event : Event) (present : register.rows (run.after .empty) ≠ []) :
    register.rows (event.apply (run.after .empty)) = [] ↔
      register.Ends event (run.after .empty) := by
  cases lawful.turn event (reachable_after run) with
  | put puts spared rows => simp [rows, spared]
  | ended ends unput rows => simp [rows, ends]
  | other unput spared rows => simp [rows, spared, present]

end Laws

end Register

end Guildhall
