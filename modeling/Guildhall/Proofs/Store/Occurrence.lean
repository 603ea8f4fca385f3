import Guildhall.Proofs.Store.Run
import Mathlib.Data.List.Induction

/-!
What happens in a run: events that carry out a write, events of a kind that a run sees, and events
of one kind after which none of another kind came.
-/

namespace Guildhall

def Event.Does (event : Event) (write : Write) (db : Database) : Prop :=
  event.action = .call (.write write) ∧
    ∃ answer left, Command.run Catalog.declared event.now (.write write) db = (.ok answer, left)

section Events

variable {event : Event} {write : Write} {db : Database}

theorem Event.does_iff {event : Event} {write : Write} {db : Database} :
    event.Does write db ↔ event.action = .call (.write write) ∧
      write.statement Catalog.declared event.now db = .ok (event.apply db) := by
  refine and_congr_right fun called => ?_
  rw [Event.apply, called]
  dsimp only
  rw [run_write]
  cases write.statement Catalog.declared event.now db with
  | ok left => simp
  | error failure => simp

theorem apply_called (called : event.action = .call (.write write)) (db : Database) :
    event.Does write db ∨
      (∃ failure, write.statement Catalog.declared event.now db = .error failure) ∧
        event.apply db = db ∧ ∀ other, ¬event.Does other db := by
  rw [Event.does_iff]
  cases outcome : write.statement Catalog.declared event.now db with
  | ok left =>
      refine Or.inl ⟨called, ?_⟩
      simp [Event.apply, called, run_write, outcome]
  | error failure =>
      refine Or.inr ⟨⟨failure, rfl⟩, by simp [Event.apply, called, run_write, outcome], ?_⟩
      rintro other does
      obtain ⟨same, done⟩ := Event.does_iff.mp does
      rw [called] at same
      cases same
      cases outcome.symm.trans done

theorem does_only {other : Write} (called : event.action = .call (.write write))
    (does : event.Does other db) : other = write := by
  have same := does.1
  rw [called] at same
  cases same
  rfl

end Events

/-- Some event of the run is as the condition says of it and the tables that it finds. -/
def Run.Sees (run : Run) (db : Database) (condition : Event → Database → Prop) : Prop :=
  ∃ before event after, run = before ++ event :: after ∧ condition event (Run.after before db)

/-- An event of the one kind came, and none of the other kind since. -/
def Run.Stands (run : Run) (cause ended : Event → Database → Prop) : Prop :=
  ∃ before event after, run = before ++ event :: after ∧ cause event (Run.after before .empty) ∧
    ¬Run.Sees after (Run.after (before ++ [event]) .empty) ended

section Seeing

variable {run : Run} {event : Event} {db : Database} {condition : Event → Database → Prop}

theorem sees_nil : ¬Run.Sees [] db condition := by
  rintro ⟨before, event, after, split, -⟩
  simp at split

theorem sees_snoc : Run.Sees (run ++ [event]) db condition ↔
    run.Sees db condition ∨ condition event (run.after db) := by
  constructor
  · rintro ⟨before, other, after, split, holds⟩
    rcases List.eq_nil_or_concat after with rfl | ⟨rest, last, rfl⟩
    · obtain ⟨rfl, same⟩ := List.append_inj' split rfl
      cases same
      exact Or.inr holds
    · rw [List.concat_eq_append, ← List.cons_append, ← List.append_assoc] at split
      obtain ⟨same, -⟩ := List.append_inj' split rfl
      exact Or.inl ⟨before, other, rest, same, holds⟩
  · rintro (⟨before, other, after, rfl, holds⟩ | holds)
    · exact ⟨before, other, after ++ [event], by simp, holds⟩
    · exact ⟨run, event, [], rfl, holds⟩

end Seeing

section Standing

variable {run : Run} {event : Event} {cause ended : Event → Database → Prop}

theorem stands_nil : ¬Run.Stands [] cause ended := by
  rintro ⟨before, event, after, split, -⟩
  simp at split

theorem stands_snoc : Run.Stands (run ++ [event]) cause ended ↔
    cause event (run.after .empty) ∨
      run.Stands cause ended ∧ ¬ended event (run.after .empty) := by
  constructor
  · rintro ⟨before, first, after, split, causes, spared⟩
    rcases List.eq_nil_or_concat after with rfl | ⟨rest, last, rfl⟩
    · obtain ⟨rfl, same⟩ := List.append_inj' split rfl
      cases same
      exact Or.inl causes
    · rw [List.concat_eq_append, ← List.cons_append, ← List.append_assoc] at split
      obtain ⟨rfl, same⟩ := List.append_inj' split rfl
      cases same
      rw [List.concat_eq_append, sees_snoc, not_or] at spared
      refine Or.inr ⟨⟨before, first, rest, rfl, causes, spared.1⟩, ?_⟩
      simpa using spared.2
  · rintro (causes | ⟨⟨before, first, after, rfl, causes, spared⟩, survives⟩)
    · exact ⟨run, event, [], rfl, causes, sees_nil⟩
    · refine ⟨before, first, after ++ [event], by simp, causes, ?_⟩
      rw [sees_snoc, not_or]
      refine ⟨spared, ?_⟩
      simpa using survives

/-- Where events of some kinds came, one of them came last. -/
theorem stands_last {α : Type} {kind : α → Event → Database → Prop} {start : α}
    (stands : run.Stands (kind start) ended) :
    ∃ last, run.Stands (kind last) fun event db => ∃ other, kind other event db := by
  induction run using List.reverseRecOn with
  | nil => exact absurd stands stands_nil
  | append_singleton past event ih =>
      by_cases again : ∃ other, kind other event (Run.after past .empty)
      · obtain ⟨last, causes⟩ := again
        exact ⟨last, stands_snoc.mpr (Or.inl causes)⟩
      · rcases stands_snoc.mp stands with causes | ⟨before, -⟩
        · exact absurd ⟨start, causes⟩ again
        · obtain ⟨last, stood⟩ := ih before
          exact ⟨last, stands_snoc.mpr (Or.inr ⟨stood, again⟩)⟩

end Standing

end Guildhall
