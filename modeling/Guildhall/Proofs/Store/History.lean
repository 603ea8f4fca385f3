import Guildhall.Proofs.Store.Run
import Mathlib.Data.List.Induction

/-!
What has held ever since an event. A condition that only one kind of event brings about holds after
a run exactly if such an event came and the condition has not been interrupted since.
-/

namespace Guildhall

def Since (past : Run) (cause : Event → Database → Prop) (P : Database → Prop) : Prop :=
  ∃ before event after, past = before ++ event :: after ∧
    cause event (Run.after before .empty) ∧
    ∀ later, later <+: after → P (Run.after (before ++ event :: later) .empty)

variable {cause : Event → Database → Prop} {P : Database → Prop}

theorem since_holds {past : Run} (since : Since past cause P) : P (past.after .empty) := by
  obtain ⟨before, event, after, rfl, -, holding⟩ := since
  exact holding after List.prefix_rfl

theorem since_begins {past : Run} {event : Event} (causes : cause event (past.after .empty))
    (holds : P (event.apply (past.after .empty))) : Since (past ++ [event]) cause P := by
  refine ⟨past, event, [], rfl, causes, fun later early => ?_⟩
  obtain rfl := List.prefix_nil.mp early
  rwa [after_snoc]

theorem since_continues {past : Run} {event : Event} (since : Since past cause P)
    (holds : P (event.apply (past.after .empty))) : Since (past ++ [event]) cause P := by
  obtain ⟨before, first, after, rfl, causes, holding⟩ := since
  refine ⟨before, first, after ++ [event], by simp, causes, fun later early => ?_⟩
  rcases List.prefix_concat_iff.mp early with rfl | earlier
  · rw [← after_snoc] at holds
    simpa using holds
  · exact holding later earlier

theorem since_iff (start : ¬P .empty)
    (step : ∀ (event : Event) (db : Database), Reachable db → P (event.apply db) →
      P db ∨ cause event db)
    (past : Run) : P (past.after .empty) ↔ Since past cause P := by
  refine ⟨fun holds => ?_, since_holds⟩
  induction past using List.reverseRecOn with
  | nil => exact absurd holds start
  | append_singleton past event ih =>
      rw [after_snoc] at holds
      rcases step event _ (reachable_after past) holds with before | causes
      · exact since_continues (ih before) holds
      · exact since_begins causes holds

end Guildhall
