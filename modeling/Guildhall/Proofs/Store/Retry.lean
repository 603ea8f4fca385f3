import Guildhall.Proofs.Store.Repetition
import Guildhall.Proofs.Store.Removal
import Guildhall.Proofs.Directs.Lookup

/-!
Calls that are made once more. A caller who does not know whether a call has gone through may
repeat it: where it had succeeded it succeeds again, and the tables stay as the first call left
them. The channel between two users is found again by either of them.
-/

namespace Guildhall

open Calendar

namespace Directs

variable {db : Database} {a b : Int}

theorem oldest_unique (sound : db.Sound Catalog.declared) {first second : DirectChannelRow}
    (oldest : Oldest db first a b) (also : Oldest db second b a) : first = second := by
  have upper := oldest.least second (shares_comm also.shares)
  have lower := also.least first (shares_comm oldest.shares)
  exact same_of_id sound oldest.shares.stored also.shares.stored (Int.le_antisymm upper lower)

theorem oldest_of_answer {id : Int} {now : DateTime} {answer : Answer} {left : Database}
    (sound : db.Sound Catalog.declared)
    (done : Command.run Catalog.declared now (.findOrCreateDirect a b id) db = (.ok answer, left)) :
    a ≠ b ∧ (fitsWord a = true ∧ fitsWord b = true) ∧ left.Sound Catalog.declared ∧
      ∃ row, Oldest left row a b ∧ answer = .entity (some (.direct (shown left row))) := by
  have apart : a ≠ b := by
    rintro rfl
    simp [Command.run, Finder.start] at done
  rw [findOrCreate_run apart] at done
  by_cases fits : fitsWord a = true ∧ fitsWord b = true
  · refine ⟨apart, fits, ?_⟩
    rcases between_cases db fits.1 fits.2 with ⟨looked, alone⟩ | ⟨row, oldest, looked⟩
    · cases opened : create Catalog.declared (opening a b id now) db with
      | error failure =>
          rw [Finder.finish_refused looked opened] at done
          cases done
      | ok later =>
          rw [Finder.finish_opened sound looked opened] at done
          cases done
          have created := created_opening opened
          refine ⟨sound_create sound opened, _, ⟨shares_opening sound created,
            fun other also => ?_⟩, rfl⟩
          rcases shares_opened created also with before | rfl
          · exact absurd before (alone other)
          · exact Int.le_refl _
    · rw [Finder.finish_found looked] at done
      cases done
      exact ⟨sound, row, oldest, rfl⟩
  · rw [Finder.finish_large fits] at done
    cases done

/-- Whoever of the two asks next, and with whatever identifier for a new channel, is answered the
same one, and nothing changes. -/
theorem findOrCreate_again {id : Int} {now : DateTime} {answer : Answer} {left : Database}
    (sound : db.Sound Catalog.declared)
    (done : Command.run Catalog.declared now (.findOrCreateDirect a b id) db = (.ok answer, left))
    (other : Int) (later : DateTime) :
    Command.run Catalog.declared later (.findOrCreateDirect b a other) left =
      (.ok answer, left) := by
  obtain ⟨apart, fits, soundLeft, row, oldest, rfl⟩ := oldest_of_answer sound done
  rcases between_cases left fits.2 fits.1 with ⟨-, alone⟩ | ⟨found, also, looked⟩
  · exact absurd (shares_comm oldest.shares) (alone row)
  · rw [findOrCreate_run apart.symm, Finder.finish_found looked,
      oldest_unique soundLeft oldest also]
    rfl

end Directs

/-- A repeatable write that has succeeded succeeds again, and a direct channel that was found or
created is found; neither changes anything. -/
theorem retry_changes_nothing (past : Run) (now : DateTime) :
    let db := past.after .empty
    (∀ write : Write, write.Repeatable → ∀ answer left,
      Command.run Catalog.declared now (.write write) db = (.ok answer, left) →
        Command.run Catalog.declared now (.write write) left = (.ok (write.answer left), left)) ∧
    ∀ first second candidate answer left,
      Command.run Catalog.declared now (.findOrCreateDirect first second candidate) db =
          (.ok answer, left) →
        ∀ other later,
          Command.run Catalog.declared later (.findOrCreateDirect second first other) left =
            (.ok answer, left) := by
  intro db
  have sound : db.Sound Catalog.declared := reachable_sound (reachable_after past)
  refine ⟨fun write repeatable answer left done => ?_, fun first second candidate answer left done
    other later => Directs.findOrCreate_again sound done other later⟩
  have outcome := statement_of_run done
  have soundLeft := effects_keep sound_effect sound (Write.effects outcome)
  rw [run_write, write.repeats repeatable now soundLeft outcome]

theorem settled_retries :
    let db := settled.after .empty
    let call := fun (command : Command) (db : Database) =>
      Command.run Catalog.declared noon command db
    let asked := call (.findOrCreateDirect 1 2 60) db
    let gone := call (.write (.deleteMember 10 2)) db
    asked.1.isOk = true ∧ gone.1 = .ok .done ∧
    call (.findOrCreateDirect 2 1 61) asked.2 = asked ∧
    call (.write (.deleteMember 10 2)) gone.2 = gone := by
  intro db call asked gone
  have found : asked.1.isOk = true := by decide +kernel
  have removed : gone.1 = .ok .done := by decide +kernel
  obtain ⟨repeated, foundAgain⟩ := retry_changes_nothing settled noon
  refine ⟨found, removed, ?_, ?_⟩
  · cases outcome : asked.1 with
    | error failure =>
        rw [outcome] at found
        cases found
    | ok answer =>
        have done : asked = (.ok answer, asked.2) := Prod.ext outcome rfl
        exact (foundAgain 1 2 60 answer asked.2 done 61 noon).trans done.symm
  · have done : gone = (.ok .done, gone.2) := Prod.ext removed rfl
    exact (repeated (.deleteMember 10 2) trivial .done gone.2 done).trans done.symm

end Guildhall
