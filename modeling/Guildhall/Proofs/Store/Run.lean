import Guildhall.Proofs.Store.Effect

/-!
Runs of any number of callers: each event is a call of a store, or one transaction of a search for a
direct channel, between whose transactions others may act. Databases that a run leaves are
reachable, and all declared constraints hold in them.
-/

namespace Guildhall

open Calendar

inductive Action where
  | call (command : Command)
  | search (finder : Directs.Finder)

structure Event where
  now : DateTime
  action : Action

abbrev Run := List Event

def Write.event (now : DateTime) (write : Write) : Event := ⟨now, .call (.write write)⟩

def noon : DateTime := ⟨⟨2026, 3, 1, 12, 0, 0, 0⟩, some 0⟩

/-- The tables that an event leaves, whether it succeeds or not. -/
def Event.apply (event : Event) (db : Database) : Database :=
  match event.action with
  | .call command => (command.run Catalog.declared event.now db).2
  | .search finder => (finder.step Catalog.declared event.now db).2

def Run.after (run : Run) (db : Database) : Database :=
  run.foldl (fun db event => event.apply db) db

def Reachable (db : Database) : Prop := ∃ run : Run, run.after .empty = db

/-- The later tables come from the earlier ones by what callers did meanwhile. -/
def Later (earlier later : Database) : Prop := ∃ run : Run, run.after earlier = later

@[simp] theorem after_nil (db : Database) : Run.after [] db = db := rfl

@[simp] theorem after_cons (event : Event) (run : Run) (db : Database) :
    Run.after (event :: run) db = Run.after run (event.apply db) := rfl

@[simp] theorem after_append (first second : Run) (db : Database) :
    Run.after (first ++ second) db = Run.after second (Run.after first db) := by
  simp [Run.after]

theorem after_snoc (past : Run) (event : Event) (db : Database) :
    Run.after (past ++ [event]) db = event.apply (Run.after past db) := by
  rw [after_append, after_cons, after_nil]

theorem reachable_after (run : Run) : Reachable (run.after .empty) := ⟨run, rfl⟩

theorem reachable_later {earlier later : Database} (reachable : Reachable earlier)
    (since : Later earlier later) : Reachable later := by
  obtain ⟨past, rfl⟩ := reachable
  obtain ⟨run, rfl⟩ := since
  exact ⟨past ++ run, after_append past run .empty⟩

/-- What holds of the empty database and is kept by every event holds of every reachable one. -/
theorem reachable_keeps {P : Database → Prop} (start : P .empty)
    (step : ∀ (event : Event) (db : Database), P db → P (event.apply db)) {db : Database}
    (reachable : Reachable db) : P db := by
  obtain ⟨run, rfl⟩ := reachable
  exact List.foldlRecOn run _ start fun db kept event _ => step event db kept

namespace Directs.Finder

variable {now : DateTime} {finder : Finder} {db : Database}

/-- Of the transactions of a search only the creation changes anything. -/
theorem step_tables (catalog : Catalog) (now : DateTime) (finder : Finder) (db : Database) :
    (finder.step catalog now db).2 = db ∨
      (finder.phase = .create ∧
        Directs.create catalog (finder.draft now) db = .ok (finder.step catalog now db).2) := by
  unfold step
  cases phase : finder.phase with
  | create =>
      cases created : Directs.create catalog (finder.draft now) db with
      | error failure => simp [transact, created]
      | ok left => simp [transact, created]
  | _ => exact Or.inl rfl

theorem afterLookup_ne_create {outcome : Except Failure (Option DirectChannel)} {absent : Phase}
    (other : absent ≠ .create) : afterLookup outcome absent ≠ .create := by
  unfold afterLookup
  split
  · simp
  · simp
  · exact other

theorem step_phase (catalog : Catalog) (past : finder.phase ≠ .lookup) :
    (finder.step catalog now db).1.phase ≠ .create := by
  unfold step
  cases phase : finder.phase with
  | lookup => exact absurd phase past
  | create =>
      dsimp only
      split
      · simp
      · dsimp only
        split <;> simp
  | lost conflict => exact afterLookup_ne_create (by simp)
  | readBack => exact afterLookup_ne_create (by simp)
  | done outcome =>
      dsimp only
      rw [phase]
      simp

theorem finish_tables (catalog : Catalog) (now : DateTime) (db : Database)
    (fresh : finder.phase = .lookup) :
    (finder.finish catalog now db).2 = db ∨
      Directs.create catalog (finder.draft now) db = .ok (finder.finish catalog now db).2 := by
  obtain ⟨first, second, candidate, phase⟩ := finder
  obtain rfl : phase = .lookup := fresh
  unfold finish
  let looked : Finder := ⟨first, second, candidate,
    afterLookup (between first second db) .create⟩
  change ((looked.step catalog now db).1.step catalog now (looked.step catalog now db).2).2 = db ∨
    Directs.create catalog (looked.draft now) db = .ok
      ((looked.step catalog now db).1.step catalog now (looked.step catalog now db).2).2
  have past : looked.phase ≠ .lookup := by
    simp only [looked, afterLookup]
    split <;> simp
  have last : ((looked.step catalog now db).1.step catalog now (looked.step catalog now db).2).2 =
      (looked.step catalog now db).2 := by
    rcases step_tables catalog now (looked.step catalog now db).1 _ with same | creates
    · exact same
    · exact absurd creates.1 (step_phase catalog past)
  rw [last]
  exact (step_tables catalog now looked db).imp_right And.right

end Directs.Finder

def Write.openDirect (first second candidate : Int) : Write :=
  .createDirect candidate [first, second] DirectKind.pair.code none none

def Event.write? (event : Event) : Option Write :=
  match event.action with
  | .call (.write write) => some write
  | .call (.question _) => none
  | .call (.findOrCreateDirect first second candidate) =>
    some (.openDirect first second candidate)
  | .search finder => some (.openDirect finder.first finder.second finder.candidate)

theorem run_write (write : Write) (now : DateTime) (db : Database) :
    Command.run Catalog.declared now (.write write) db =
      match write.statement Catalog.declared now db with
      | .ok left => (.ok (write.answer db), left)
      | .error failure => (.error failure, db) := by
  simp only [Command.run, transact]
  cases write.statement Catalog.declared now db <;> rfl

theorem statement_of_run {write : Write} {now : DateTime} {db left : Database} {answer : Answer}
    (done : Command.run Catalog.declared now (.write write) db = (.ok answer, left)) :
    write.statement Catalog.declared now db = .ok left := by
  rw [run_write] at done
  cases outcome : write.statement Catalog.declared now db with
  | ok stored =>
      rw [outcome] at done
      cases done
      rfl
  | error failure =>
      rw [outcome] at done
      cases done

theorem event_tables (event : Event) (db : Database) :
    event.apply db = db ∨ ∃ write, event.write? = some write ∧
      write.statement Catalog.declared event.now db = .ok (event.apply db) := by
  obtain ⟨now, action⟩ := event
  cases action with
  | search finder =>
      rcases finder.step_tables Catalog.declared now db with same | created
      · exact Or.inl same
      · exact Or.inr ⟨_, rfl, created.2⟩
  | call command =>
      cases command with
      | question asked => exact Or.inl rfl
      | write change =>
          simp only [Event.apply, Command.run, transact]
          cases done : change.statement Catalog.declared now db with
          | error failure => exact Or.inl rfl
          | ok left => exact Or.inr ⟨change, rfl, done⟩
      | findOrCreateDirect first second candidate =>
          simp only [Event.apply, Command.run, Directs.Finder.start]
          split
          · exact Or.inl rfl
          · rename_i finder started
            split at started
            · cases started
            · cases started
              let finder : Directs.Finder := ⟨first, second, candidate, .lookup⟩
              rcases finder.finish_tables Catalog.declared now db rfl with same | created
              · exact Or.inl same
              · exact Or.inr ⟨_, rfl, created⟩

theorem sound_event (event : Event) {db : Database} (sound : db.Sound Catalog.declared) :
    (event.apply db).Sound Catalog.declared := by
  rcases event_tables event db with same | ⟨write, -, done⟩
  · rwa [same]
  · exact effects_keep sound_effect sound (Write.effects done)

theorem reachable_sound {db : Database} (reachable : Reachable db) :
    db.Sound Catalog.declared :=
  reachable_keeps sound_empty (fun event _ sound => sound_event event sound) reachable

end Guildhall
