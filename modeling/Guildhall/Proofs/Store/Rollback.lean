import Guildhall.Proofs.Directs.Creation
import Guildhall.Store.Storage

/-!
Failure leaves no trace: a call that fails, and a transaction that any of its statements ends, leave
the tables as they were before.
-/

namespace Guildhall

open Calendar

/-- Migrations end in the tables that are declared. -/
theorem catalog_declared (origin : Origin) : origin.catalog = Catalog.declared := by
  cases origin with
  | declared => rfl
  | migrated =>
      funext table
      cases table <;> rfl

theorem transact_error {statement : Statement} {db : Database} {failure : Failure}
    (raised : statement db = .error failure) : transact statement db = (.error failure, db) := by
  rw [transact, raised]

theorem inOrder_append (first second : List Statement) (db : Database) :
    inOrder (first ++ second) db = (inOrder first db).bind (inOrder second) :=
  List.foldlM_append

theorem inOrder_raises {done rest : List Statement} {raising : Statement} {db middle : Database}
    {failure : Failure} (before : inOrder done db = .ok middle)
    (raised : raising middle = .error failure) :
    inOrder (done ++ raising :: rest) db = .error failure := by
  rw [inOrder_append, before]
  change (raising middle).bind (inOrder rest) = .error failure
  rw [raised]
  rfl

namespace Directs

theorem create_raises {catalog : Catalog} {draft : Draft} {key : Option String}
    {before after : List Int} {userId : Int} {db middle : Database} {failure : Failure}
    (named : draft.pairKey? = .ok key) (recipients : draft.recipients = before ++ userId :: after)
    (started : inOrder (insertRow catalog .directChannels (draft.row key) ::
      before.map fun userId => insertRow catalog .recipients ⟨draft.id, userId⟩) db = .ok middle)
    (raised : insertRow catalog .recipients ⟨draft.id, userId⟩ middle = .error failure) :
    create catalog draft db = .error failure := by
  rw [create, named]
  change inOrder (draft.statements catalog key) db = .error failure
  rw [Draft.statements, recipients, List.map_append, List.map_cons, ← List.cons_append]
  exact inOrder_raises started raised

theorem Finder.answer_error {finder : Finder} {failure : Failure} :
    finder.answer = .error failure ↔ finder.phase = .done (.error failure) := by
  unfold Finder.answer
  split
  · rename_i outcome ended
    cases outcome <;> simp [ended, Except.map]
  · rename_i going
    simp only [reduceCtorEq, false_iff]
    exact going _

theorem Finder.finish_raises {now : DateTime} {finder : Finder} {db : Database}
    {failure : Failure} (fresh : finder.phase = .lookup)
    (raised : (finder.finish Catalog.declared now db).1.phase = .done (.error failure)) :
    (finder.finish Catalog.declared now db).2 = db := by
  obtain ⟨first, second, candidate, phase⟩ := finder
  obtain rfl : phase = .lookup := fresh
  cases looked : between first second db with
  | error failure => simp [finish, step, afterLookup, looked]
  | ok found =>
      cases found with
      | some channel => simp [finish, step, afterLookup, looked]
      | none =>
          cases created : create Catalog.declared
              (Finder.draft ⟨first, second, candidate, .create⟩ now) db with
          | error failure =>
              let finder : Finder := ⟨first, second, candidate, .lookup⟩
              rcases finder.finish_tables Catalog.declared now db rfl with same | creates
              · exact same
              · exact absurd (created.symm.trans creates) (by simp)
          | ok left =>
              obtain ⟨channel, readable⟩ := find_created rfl created
              change find candidate left = .ok (some channel) at readable
              simp [finish, step, afterLookup, looked, transact, created, readable] at raised

end Directs

theorem Command.run_raises {command : Command} {now : DateTime} {db : Database}
    {failure : Failure} (raised : (command.run Catalog.declared now db).1 = .error failure) :
    (command.run Catalog.declared now db).2 = db := by
  cases command with
  | question asked => rfl
  | write change =>
      simp only [run, transact] at raised ⊢
      cases done : change.statement Catalog.declared now db with
      | error failure => rfl
      | ok left =>
          rw [done] at raised
          cases raised
  | findOrCreateDirect first second candidate =>
      simp only [run, Directs.Finder.start] at raised ⊢
      by_cases same : first = second
      · simp only [if_pos same]
      · simp only [if_neg same] at raised ⊢
        exact Directs.Finder.finish_raises rfl (Directs.Finder.answer_error.mp raised)

theorem Storage.attempt_raises {α : Type} {first : Table}
    {act : Catalog → Database → Except Failure α × Database} {storage : Storage}
    {failure : Failure}
    (traceless : ∀ (db : Database) (failure : Failure),
      (act Catalog.declared db).1 = .error failure → (act Catalog.declared db).2 = db)
    (raised : (storage.attempt first act).1 = .error failure) :
    (storage.attempt first act).2 = storage := by
  obtain ⟨tables, versioned⟩ := storage
  cases tables with
  | none =>
      simp only [attempt]
      split <;> rfl
  | some tables =>
      simp only [attempt, catalog_declared] at raised ⊢
      rw [traceless tables.contents failure raised]

theorem Storage.run_raises {storage : Storage} {now : DateTime} {command : Command}
    {failure : Failure} (raised : (storage.run now command).1 = .error failure) :
    (storage.run now command).2 = storage :=
  attempt_raises (fun _ _ => Command.run_raises) raised

/-- Failure leaves the tables as they were: after a call, at any statement of a transaction, and at
any recipient of a direct channel that is created. -/
theorem failure_leaves_tables :
    (∀ (storage : Storage) (now : DateTime) (command : Command) (failure : Failure),
      (storage.run now command).1 = .error failure → (storage.run now command).2 = storage) ∧
    (∀ (done rest : List Statement) (raising : Statement) (db middle : Database)
      (failure : Failure), inOrder done db = .ok middle → raising middle = .error failure →
        transact (inOrder (done ++ raising :: rest)) db = (.error failure, db)) ∧
    (∀ (catalog : Catalog) (draft : Directs.Draft) (key : Option String) (before after : List Int)
      (userId : Int) (db middle : Database) (failure : Failure),
      draft.pairKey? = .ok key → draft.recipients = before ++ userId :: after →
      inOrder (insertRow catalog .directChannels (draft.row key) ::
        before.map fun userId => insertRow catalog .recipients ⟨draft.id, userId⟩) db =
          .ok middle →
      insertRow catalog .recipients ⟨draft.id, userId⟩ middle = .error failure →
        transact (Directs.create catalog draft) db = (.error failure, db)) := by
  refine ⟨?_, ?_, ?_⟩
  · intro storage now command failure raised
    exact Storage.run_raises raised
  · intro done rest raising db middle failure before raised
    exact transact_error (inOrder_raises before raised)
  · intro catalog draft key before after userId db middle failure named recipients started raised
    exact transact_error (Directs.create_raises named recipients started raised)

def owned : Database :=
  { users := [⟨1, "ada", "Ada", none, "", noon.wall⟩]
    guilds := [⟨10, "guild", none, 1, noon.wall⟩]
    members := [⟨10, 1, none, noon.wall⟩] }

theorem owned_unchanged :
    let storage : Storage := ⟨some ⟨.migrated, owned⟩, true⟩
    let drop := deleteRows Catalog.declared .members [10] (fun row => row.guildId = 10)
    let group : Directs.Draft := ⟨20, [1, 1, 2], DirectKind.group.code, none, noon⟩
    (storage.run noon (.write (.deleteUser 1))).1 = .error (.store .noTarget) ∧
    (storage.run noon (.write (.deleteUser 1))).2 = storage ∧
    transact (inOrder [drop, fun _ => .error (.abandoned "stop")]) owned =
      (.error (.abandoned "stop"), owned) ∧
    transact (Directs.create Catalog.declared group) owned =
      (.error (.store (.duplicate "dm_recipients.channel_id, dm_recipients.user_id")), owned) := by
  intro storage drop group
  obtain ⟨calls, blocks, creations⟩ := failure_leaves_tables
  refine ⟨rfl, calls _ _ _ _ rfl, ?_, ?_⟩
  · exact blocks [drop] [] _ owned { owned with members := [] } _ rfl rfl
  · exact creations Catalog.declared group none [1] [2] 1 owned
      { owned with
        directChannels := [group.row none]
        recipients := [⟨20, 1⟩] } _ rfl rfl rfl rfl

end Guildhall
