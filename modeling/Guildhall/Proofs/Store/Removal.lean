import Guildhall.Proofs.Store.Cascade
import Guildhall.Proofs.Store.Word

/-!
The calls that delete users, guilds, members, roles, channels and messages: each leaves the tables
without exactly the rows that fall with the named one, and only the owner of a guild is kept.
-/

namespace Guildhall

open Calendar

inductive Removal where
  | user (id : Int)
  | guild (id : Int)
  | member (guildId userId : Int)
  | role (id : Int)
  | channel (id : Int)
  | message (id : Int)

namespace Removal

def write : Removal → Write
  | user id => .deleteUser id
  | guild id => .deleteGuild id
  | member guildId userId => .deleteMember guildId userId
  | role id => .deleteRole id
  | channel id => .deleteChannel id
  | message id => .deleteMessage id

@[reducible] def table : Removal → Table
  | user _ => .users
  | guild _ => .guilds
  | member .. => .members
  | role _ => .roles
  | channel _ => .channels
  | message _ => .messages

def chosen : (removal : Removal) → removal.table.Row → Bool
  | user id, row => row.id = id
  | guild id, row => row.id = id
  | member guildId userId, row => row.guildId = guildId && row.userId = userId
  | role id, row => row.id = id
  | channel id, row => row.id = id
  | message id, row => row.id = id

def integers : Removal → List Int
  | user id | guild id | role id | channel id | message id => [id]
  | member guildId userId => [guildId, userId]

theorem statement_write (removal : Removal) (now : DateTime) :
    removal.write.statement Catalog.declared now =
      deleteRows Catalog.declared removal.table removal.integers removal.chosen := by
  cases removal <;> rfl

theorem answer_write (removal : Removal) (db : Database) : removal.write.answer db = .done := by
  cases removal <;> rfl

/-- The call names a user who owns a guild. -/
def HitsOwner (removal : Removal) (db : Database) : Prop :=
  ∃ id, removal = .user id ∧ ∃ guild ∈ db.guilds, guild.ownerId = id

end Removal

open scoped Classical in
/-- The later tables are the earlier ones without the rows that fall. Channels have lost a parent
that fell, direct channels an owner who fell, and nothing else has changed. -/
structure Cascaded (table : Table) (chosen : table.Row → Bool) (db left : Database) : Prop where
  channels : left.channels =
    (db.channels.filter fun row => ¬Falls Catalog.declared db table chosen .channels row).map
      fun row =>
        if ∃ parent, Falls Catalog.declared db table chosen .channels parent ∧
            row.parentId = some parent.id then
          { row with parentId := none }
        else row
  directChannels : left.directChannels =
    (db.directChannels.filter fun row =>
      ¬Falls Catalog.declared db table chosen .directChannels row).map
      fun row =>
        if ∃ owner, Falls Catalog.declared db table chosen .users owner ∧
            row.ownerId = some owner.id then
          { row with ownerId := none }
        else row
  others : ∀ other, other ≠ .channels → other ≠ .directChannels → left.rows other =
    (db.rows other).filter fun row => ¬Falls Catalog.declared db table chosen other row

section Outcome

variable {table : Table} {integers : List Int} {chosen : table.Row → Bool} {db left : Database}

theorem cascaded_deleteRows
    (done : deleteRows Catalog.declared table integers chosen db = .ok left) :
    Cascaded table chosen db left := by
  classical
  have rows := deleteRows_rows done
  have kept : ∀ other, (Deletion.complete Catalog.declared table chosen db).kept.rows other =
      (db.rows other).filter fun row => ¬Falls Catalog.declared db table chosen other row :=
    Deletion.kept_eq_filter orderly_declared
  have gone : ∀ (other : Table) (row : other.Row),
      row ∈ (Deletion.complete Catalog.declared table chosen db).gone.rows other ↔
        Falls Catalog.declared db table chosen other row := Deletion.gone_iff_falls orderly_declared
  refine ⟨?_, ?_, fun other channels directs => ?_⟩
  · have here := rows .channels
    rw [kept] at here
    refine here.trans (List.map_congr_left fun row _ => (Deletion.cleared_parent _ row).trans ?_)
    exact if_congr (exists_congr fun parent => and_congr_left fun _ => gone .channels parent)
      rfl rfl
  · have here := rows .directChannels
    rw [kept] at here
    refine here.trans (List.map_congr_left fun row _ => (Deletion.cleared_owner _ row).trans ?_)
    exact if_congr (exists_congr fun owner => and_congr_left fun _ => gone .users owner) rfl rfl
  · rw [rows, kept]
    refine List.map_id'' (fun row => ?_) _
    exact Deletion.cleared_same _ row channels directs

theorem deleteRows_error {failure : Failure} :
    deleteRows Catalog.declared table integers chosen db = .error failure ↔
      (integers.all fitsWord = false ∧ failure = .tooLarge) ∨
        (integers.all fitsWord = true ∧
          Deletion.unhindered Catalog.declared
            (Deletion.complete Catalog.declared table chosen db) = false ∧
          failure = .store .noTarget) := by
  let deletion := Deletion.complete Catalog.declared table chosen db
  change demand [fitting integers,
    ⟨Deletion.unhindered Catalog.declared deletion, .store .noTarget⟩] _ = .error failure ↔ _
  cases fits : integers.all fitsWord <;>
    cases free : Deletion.unhindered Catalog.declared deletion <;>
    simp [demand, fitting, fits, eq_comm]

/-- A deletion goes through unless a guild that stays loses its owner. -/
theorem unhindered_complete :
    Deletion.unhindered Catalog.declared
        (Deletion.complete Catalog.declared table chosen db) = true ↔
      ∀ guild ∈ db.guilds, ¬Falls Catalog.declared db table chosen .guilds guild →
        ∀ owner, Falls Catalog.declared db table chosen .users owner →
          guild.ownerId ≠ owner.id := by
  classical
  have kept : (Deletion.complete Catalog.declared table chosen db).kept.guilds =
      db.guilds.filter fun guild => ¬Falls Catalog.declared db table chosen .guilds guild :=
    Deletion.kept_eq_filter orderly_declared .guilds
  have gone : ∀ owner, owner ∈ (Deletion.complete Catalog.declared table chosen db).gone.users ↔
      Falls Catalog.declared db table chosen .users owner :=
    Deletion.gone_iff_falls orderly_declared .users
  simp only [Deletion.unhindered_iff, kept, gone, List.mem_filter, decide_eq_true_eq, and_imp]

end Outcome

theorem hindered_removal {db : Database} (consistent : db.Consistent) (removal : Removal) :
    Deletion.unhindered Catalog.declared
        (Deletion.complete Catalog.declared removal.table removal.chosen db) = false ↔
      removal.HitsOwner db := by
  rw [← Bool.not_eq_true, unhindered_complete]
  constructor
  · intro hindered
    simp only [not_forall, not_not] at hindered
    obtain ⟨guild, stored, -, owner, falls, owns⟩ := hindered
    have users := falls_root rootless_users falls
    cases removal with
    | user id =>
        have named := falls_chosen rootless_users falls
        simp only [Removal.chosen, decide_eq_true_eq] at named
        exact ⟨id, rfl, guild, stored, owns.trans named⟩
    | _ => cases users
  · rintro ⟨id, rfl, guild, stored, owns⟩ free
    obtain ⟨owner, present, same⟩ := consistent.guildOwner guild stored
    have falls : Falls Catalog.declared db .users (Removal.user id).chosen .users owner :=
      .chosen present (by simp [Removal.chosen, same, owns])
    have stays : ¬Falls Catalog.declared db .users (Removal.user id).chosen .guilds guild :=
      fun falls => absurd (falls_root (by decide) falls) (by decide)
    exact free guild stored stays owner falls same.symm

theorem falls_by_user {table other : Table} {chosen : table.Row → Bool} {db : Database}
    {row : other.Row}
    (byUser : ∀ reference ∈ (Catalog.declared other).references,
      reference.onDelete = .cascade → reference.target = .users)
    (falls : Falls Catalog.declared db table chosen other row) :
    table = other ∨ table = .users := by
  cases falls with
  | chosen => exact Or.inl rfl
  | @dragged _ _ reference _ stored declared cascades names falls =>
      have users := byUser reference declared cascades
      have rootless : ∀ deeper ∈ (Catalog.declared reference.target).references,
          deeper.onDelete ≠ .cascade := by
        rw [users]
        decide
      exact Or.inr ((falls_root rootless falls).symm.trans users)

/-- Channels and direct channels apart, a table from which no row falls stays as it was. -/
theorem Cascaded.stays {table other : Table} {chosen : table.Row → Bool} {db left : Database}
    (cascaded : Cascaded table chosen db left) (channels : other ≠ .channels)
    (directs : other ≠ .directChannels)
    (spared : ∀ row, ¬Falls Catalog.declared db table chosen other row) :
    left.rows other = db.rows other := by
  classical
  rw [cascaded.others other channels directs, List.filter_eq_self]
  exact fun row _ => decide_eq_true (spared row)

theorem Cascaded.still {table other : Table} {chosen : table.Row → Bool} {db left : Database}
    (cascaded : Cascaded table chosen db left)
    (spared : ∀ row, ¬Falls Catalog.declared db table chosen other row)
    (parents : ∀ parent, ¬Falls Catalog.declared db table chosen .channels parent)
    (owners : ∀ owner, ¬Falls Catalog.declared db table chosen .users owner) :
    left.rows other = db.rows other := by
  by_cases channels : other = .channels
  · subst channels
    refine cascaded.channels.trans ?_
    simp only [parents, not_false_eq_true, decide_true, List.filter_true, false_and,
      exists_false, if_false, List.map_id']
    rfl
  · by_cases directs : other = .directChannels
    · subst directs
      refine cascaded.directChannels.trans ?_
      simp only [spared, owners, not_false_eq_true, decide_true, List.filter_true, false_and,
        exists_false, if_false, List.map_id']
      rfl
    · exact cascaded.stays channels directs spared

theorem talk_stays {table : Table} {chosen : table.Row → Bool} {db left : Database}
    (cascaded : Cascaded table chosen db left) (place : table = .channels ∨ table = .guilds) :
    left.messages = db.messages ∧ left.readStates = db.readStates := by
  have spared : ∀ other : Table,
      (∀ reference ∈ (Catalog.declared other).references,
        reference.onDelete = .cascade → reference.target = .users) →
      table ≠ other → ∀ row, ¬Falls Catalog.declared db table chosen other row := by
    intro other byUser apart row falls
    rcases falls_by_user byUser falls with same | users
    · exact apart same
    · rcases place with rfl | rfl <;> cases users
  refine ⟨@Cascaded.stays table .messages _ _ _ cascaded (by decide) (by decide)
      (spared .messages (by decide) ?_),
    @Cascaded.stays table .readStates _ _ _ cascaded (by decide) (by decide)
      (spared .readStates (by decide) ?_)⟩
  · rcases place with rfl | rfl <;> decide
  · rcases place with rfl | rfl <;> decide

theorem run_removal (removal : Removal) (now : DateTime) (db : Database) :
    Command.run Catalog.declared now (.write removal.write) db =
      match deleteRows Catalog.declared removal.table removal.integers removal.chosen db with
      | .ok left => (.ok .done, left)
      | .error failure => (.error failure, db) := by
  have ran := run_write removal.write now db
  rw [removal.statement_write, removal.answer_write] at ran
  refine ran.trans ?_
  cases deleteRows Catalog.declared removal.table removal.integers removal.chosen db <;> rfl

/-- A removal that succeeds takes exactly the rows that fall with the named one. It is refused as a
broken reference exactly if it names the owner of a guild, and succeeds otherwise. -/
theorem removal_exact (past : Run) (now : DateTime) (removal : Removal) :
    let db := past.after .empty
    let call := Command.run Catalog.declared now (.write removal.write) db
    (call.1 = .ok .done → Cascaded removal.table removal.chosen db call.2 ∧
      ∀ id, removal = .channel id ∨ removal = .guild id →
        call.2.messages = db.messages ∧ call.2.readStates = db.readStates) ∧
    ((∃ detail, call.1 = .error (.store (.invalidReference detail))) ↔ removal.HitsOwner db) ∧
    (removal.integers.all fitsWord = true → call.1 = .ok .done ∨ removal.HitsOwner db) := by
  intro db call
  have reachable : Reachable db := reachable_after past
  have consistent := consistent_of_sound (reachable_sound reachable)
  have hindered := hindered_removal consistent removal
  cases outcome : deleteRows Catalog.declared removal.table removal.integers removal.chosen db with
  | ok left =>
      have answer : call = (.ok .done, left) := by
        simp only [call, run_removal, outcome]
      have cascaded := cascaded_deleteRows outcome
      obtain ⟨-, free, -⟩ := deleteRows_ok.mp outcome
      have spared : ¬removal.HitsOwner db := fun hits => by
        rw [hindered.mpr hits] at free
        cases free
      rw [answer]
      refine ⟨fun _ => ⟨cascaded, ?_⟩, by simpa using spared, fun _ => Or.inl rfl⟩
      rintro id (rfl | rfl)
      · exact talk_stays cascaded (Or.inl rfl)
      · exact talk_stays cascaded (Or.inr rfl)
  | error failure =>
      have answer : call = (.error failure, db) := by
        simp only [call, run_removal, outcome]
      rw [answer]
      rcases deleteRows_error.mp outcome with ⟨large, rfl⟩ | ⟨fits, stuck, rfl⟩
      · refine ⟨by simp, ?_, fun fits => by rw [fits] at large; cases large⟩
        simp only [reduceCtorEq, Except.error.injEq, exists_false, false_iff]
        rintro ⟨id, rfl, guild, stored, owns⟩
        obtain ⟨owner, present, same⟩ := consistent.guildOwner guild stored
        have fits : fitsWord owner.id = true :=
          reachable_fits reachable .users owner present owner.id List.mem_cons_self
        simp [Removal.integers, ← owns, ← same, fits] at large
      · have hits := hindered.mp stuck
        exact ⟨by simp, by simpa [StoreError.noTarget] using hits, fun _ => Or.inr hits⟩

def settled : Run := [
  .createUser ⟨1, "ada", "Ada", none, "", noon⟩,
  .createUser ⟨2, "bob", "Bob", none, "", noon⟩,
  .createGuild ⟨10, "guild", none, 1, noon⟩,
  .createMember ⟨10, 2, none, noon, []⟩,
  .createRole ⟨20, 10, "role", 0, 0, 0, false⟩,
  .addMemberRole 10 2 20,
  .createChannel ⟨30, 10, "area", .category, 0, none, none⟩,
  .createChannel ⟨31, 10, "talk", .text, 0, none, some 30⟩,
  .setOverride ⟨30, 20, 0, 0⟩,
  .createMessage ⟨40, 30, 2, "hello", noon, none⟩,
  .createDirect 50 [1, 2] DirectKind.group.code (some 2) none].map (Write.event noon)

theorem settled_removals :
    let db := settled.after .empty
    let call := fun removal : Removal =>
      Command.run Catalog.declared noon (.write removal.write) db
    (call (.channel 30)).1 = .ok .done ∧ (call (.user 2)).1 = .ok .done ∧
    Cascaded .channels (Removal.channel 30).chosen db (call (.channel 30)).2 ∧
    (call (.channel 30)).2.messages = db.messages ∧
    Cascaded .users (Removal.user 2).chosen db (call (.user 2)).2 ∧
    ∃ detail, (call (.user 1)).1 = .error (.store (.invalidReference detail)) := by
  intro db call
  have channelDone : (call (.channel 30)).1 = .ok .done := by decide +kernel
  have userDone : (call (.user 2)).1 = .ok .done := by decide +kernel
  have owns : (Removal.user 1).HitsOwner db :=
    ⟨1, rfl, ⟨10, "guild", none, 1, noon.wall⟩, by decide +kernel, rfl⟩
  obtain ⟨cascaded, stays⟩ := (removal_exact settled noon (.channel 30)).1 channelDone
  exact ⟨channelDone, userDone, cascaded, (stays 30 (Or.inl rfl)).1,
    ((removal_exact settled noon (.user 2)).1 userDone).1,
    (removal_exact settled noon (.user 1)).2.1.mpr owns⟩

end Guildhall
