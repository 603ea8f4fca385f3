import Guildhall.Proofs.Store.Frame
import Guildhall.Proofs.Store.Loss
import Guildhall.Proofs.Store.Occurrence

/-!
By what a table changes: a call that is about it, or a removal with which some of its rows go.
-/

namespace Guildhall

open Calendar

/-- The tables whose rows hang on rows of these tables only. -/
def Table.Closed (tables : List Table) : Prop :=
  ∀ other, ∀ reference ∈ (Catalog.declared other).references, reference.target ∈ tables →
    other ∈ tables

theorem falls_within {db : Database} {tables : List Table} {table other : Table}
    {chosen : table.Row → Bool} {row : other.Row} (closed : Table.Closed tables)
    (within : table ∈ tables) (falls : Falls Catalog.declared db table chosen other row) :
    other ∈ tables := by
  induction falls with
  | chosen => exact within
  | dragged stored declared cascades names falls inside => exact closed _ _ declared inside

def Table.leaves : List Table :=
  [.memberRoles, .channelOverrides, .bans, .invites, .attachments, .reactions, .recipients,
    .readStates, .voiceStates]

theorem closed_leaf {table : Table} (leaf : table ∈ Table.leaves) : Table.Closed [table] := by
  intro other
  revert table
  cases other <;> decide

theorem closed_directs : Table.Closed [.directChannels, .recipients] := by
  intro other
  cases other <;> decide

theorem leaves_deleteLeaf {table leaf : Table} {integers : List Int} {chosen : leaf.Row → Bool}
    (apart : leaf ≠ table) (among : leaf ∈ Table.leaves) :
    Leaves table (deleteRows Catalog.declared leaf integers chosen) := by
  intro db left done
  have spared : ∀ other, leaf ≠ other →
      ∀ row, ¬Falls Catalog.declared db leaf chosen other row := by
    intro other apart row falls
    have within := falls_within (closed_leaf among) (List.mem_singleton_self leaf) falls
    exact apart (List.mem_singleton.mp within).symm
  refine (cascaded_deleteRows done).still (spared table apart) (spared .channels ?_)
    (spared .users ?_)
  · rintro rfl
    revert among
    decide
  · rintro rfl
    revert among
    decide

/-- Rows of other tables are cleared or go along where rows of these are deleted. -/
def Table.Aloof (table : Table) : Prop :=
  table ≠ .channels ∧ table ≠ .directChannels ∧ table ≠ .recipients

section Writes

variable {table : Table} (aloof : table.Aloof)

include aloof

theorem leaves_deleteDirect {integers : List Int} {chosen : DirectChannelRow → Bool} :
    Leaves table (deleteRows Catalog.declared .directChannels integers chosen) := by
  refine leaves_deleteRows aloof.1 aloof.2.1 fun db row falls => ?_
  have inside := falls_within closed_directs List.mem_cons_self falls
  simp [aloof.2.1, aloof.2.2] at inside

theorem leaves_removeRecipient (channelId userId : Int) :
    Leaves table (Directs.removeRecipient Catalog.declared channelId userId) := by
  have deletes : Leaves table (deleteRows Catalog.declared .recipients [channelId, userId]
      (Directs.isRecipient channelId userId)) :=
    leaves_deleteLeaf aloof.2.2.symm (by decide)
  intro db left done
  unfold Directs.removeRecipient at done
  split at done
  · refine leaves_inOrder ?_ done
    intro statement member
    rcases List.mem_cons.mp member with rfl | member
    · exact deletes
    · obtain rfl := List.mem_singleton.mp member
      exact leaves_changeRows aloof.2.1
  · exact deletes done

/-- A call that is not about the table and removes no row on which others hang leaves it alone. -/
theorem leaves_write {write : Write} {now : DateTime} (apart : write.table ≠ table)
    (harmless : ∀ removal : Removal, write ≠ removal.write) :
    Leaves table (write.statement Catalog.declared now) := by
  cases write
  case createUser | createGuild | createMember | createRole | createBan | createInvite |
      createChannel | createMessage | createAttachment => exact leaves_insertRow apart.symm
  case updateUser | updateGuild | updateMember | updateRole | updateChannel | updateMessage |
      incrementInviteUses | incrementMentions => exact leaves_changeRows apart.symm
  case addMemberRole | addReaction | addRecipient => exact leaves_ensureRow apart.symm
  case setOverride | upsertVoiceState | upsertReadState => exact leaves_putRow apart.symm
  case createDirect => exact leaves_createDirect aloof.2.1 aloof.2.2
  case deleteDirect => exact leaves_deleteDirect aloof
  case removeRecipient channelId userId => exact leaves_removeRecipient aloof channelId userId
  case deleteUser id => exact absurd rfl (harmless (.user id))
  case deleteGuild id => exact absurd rfl (harmless (.guild id))
  case deleteMember guildId userId => exact absurd rfl (harmless (.member guildId userId))
  case deleteRole id => exact absurd rfl (harmless (.role id))
  case deleteChannel id => exact absurd rfl (harmless (.channel id))
  case deleteMessage id => exact absurd rfl (harmless (.message id))
  all_goals exact leaves_deleteLeaf apart (by simp [Write.table, Table.leaves])

end Writes

/-- The event deletes a row with which this one goes. -/
def Event.Takes (event : Event) (table : Table) (row : table.Row) (db : Database) : Prop :=
  ∃ removal : Removal, event.Does removal.write db ∧ removal.Takes db table row

def Event.RemovesChannel (event : Event) (id : Int) (db : Database) : Prop :=
  event.Does (.deleteChannel id) db ∨
    ∃ channel ∈ db.channels, channel.id = id ∧ event.Does (.deleteGuild channel.guildId) db

def Event.RemovesRole (event : Event) (id : Int) (db : Database) : Prop :=
  event.Does (.deleteRole id) db ∨
    ∃ role ∈ db.roles, role.id = id ∧ event.Does (.deleteGuild role.guildId) db

section Losses

variable {event : Event} {db : Database} (consistent : db.Consistent)

include consistent

theorem removesChannel_iff {id : Int} (known : ∃ place ∈ db.channels, place.id = id) :
    event.RemovesChannel id db ↔
      ∃ place : ChannelRow, place.id = id ∧ event.Takes .channels place db := by
  simp only [Event.Takes, Event.RemovesChannel, Removal.takes_channel consistent]
  constructor
  · rintro (direct | ⟨place, stored, rfl, guild⟩)
    · obtain ⟨place, stored, rfl⟩ := known
      exact ⟨place, rfl, .channel place.id, direct, stored, Or.inl rfl⟩
    · exact ⟨place, rfl, .guild place.guildId, guild, stored, Or.inr rfl⟩
  · rintro ⟨place, rfl, removal, does, stored, rfl | rfl⟩
    · exact Or.inl does
    · exact Or.inr ⟨place, stored, rfl, does⟩

theorem removesRole_iff {id : Int} (known : ∃ role ∈ db.roles, role.id = id) :
    event.RemovesRole id db ↔ ∃ role : Role, role.id = id ∧ event.Takes .roles role db := by
  simp only [Event.Takes, Event.RemovesRole, Removal.takes_role consistent]
  constructor
  · rintro (direct | ⟨role, stored, rfl, guild⟩)
    · obtain ⟨role, stored, rfl⟩ := known
      exact ⟨role, rfl, .role role.id, direct, stored, Or.inl rfl⟩
    · exact ⟨role, rfl, .guild role.guildId, guild, stored, Or.inr rfl⟩
  · rintro ⟨role, rfl, removal, does, stored, rfl | rfl⟩
    · exact Or.inl does
    · exact Or.inr ⟨role, stored, rfl, does⟩

theorem takesReadState_iff {row : ReadStateRow} (stored : row ∈ db.readStates) :
    event.Takes .readStates row db ↔ event.Does (.deleteUser row.userId) db := by
  simp only [Event.Takes, Removal.takes_readState consistent]
  constructor
  · rintro ⟨removal, does, -, rfl⟩
    exact does
  · intro does
    exact ⟨.user row.userId, does, stored, rfl⟩

theorem takesVoiceState_iff {row : VoiceStateRow} (stored : row ∈ db.voiceStates) :
    event.Takes .voiceStates row db ↔ event.Does (.deleteUser row.userId) db ∨
      event.Does (.deleteGuild row.guildId) db ∨ event.RemovesChannel row.channelId db := by
  rw [removesChannel_iff consistent (consistent.voiceStateChannel row stored)]
  simp only [Event.Takes, Removal.takes_voiceState consistent]
  constructor
  · rintro ⟨removal, does, -, rfl | rfl | ⟨place, here, takes⟩⟩
    · exact Or.inr (Or.inl does)
    · exact Or.inl does
    · exact Or.inr (Or.inr ⟨place, here, removal, does, takes⟩)
  · rintro (does | does | ⟨place, here, removal, does, takes⟩)
    · exact ⟨.user row.userId, does, stored, Or.inr (Or.inl rfl)⟩
    · exact ⟨.guild row.guildId, does, stored, Or.inl rfl⟩
    · exact ⟨removal, does, stored, Or.inr (Or.inr ⟨place, here, takes⟩)⟩

theorem takesOverride_iff {row : ChannelOverride} (stored : row ∈ db.channelOverrides) :
    event.Takes .channelOverrides row db ↔
      event.RemovesChannel row.channelId db ∨ event.RemovesRole row.roleId db := by
  rw [removesChannel_iff consistent (consistent.overrideChannel row stored),
    removesRole_iff consistent (consistent.overrideRole row stored)]
  simp only [Event.Takes, Removal.takes_override]
  constructor
  · rintro ⟨removal, does, -, ⟨place, here, takes⟩ | ⟨role, held, takes⟩⟩
    · exact Or.inl ⟨place, here, removal, does, takes⟩
    · exact Or.inr ⟨role, held, removal, does, takes⟩
  · rintro (⟨place, here, removal, does, takes⟩ | ⟨role, held, removal, does, takes⟩)
    · exact ⟨removal, does, stored, Or.inl ⟨place, here, takes⟩⟩
    · exact ⟨removal, does, stored, Or.inr ⟨role, held, takes⟩⟩

end Losses

/-- By what an event changes the rows of a table, if it does. -/
inductive Touched (table : Table) (event : Event) (db : Database) : Prop where
  | called {write : Write} (does : event.Does write db) (about : write.table = table)
  | removed {removal : Removal} (does : event.Does removal.write db)
      (apart : removal.table ≠ table)
  | untouched (same : (event.apply db).rows table = db.rows table)

theorem opened_of_uncalled {event : Event} {write : Write} (named : event.write? = some write)
    (uncalled : event.action ≠ .call (.write write)) :
    ∃ first second candidate, write = .openDirect first second candidate := by
  unfold Event.write? at named
  split at named
  · rename_i called
    cases named
    exact absurd called uncalled
  · cases named
  · cases named
    exact ⟨_, _, _, rfl⟩
  · cases named
    exact ⟨_, _, _, rfl⟩

theorem touched_event {table : Table} (aloof : table.Aloof) (event : Event) (db : Database) :
    Touched table event db := by
  rcases event_tables event db with same | ⟨write, named, done⟩
  · exact .untouched (by rw [same])
  by_cases called : event.action = .call (.write write)
  · have does : event.Does write db := Event.does_iff.mpr ⟨called, done⟩
    by_cases about : write.table = table
    · exact .called does about
    by_cases removes : ∃ removal : Removal, write = removal.write
    · obtain ⟨removal, rfl⟩ := removes
      refine .removed does fun same => about ?_
      rw [← same]
      cases removal <;> rfl
    · exact .untouched (leaves_write aloof about (fun removal same => removes ⟨removal, same⟩) done)
  · -- A search that opens a channel writes to the tables of direct channels only.
    obtain ⟨first, second, candidate, rfl⟩ := opened_of_uncalled named called
    have elsewhere : (Write.openDirect first second candidate).table ≠ table := aloof.2.1.symm
    refine .untouched (leaves_write aloof elsewhere (fun removal same => ?_) done)
    cases removal <;> cases same

open scoped Classical in
theorem rows_removal {table : Table} (aloof : table.Aloof) {event : Event} {removal : Removal}
    {db : Database} (does : event.Does removal.write db) :
    (event.apply db).rows table =
      (db.rows table).filter fun row => ¬removal.Takes db table row := by
  have done := (Event.does_iff.mp does).2
  rw [removal.statement_write] at done
  exact (cascaded_deleteRows done).others table aloof.1 aloof.2.1

end Guildhall
