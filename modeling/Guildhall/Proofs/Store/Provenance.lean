import Guildhall.Proofs.Store.Keyed
import Guildhall.Proofs.Store.Retrieval
import Mathlib.Data.List.Infix

/-!
What a row keeps of its creation. Updates and upserts take whole values but replace only some of
their columns, so that a row that stays, stays where and when it was made; and a write that is not
a deletion reaches no row but those that its keys name.
-/

namespace Guildhall

open Calendar

namespace Table

def lasting : Table → List String
  | .users | .guilds => ["created_at"]
  | .members | .voiceStates => ["joined_at"]
  | .roles | .channels => ["guild_id"]
  | .memberRoles => ["guild_id", "user_id", "role_id"]
  | .bans => ["guild_id", "user_id", "reason", "created_by", "created_at"]
  | .invites =>
    ["code", "guild_id", "channel_id", "creator_id", "max_uses", "expires_at", "created_at"]
  | .messages => ["channel_id", "author_id", "created_at"]
  | .attachments => ["id", "message_id", "filename", "content_type", "size", "storage_key"]
  | .reactions => ["message_id", "user_id", "emoji", "created_at"]
  | .directChannels => ["type", "created_at"]
  | .channelOverrides | .recipients | .readStates => []

def provenance (table : Table) (row : table.Row) : List (Option Cell) :=
  table.lasting.map (table.cells row).get?

theorem provenance_known (table : Table) (row : table.Row) :
    (table.provenance row).all Option.isSome = true := by
  cases table <;> rfl

end Table

/-- Where the statement succeeds, a row that was there and still is has kept its provenance. -/
def Remembers (table : Table) (statement : Statement) : Prop :=
  ∀ {db left : Database}, db.Sound Catalog.declared → statement db = .ok left →
    ∀ old ∈ db.rows table, ∀ row ∈ left.rows table, table.identity old = table.identity row →
      table.provenance old = table.provenance row

section Statements

variable {table other : Table}

theorem remembers_leaves {statement : Statement} (leaves : Leaves table statement) :
    Remembers table statement := by
  intro db left sound done old stored row present same
  rw [leaves done] at present
  rw [eq_of_identity sound stored present same]

theorem remembers_forgetful {statement : Statement} (forgetful : table.lasting = []) :
    Remembers table statement := by
  intro db left _ _ old _ row _ _
  simp only [Table.provenance, forgetful, List.map_nil]

theorem remembers_insertRow {row : other.Row} :
    Remembers table (insertRow Catalog.declared other row) := by
  intro db left sound done old stored new present same
  by_cases apart : table = other
  · subst apart
    obtain ⟨-, rfl, admissible⟩ := insertRow_ok.mp done
    rw [Database.rows_put_self] at present
    rcases List.mem_append.mp present with before | added
    · rw [eq_of_identity sound stored before same]
    · obtain rfl := List.mem_singleton.mp added
      have free := admissible.primaryKey old stored
      rw [sameKey_identity.mpr same.symm] at free
      cases free
  · exact remembers_leaves (leaves_insertRow apart) sound done old stored new present same

theorem remembers_changeRows {integers : List Int} {chosen : other.Row → Bool}
    {change : other.Row → other.Row}
    (steady : ∀ row, chosen row = true → other.identity (change row) = other.identity row)
    (lasts : ∀ row, chosen row = true → other.provenance (change row) = other.provenance row) :
    Remembers table (changeRows Catalog.declared other integers chosen change) := by
  intro db left sound done old stored new present same
  by_cases apart : table = other
  · subst apart
    obtain ⟨-, rfl, -⟩ := changeRows_ok.mp done
    rw [Database.rows_put_self] at present
    obtain ⟨before, known, rfl⟩ := List.mem_map.mp present
    by_cases picked : chosen before = true
    · rw [if_pos picked] at same ⊢
      rw [lasts before picked]
      rw [eq_of_identity sound stored known (same.trans (steady before picked))]
    · rw [if_neg picked] at same ⊢
      rw [eq_of_identity sound stored known same]
  · exact remembers_leaves (leaves_changeRows apart) sound done old stored new present same

theorem remembers_ensureRow {row : other.Row} :
    Remembers table (ensureRow Catalog.declared other row) := by
  intro db left sound done
  rcases ensureRow_ok done with inserted | ⟨-, rfl⟩
  · exact remembers_insertRow sound inserted
  · intro old stored new present same
    rw [eq_of_identity sound stored present same]

theorem remembers_putRow {row : other.Row} {change : other.Row → other.Row}
    (steady : ∀ old, other.identity row = other.identity old →
      other.identity (change old) = other.identity old)
    (lasts : ∀ old, other.identity row = other.identity old →
      other.provenance (change old) = other.provenance old) :
    Remembers table (putRow Catalog.declared other row change) := by
  intro db left sound done
  rcases putRow_ok done with inserted | changed
  · exact remembers_insertRow sound inserted
  · exact remembers_changeRows (fun old picked => steady old (sameKey_identity.mp picked))
      (fun old picked => lasts old (sameKey_identity.mp picked)) sound changed

theorem provenance_cleared (gone : Database) (row : table.Row) :
    table.provenance (Deletion.cleared Catalog.declared table gone row) = table.provenance row := by
  classical
  by_cases channels : table = .channels
  · subst channels
    rw [Deletion.cleared_parent]
    split <;> rfl
  · by_cases directs : table = .directChannels
    · subst directs
      rw [Deletion.cleared_owner]
      split <;> rfl
    · rw [Deletion.cleared_same gone row channels directs]

theorem remembers_deleteRows {integers : List Int} {chosen : other.Row → Bool} :
    Remembers table (deleteRows Catalog.declared other integers chosen) := by
  intro db left sound done old stored row present same
  obtain ⟨before, known, rfl⟩ := deleteRows_left done table row present
  rw [identity_cleared] at same
  rw [provenance_cleared, eq_of_identity sound stored known same]

end Statements

theorem remembers_createDirect {table : Table} {draft : Directs.Draft} :
    Remembers table (Directs.create Catalog.declared draft) := by
  intro db left sound done
  by_cases recipients : table = .recipients
  · exact remembers_forgetful (by rw [recipients]; rfl) sound done
  · unfold Directs.create at done
    split at done
    · obtain ⟨middle, opened, joined⟩ := inOrder_cons.mp done
      have stays : left.rows table = middle.rows table := by
        refine leaves_inOrder (fun statement member => ?_) joined
        obtain ⟨userId, -, rfl⟩ := List.mem_map.mp member
        exact leaves_insertRow recipients
      rw [stays]
      exact remembers_insertRow sound opened
    · cases done

theorem remembers_removeRecipient {table : Table} {channelId userId : Int} :
    Remembers table (Directs.removeRecipient Catalog.declared channelId userId) := by
  intro db left sound done
  by_cases recipients : table = .recipients
  · exact remembers_forgetful (by rw [recipients]; rfl) sound done
  · unfold Directs.removeRecipient at done
    split at done
    · obtain ⟨middle, removed, rest⟩ := inOrder_cons.mp done
      obtain ⟨changed, released, rest⟩ := inOrder_cons.mp rest
      cases rest
      have stays : middle.rows table = db.rows table :=
        leaves_deleteLeaf (Ne.symm recipients) (by decide) removed
      rw [← stays]
      exact remembers_changeRows (by intro row _; rfl) (by intro row _; rfl)
        (sound_deleteRows orderly_declared sound removed) released
    · exact remembers_deleteRows sound done

theorem Write.remembers (write : Write) (now : DateTime) (table : Table) :
    Remembers table (write.statement Catalog.declared now) := by
  cases write
  case createUser | createGuild | createMember | createRole | createBan | createInvite |
      createChannel | createMessage | createAttachment => exact remembers_insertRow
  case updateUser | updateGuild | updateMember | updateRole | updateChannel | updateMessage |
      incrementInviteUses | incrementMentions =>
    exact remembers_changeRows (by intro row _; rfl) (by intro row _; rfl)
  case deleteUser | deleteGuild | deleteMember | deleteRole | deleteBan | deleteInvite |
      deleteChannel | deleteOverride | deleteMessage | deleteAttachment | deleteAttachmentsOf |
      deleteDirect | deleteVoiceState | removeMemberRole | removeReaction =>
    exact remembers_deleteRows
  case addMemberRole | addReaction | addRecipient => exact remembers_ensureRow
  case setOverride => exact remembers_putRow (by intro old _; rfl) (by intro old _; rfl)
  case upsertVoiceState | upsertReadState =>
    exact remembers_putRow (by intro old same; exact same) (by intro old _; rfl)
  case createDirect => exact remembers_createDirect
  case removeRecipient => exact remembers_removeRecipient

theorem provenance_event (event : Event) {db : Database} (sound : db.Sound Catalog.declared)
    {table : Table} {old row : table.Row} (stored : old ∈ db.rows table)
    (present : row ∈ (event.apply db).rows table) (same : table.identity old = table.identity row) :
    table.provenance old = table.provenance row := by
  rcases event_tables event db with unchanged | ⟨write, -, done⟩
  · rw [unchanged] at present
    rw [eq_of_identity sound stored present same]
  · exact write.remembers event.now table sound done old stored row present same

/-- A row with this identity is there before the run and after each of its events. -/
def Run.Spans (run : Run) (db : Database) (table : Table) (identity : List Cell) : Prop :=
  ∀ past : Run, past <+: run → ∃ row ∈ (past.after db).rows table, table.identity row = identity

/-- The last row of an unbroken line has the provenance of the first. -/
theorem provenance_after (later : Run) {db : Database} (sound : db.Sound Catalog.declared)
    {table : Table} {row last : table.Row} (stored : row ∈ db.rows table)
    (spans : later.Spans db table (table.identity row))
    (present : last ∈ (later.after db).rows table)
    (same : table.identity last = table.identity row) :
    table.provenance last = table.provenance row := by
  induction later generalizing db row with
  | nil => rw [eq_of_identity sound present stored same]
  | cons event rest ih =>
      obtain ⟨next, there, named⟩ := spans [event] ⟨rest, rfl⟩
      have step : table.provenance row = table.provenance next :=
        provenance_event event sound stored there named.symm
      have onward : Run.Spans rest (event.apply db) table (table.identity next) := by
        intro past early
        rw [named]
        exact spans (event :: past) (List.cons_prefix_cons.mpr ⟨rfl, early⟩)
      rw [step]
      exact ih (sound_event event sound) there onward present (same.trans named.symm)

/-- The rows that a write names by their keys, in whatever tables. A deletion takes rows with it
that it does not name. -/
def Write.named : Write → Option (List (Table × List Cell))
  | .createUser user | .updateUser user => some [(.users, [.int user.id])]
  | .createGuild guild | .updateGuild guild => some [(.guilds, [.int guild.id])]
  | .createMember member | .updateMember member =>
    some [(.members, [.int member.guildId, .int member.userId])]
  | .addMemberRole guildId userId roleId | .removeMemberRole guildId userId roleId =>
    some [(.memberRoles, [.int guildId, .int userId, .int roleId])]
  | .createRole role | .updateRole role => some [(.roles, [.int role.id])]
  | .createBan ban => some [(.bans, [.int ban.guildId, .int ban.userId])]
  | .createInvite invite => some [(.invites, [.text invite.code])]
  | .incrementInviteUses code => some [(.invites, [.text code])]
  | .createChannel channel | .updateChannel channel => some [(.channels, [.int channel.id])]
  | .setOverride override =>
    some [(.channelOverrides, [.int override.channelId, .int override.roleId])]
  | .createMessage message | .updateMessage message => some [(.messages, [.int message.id])]
  | .createAttachment attachment => some [(.attachments, [.int attachment.id])]
  | .addReaction messageId userId emoji _ | .removeReaction messageId userId emoji =>
    some [(.reactions, [.int messageId, .int userId, .text emoji])]
  | .createDirect id recipients _ _ _ =>
    some ((.directChannels, [.int id]) ::
      recipients.map fun userId => (.recipients, [.int id, .int userId]))
  | .addRecipient channelId userId => some [(.recipients, [.int channelId, .int userId])]
  | .removeRecipient channelId userId =>
    some [(.recipients, [.int channelId, .int userId]), (.directChannels, [.int channelId])]
  | .upsertReadState userId channelId _ | .incrementMentions userId channelId =>
    some [(.readStates, [.int userId, .int channelId])]
  | .upsertVoiceState state => some [(.voiceStates, [.int state.guildId, .int state.userId])]
  | .deleteUser _ | .deleteGuild _ | .deleteMember .. | .deleteRole _ | .deleteBan ..
  | .deleteInvite _ | .deleteChannel _ | .deleteOverride .. | .deleteMessage _
  | .deleteAttachment _ | .deleteAttachmentsOf _ | .deleteDirect _ | .deleteVoiceState .. => none

def Database.others (db : Database) (named : List (Table × List Cell)) (table : Table) :
    List table.Row :=
  (db.rows table).filter fun row => (table, table.identity row) ∉ named

def Spares (named : List (Table × List Cell)) (statement : Statement) : Prop :=
  ∀ {db left : Database}, statement db = .ok left →
    ∀ table, left.others named table = db.others named table

section Frames

variable {table : Table} {named : List (Table × List Cell)}

theorem spares_of_leaves (table : Table) {statement : Statement}
    (elsewhere : ∀ other, other ≠ table → Leaves other statement)
    (here : ∀ {db left}, statement db = .ok left →
      left.others named table = db.others named table) : Spares named statement := by
  intro db left done other
  by_cases apart : other = table
  · subst apart
    exact here done
  · unfold Database.others
    rw [elsewhere other apart done]

theorem spares_insertRow {row : table.Row} (among : (table, table.identity row) ∈ named) :
    Spares named (insertRow Catalog.declared table row) := by
  refine spares_of_leaves table (fun _ => leaves_insertRow) fun done => ?_
  obtain ⟨-, rfl, -⟩ := insertRow_ok.mp done
  simp [Database.others, among]

theorem spares_changeRows {integers : List Int} {chosen : table.Row → Bool}
    {change : table.Row → table.Row}
    (among : ∀ row, chosen row = true → (table, table.identity row) ∈ named)
    (steady : ∀ row, chosen row = true → table.identity (change row) = table.identity row) :
    Spares named (changeRows Catalog.declared table integers chosen change) := by
  refine spares_of_leaves table (fun _ => leaves_changeRows) fun done => ?_
  obtain ⟨-, rfl, -⟩ := changeRows_ok.mp done
  unfold Database.others
  rw [Database.rows_put_self]
  refine filter_changedRows_other (fun row picked => ?_) fun row picked => ?_
  · simp [among row picked]
  · simp [steady row picked, among row picked]

theorem spares_ensureRow {row : table.Row} (among : (table, table.identity row) ∈ named) :
    Spares named (ensureRow Catalog.declared table row) := by
  intro db left done
  rcases ensureRow_ok done with inserted | ⟨-, rfl⟩
  · exact spares_insertRow among inserted
  · exact fun _ => rfl

theorem spares_putRow {row : table.Row} {change : table.Row → table.Row}
    (among : (table, table.identity row) ∈ named)
    (steady : ∀ old, table.identity row = table.identity old →
      table.identity (change old) = table.identity old) :
    Spares named (putRow Catalog.declared table row change) := by
  intro db left done
  rcases putRow_ok done with inserted | changed
  · exact spares_insertRow among inserted
  · refine spares_changeRows (fun old picked => ?_)
      (fun old picked => steady old (sameKey_identity.mp picked)) changed
    rw [← sameKey_identity.mp picked]
    exact among

theorem spares_deleteLeaf {integers : List Int} {chosen : table.Row → Bool}
    (leaf : table ∈ Table.leaves)
    (among : ∀ row, chosen row = true → (table, table.identity row) ∈ named) :
    Spares named (deleteRows Catalog.declared table integers chosen) := by
  refine spares_of_leaves table (fun _ apart => leaves_deleteLeaf apart.symm leaf) fun done => ?_
  unfold Database.others
  rw [rows_deleteLeaf leaf done, List.filter_filter]
  refine List.filter_congr fun row _ => ?_
  cases picked : chosen row with
  | false => simp
  | true => simp [among row picked]

theorem spares_inOrder {statements : List Statement}
    (each : ∀ statement ∈ statements, Spares named statement) :
    Spares named (inOrder statements) := by
  intro db left done table
  induction statements generalizing db with
  | nil =>
      cases done
      rfl
  | cons statement rest ih =>
      obtain ⟨middle, first, later⟩ := inOrder_cons.mp done
      have onward : left.others named table = middle.others named table :=
        ih (fun next member => each next (List.mem_cons_of_mem _ member)) later
      exact onward.trans (each statement List.mem_cons_self first table)

end Frames

theorem spares_createDirect (draft : Directs.Draft) :
    Spares ((.directChannels, [.int draft.id]) ::
        draft.recipients.map fun userId => (.recipients, [.int draft.id, .int userId]))
      (Directs.create Catalog.declared draft) := by
  intro db left done
  unfold Directs.create at done
  split at done
  · refine spares_inOrder (fun statement member => ?_) done
    rcases List.mem_cons.mp member with rfl | member
    · exact spares_insertRow List.mem_cons_self
    · obtain ⟨userId, listed, rfl⟩ := List.mem_map.mp member
      exact spares_insertRow (List.mem_cons_of_mem _ (List.mem_map.mpr ⟨userId, listed, rfl⟩))
  · cases done

theorem spares_removeRecipient (channelId userId : Int) :
    Spares [(.recipients, [.int channelId, .int userId]), (.directChannels, [.int channelId])]
      (Directs.removeRecipient Catalog.declared channelId userId) := by
  have removes : Spares [(.recipients, [.int channelId, .int userId]),
      (.directChannels, [.int channelId])]
      (deleteRows Catalog.declared .recipients [channelId, userId]
        (Directs.isRecipient channelId userId)) := by
    refine spares_deleteLeaf (by decide) fun row picked => ?_
    simp_all [Directs.isRecipient, Table.identity]
  intro db left done
  unfold Directs.removeRecipient at done
  split at done
  · refine spares_inOrder (fun statement member => ?_) done
    rcases List.mem_cons.mp member with rfl | member
    · exact removes
    · obtain rfl := List.mem_singleton.mp member
      refine spares_changeRows (fun row picked => ?_) (by intro row _; rfl)
      simp_all [Table.identity]
  · exact removes done

theorem Write.spares {write : Write} {named : List (Table × List Cell)}
    (names : write.named = some named) (now : DateTime) :
    Spares named (write.statement Catalog.declared now) := by
  cases write
  case deleteUser | deleteGuild | deleteMember | deleteRole | deleteBan | deleteInvite |
      deleteChannel | deleteOverride | deleteMessage | deleteAttachment | deleteAttachmentsOf |
      deleteDirect | deleteVoiceState => cases names
  all_goals obtain rfl := Option.some.inj names
  case createUser | createGuild | createMember | createRole | createBan | createInvite |
      createChannel | createMessage | createAttachment =>
    exact spares_insertRow (by exact List.mem_cons_self)
  case addMemberRole | addReaction | addRecipient =>
    exact spares_ensureRow (by exact List.mem_cons_self)
  case setOverride => exact spares_putRow (by exact List.mem_cons_self) (by intro old _; rfl)
  case upsertVoiceState | upsertReadState =>
    exact spares_putRow (by exact List.mem_cons_self) (by intro old same; exact same)
  case updateUser | updateGuild | updateRole | updateChannel | updateMessage |
      incrementInviteUses =>
    refine spares_changeRows (fun row picked => ?_) (by intro row _; rfl)
    simp_all [Table.identity]
  case updateMember =>
    refine spares_changeRows (fun row picked => ?_) (by intro row _; rfl)
    simp_all [Table.identity, Members.isOf]
  case incrementMentions =>
    refine spares_changeRows (fun row picked => ?_) (by intro row _; rfl)
    simp_all [Table.identity, ReadStates.isOf]
  case removeMemberRole =>
    refine spares_deleteLeaf (by decide) fun row picked => ?_
    simp_all [Table.identity]
  case removeReaction =>
    refine spares_deleteLeaf (by decide) fun row picked => ?_
    simp_all [Table.identity, Reactions.isOf]
  case createDirect id recipients kind ownerId createdAt =>
    exact spares_createDirect ⟨id, recipients, kind, ownerId, createdAt.getD now⟩
  case removeRecipient channelId userId => exact spares_removeRecipient channelId userId

def Event.named (event : Event) : Option (List (Table × List Cell)) :=
  match event.write? with
  | some write => write.named
  | none => some []

theorem event_spares {event : Event} {named : List (Table × List Cell)}
    (names : event.named = some named) (db : Database) (table : Table) :
    (event.apply db).others named table = db.others named table := by
  rcases event_tables event db with same | ⟨write, carries, done⟩
  · rw [same]
  · unfold Event.named at names
    rw [carries] at names
    exact Write.spares names event.now done table

/-- As long as a row is there its provenance stays what it was, whatever is written in between; and
an event that deletes nothing leaves alone all rows that it does not name. -/
theorem provenance_lasts (past : Run) :
    let db := past.after .empty
    (∀ (later : Run) (table : Table), ∀ row ∈ db.rows table,
      later.Spans db table (table.identity row) →
        ∀ last ∈ (later.after db).rows table, table.identity last = table.identity row →
          table.provenance last = table.provenance row) ∧
    ∀ (event : Event) (named : List (Table × List Cell)), event.named = some named →
      ∀ table, (event.apply db).others named table = db.others named table := by
  intro db
  have sound : db.Sound Catalog.declared := reachable_sound (reachable_after past)
  exact ⟨fun later table row stored spans last present same =>
    provenance_after later sound stored spans present same,
    fun event named names table => event_spares names db table⟩

def moving : Run := [
  .updateUser ⟨2, "bea", "Bea", none, "", ⟨⟨2026, 3, 1, 13, 0, 0, 0⟩, some 0⟩⟩,
  .upsertVoiceState ⟨10, 31, 2, "second", true, false,
    ⟨⟨2026, 3, 1, 13, 0, 0, 0⟩, some 0⟩⟩].map (Write.event noon)

theorem moving_keeps :
    let past := settled ++
      [Write.event noon (.upsertVoiceState ⟨10, 30, 2, "first", false, false, noon⟩)]
    let db := past.after .empty
    (∃ last ∈ (moving.after db).voiceStates, last.channelId = 31) ∧
    (∀ last ∈ (moving.after db).voiceStates,
      Table.identity .voiceStates last = [.int 10, .int 2] →
        Table.provenance .voiceStates last = [some (.time noon.wall)]) ∧
    ∀ event ∈ moving.head?, (event.apply db).others [(.users, [.int 2])] .users =
      db.others [(.users, [.int 2])] .users := by
  intro past db
  let row : VoiceStateRow := ⟨10, 2, 30, "first", false, false, noon.wall⟩
  have stored : row ∈ db.rows .voiceStates := by decide +kernel
  have spans : Run.Spans moving db .voiceStates (Table.identity .voiceStates row) := by
    have each : ∀ past ∈ moving.inits, ∃ state ∈ (Run.after past db).voiceStates,
        Table.identity .voiceStates state = [.int 10, .int 2] := by decide +kernel
    exact fun past early => each past ((List.mem_inits _ _).mpr early)
  obtain ⟨lasts, spares⟩ := provenance_lasts past
  refine ⟨by decide +kernel, fun last present same => ?_, fun event first => ?_⟩
  · exact lasts moving .voiceStates row stored spans last present same
  · cases first
    exact spares _ _ rfl .users

end Guildhall
