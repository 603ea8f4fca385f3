import Guildhall.Proofs.Store.Insertion
import Guildhall.Proofs.Store.Guard

/-!
The calls that store a row: those that create one and meet a conflict where its key is taken, and
those that give way to a stored row of their key or change it. What each of them clashes with and
what it lacks is said column by column here.
-/

namespace Guildhall

open Calendar

namespace Database

variable (db : Database)

def HasUser (id : Int) : Prop := ∃ user ∈ db.users, user.id = id
def HasGuild (id : Int) : Prop := ∃ guild ∈ db.guilds, guild.id = id
def HasRole (id : Int) : Prop := ∃ role ∈ db.roles, role.id = id
def HasChannel (id : Int) : Prop := ∃ channel ∈ db.channels, channel.id = id
def HasMessage (id : Int) : Prop := ∃ message ∈ db.messages, message.id = id
def HasDirect (id : Int) : Prop := ∃ channel ∈ db.directChannels, channel.id = id

def HasMember (guildId userId : Int) : Prop :=
  ∃ member ∈ db.members, member.guildId = guildId ∧ member.userId = userId

end Database

/-- A call that creates one row. -/
inductive Creation where
  | user (user : User)
  | guild (guild : Guild)
  | member (member : Member)
  | role (role : Role)
  | ban (ban : Ban)
  | invite (invite : Invite)
  | channel (channel : Channel)
  | message (message : Message)
  | attachment (attachment : Attachment)

namespace Creation

def write : Creation → Write
  | user it => .createUser it
  | guild it => .createGuild it
  | member it => .createMember it
  | role it => .createRole it
  | ban it => .createBan it
  | invite it => .createInvite it
  | channel it => .createChannel it
  | message it => .createMessage it
  | attachment it => .createAttachment it

@[reducible] def table : Creation → Table
  | user _ => .users
  | guild _ => .guilds
  | member _ => .members
  | role _ => .roles
  | ban _ => .bans
  | invite _ => .invites
  | channel _ => .channels
  | message _ => .messages
  | attachment _ => .attachments

def row : (creation : Creation) → creation.table.Row
  | user it => it.row
  | guild it => it.row
  | member it => it.row
  | role it => it
  | ban it => it.row
  | invite it => it.row
  | channel it => it.row
  | message it => it.row
  | attachment it => it

def Clashes (db : Database) : Creation → Prop
  | user it => ∃ row ∈ db.users, row.id = it.id ∨ row.username = it.username
  | guild it => db.HasGuild it.id
  | member it => db.HasMember it.guildId it.userId
  | role it => db.HasRole it.id
  | ban it => ∃ row ∈ db.bans, row.guildId = it.guildId ∧ row.userId = it.userId
  | invite it => ∃ row ∈ db.invites, row.code = it.code
  | channel it =>
    ∃ row ∈ db.channels, row.id = it.id ∨ (row.guildId = it.guildId ∧ row.name = it.name)
  | message it => db.HasMessage it.id
  | attachment it => ∃ row ∈ db.attachments, row.id = it.id

/-- A row that it refers to is missing. A channel may be its own parent, whoever banned may be
gone, and the channel of a message may be any. -/
def Lacks (db : Database) : Creation → Prop
  | user _ => False
  | guild it => ¬db.HasUser it.ownerId
  | member it => ¬db.HasGuild it.guildId ∨ ¬db.HasUser it.userId
  | role it => ¬db.HasGuild it.guildId
  | ban it => ¬db.HasGuild it.guildId ∨ ¬db.HasUser it.userId
  | invite it => ¬db.HasGuild it.guildId ∨ (∃ id ∈ it.channelId, ¬db.HasChannel id) ∨
      ¬db.HasUser it.creatorId
  | channel it => ¬db.HasGuild it.guildId ∨ ∃ id ∈ it.parentId, id ≠ it.id ∧ ¬db.HasChannel id
  | message it => ¬db.HasUser it.authorId
  | attachment it => ¬db.HasMessage it.messageId

theorem statement_creation (creation : Creation) (now : DateTime) :
    creation.write.statement Catalog.declared now =
      insertRow Catalog.declared creation.table creation.row := by
  cases creation <;> rfl

theorem answer_creation (creation : Creation) (db : Database) :
    creation.write.answer db = .done := by
  cases creation <;> rfl

theorem integers_creation (creation : Creation) :
    creation.write.integers = (creation.table.cells creation.row).integers := by
  cases creation <;> rfl

end Creation

section Columns

variable {table : Table} {row : table.Row} {db : Database}

theorem taken_identity (plain : (Catalog.declared table).uniques = [])
    {same : table.Row → Prop}
    (alike : ∀ other, table.identity row = table.identity other ↔ same other) :
    Taken Catalog.declared table row db ↔ ∃ other ∈ db.rows table, same other := by
  simp only [Taken, plain, List.map_nil, List.mem_singleton, exists_eq_left, sameKey_identity,
    alike]

theorem taken_named {named : Named} (unique : (Catalog.declared table).uniques = [named])
    {same alike : table.Row → Prop}
    (identical : ∀ other, table.identity row = table.identity other ↔ same other)
    (shared : ∀ other, table.sameKey named.columns row other = true ↔ alike other) :
    Taken Catalog.declared table row db ↔
      ∃ other ∈ db.rows table, same other ∨ alike other := by
  simp only [Taken, unique, List.map_cons, List.map_nil, List.mem_cons, List.not_mem_nil, or_false,
    exists_eq_or_imp, exists_eq_left, sameKey_identity, identical, shared]
  simp only [and_or_left, exists_or]

theorem answered_to {target : Table} {column : String} {onDelete : OnDelete} {source : Option Int}
    (holds : table.key? [column] row = source.map fun n => [.int n]) {id : target.Row → Int}
    (identified : ∀ other, target.key? ["id"] other = some [.int (id other)]) :
    (Reference.to column target onDelete).Answered table row db ↔
      ∀ n ∈ source, ∃ other ∈ db.rows target, id other = n := by
  have points : (Reference.to column target onDelete).pointsInto table row db = true ↔
      ∃ other ∈ db.rows target, source = some (id other) := by
    rw [pointsInto_names]
    exact exists_congr fun other => and_congr_right fun _ => names_to holds (identified other)
  have empty : (Reference.to column target onDelete).isEmpty table row = true ↔ source = none := by
    simp only [Reference.isEmpty, Reference.to, holds]
    cases source <;> simp
  rw [Reference.Answered, points, empty]
  cases source with
  | none => simp
  | some n => simp [eq_comm]

theorem answered_id {target : Table} {column : String} {onDelete : OnDelete} {n : Int}
    (holds : table.key? [column] row = some [.int n]) {id : target.Row → Int}
    (identified : ∀ other, target.key? ["id"] other = some [.int (id other)]) :
    (Reference.to column target onDelete).Answered table row db ↔
      ∃ other ∈ db.rows target, id other = n := by
  have named : table.key? [column] row = (some n).map fun n => [.int n] := holds
  simp only [answered_to named identified, Option.mem_some_iff, forall_eq']

theorem elsewhere_declared (apart : table ≠ .channels) :
    ∀ reference ∈ (Catalog.declared table).references, reference.target ≠ table := by
  revert apart
  cases table <;> decide

theorem dangling_with (apart : table ≠ .channels) :
    Dangling Catalog.declared table row (db.with table row) ↔
      Dangling Catalog.declared table row db :=
  dangling_congr (elsewhere_declared apart) (fun _ _ => rfl)
    fun _ other => Database.rows_put_of_ne db other _

variable {first second third : Reference} {p q r : Prop}

theorem dangling_one (declared : (Catalog.declared table).references = [first])
    (one : first.Answered table row db ↔ p) : Dangling Catalog.declared table row db ↔ ¬p := by
  simp only [Dangling, declared, List.mem_singleton, exists_eq_left, one]

theorem dangling_two (declared : (Catalog.declared table).references = [first, second])
    (one : first.Answered table row db ↔ p) (two : second.Answered table row db ↔ q) :
    Dangling Catalog.declared table row db ↔ ¬p ∨ ¬q := by
  simp only [Dangling, declared, List.mem_cons, List.not_mem_nil, or_false, exists_eq_or_imp,
    exists_eq_left, one, two]

theorem dangling_three (declared : (Catalog.declared table).references = [first, second, third])
    (one : first.Answered table row db ↔ p) (two : second.Answered table row db ↔ q)
    (three : third.Answered table row db ↔ r) :
    Dangling Catalog.declared table row db ↔ ¬p ∨ ¬q ∨ ¬r := by
  simp only [Dangling, declared, List.mem_cons, List.not_mem_nil, or_false, exists_eq_or_imp,
    exists_eq_left, one, two, three]

end Columns

namespace Creation

theorem taken_creation (creation : Creation) (db : Database) :
    Taken Catalog.declared creation.table creation.row db ↔ creation.Clashes db := by
  cases creation with
  | user it =>
      refine taken_named rfl (fun other => ?_) fun other => ?_
      · simp [Table.identity, row, User.row, eq_comm]
      · refine (sameKey_named .users (fun row => [.text row.username]) fun _ => rfl).trans ?_
        simp [row, User.row, eq_comm]
  | channel it =>
      refine taken_named rfl (fun other => ?_) fun other => ?_
      · simp [Table.identity, row, Channel.row, eq_comm]
      · refine (sameKey_named .channels (fun row => [.int row.guildId, .text row.name])
          fun _ => rfl).trans ?_
        simp [row, Channel.row, eq_comm]
  | guild it =>
    exact taken_identity rfl fun other => by simp [Table.identity, row, Guild.row, eq_comm]
  | member it =>
      exact taken_identity rfl fun other => by simp [Table.identity, row, Member.row, eq_comm]
  | role it => exact taken_identity rfl fun other => by simp [Table.identity, row, eq_comm]
  | ban it => exact taken_identity rfl fun other => by simp [Table.identity, row, Ban.row, eq_comm]
  | invite it =>
      exact taken_identity rfl fun other => by simp [Table.identity, row, Invite.row, eq_comm]
  | message it =>
      exact taken_identity rfl fun other => by simp [Table.identity, row, Message.row, eq_comm]
  | attachment it => exact taken_identity rfl fun other => by simp [Table.identity, row, eq_comm]

theorem answered_inviteChannel {invite : Invite} {db : Database} :
    (Reference.to "channel_id" .channels .cascade).Answered .invites invite.row db ↔
      ∀ id ∈ invite.channelId, db.HasChannel id := by
  refine answered_to ?_ fun _ => rfl
  obtain ⟨_, _, channelId, _, _, _, _, _⟩ := invite
  cases channelId <;> rfl

theorem answered_parent {channel : Channel} {db : Database} :
    (Reference.to "parent_id" .channels .clear).Answered .channels channel.row
        (db.with .channels channel.row) ↔
      ∀ id ∈ channel.parentId, id ≠ channel.id → db.HasChannel id := by
  have holds : Table.key? .channels ["parent_id"] channel.row =
      channel.parentId.map fun id => [.int id] := by
    obtain ⟨_, _, _, _, _, _, parentId⟩ := channel
    cases parentId <;> rfl
  have stored : ∀ id, (∃ other ∈ (db.with .channels channel.row).rows .channels, other.id = id) ↔
      (id ≠ channel.id → db.HasChannel id) := by
    intro id
    change (∃ other ∈ db.channels ++ [channel.row], other.id = id) ↔ _
    simp only [List.mem_append, List.mem_singleton, or_and_right, exists_or, exists_eq_left,
      Channel.row, Database.HasChannel]
    by_cases own : id = channel.id <;> simp [own, eq_comm]
  exact (answered_to holds fun _ => rfl).trans (forall₂_congr fun id _ => stored id)

theorem dangling_creation (creation : Creation) (db : Database) :
    Dangling Catalog.declared creation.table creation.row (db.with creation.table creation.row) ↔
      creation.Lacks db := by
  cases creation
  case channel it =>
    have guild : (Reference.to "guild_id" .guilds .cascade).Answered .channels it.row
        (db.with .channels it.row) ↔ db.HasGuild it.guildId := answered_id rfl fun _ => rfl
    have two := dangling_two rfl guild answered_parent
    simp only [not_forall, exists_prop] at two
    exact two
  all_goals refine (dangling_with (by rintro ⟨⟩)).trans ?_
  case user => simp [Dangling, Catalog.declared, Lacks]
  case guild | role | message | attachment =>
    exact dangling_one rfl (answered_id rfl fun _ => rfl)
  case member | ban =>
    exact dangling_two rfl (answered_id rfl fun _ => rfl) (answered_id rfl fun _ => rfl)
  case invite it =>
    have guild : (Reference.to "guild_id" .guilds .cascade).Answered .invites it.row db ↔
        db.HasGuild it.guildId := answered_id rfl fun _ => rfl
    have creator : (Reference.to "creator_id" .users .cascade).Answered .invites it.row db ↔
        db.HasUser it.creatorId := answered_id rfl fun _ => rfl
    have three := dangling_three rfl guild answered_inviteChannel creator
    simp only [not_forall, exists_prop] at three
    exact three

end Creation

end Guildhall
