import Guildhall.Proofs.Store.Run
import Mathlib.Data.List.Nodup

/-!
The declared constraints column by column, and that they hold together in every reachable database:
no key occurs twice, and every reference that is not empty has its target.
-/

namespace Guildhall

structure Database.Consistent (db : Database) : Prop where
  userIds : (db.users.map UserRow.id).Nodup
  guildIds : (db.guilds.map GuildRow.id).Nodup
  memberKeys : (db.members.map fun row => (row.guildId, row.userId)).Nodup
  roleIds : (db.roles.map Role.id).Nodup
  memberRoleKeys :
    (db.memberRoles.map fun row => (row.guildId, row.userId, row.roleId)).Nodup
  channelIds : (db.channels.map ChannelRow.id).Nodup
  overrideKeys : (db.channelOverrides.map fun row => (row.channelId, row.roleId)).Nodup
  banKeys : (db.bans.map fun row => (row.guildId, row.userId)).Nodup
  inviteCodes : (db.invites.map InviteRow.code).Nodup
  messageIds : (db.messages.map MessageRow.id).Nodup
  attachmentIds : (db.attachments.map Attachment.id).Nodup
  reactionKeys : (db.reactions.map fun row => (row.messageId, row.userId, row.emoji)).Nodup
  directIds : (db.directChannels.map DirectChannelRow.id).Nodup
  recipientKeys : (db.recipients.map fun row => (row.channelId, row.userId)).Nodup
  readStateKeys : (db.readStates.map fun row => (row.userId, row.channelId)).Nodup
  voiceStateKeys : (db.voiceStates.map fun row => (row.guildId, row.userId)).Nodup
  usernames : (db.users.map UserRow.username).Nodup
  channelNames : (db.channels.map fun row => (row.guildId, row.name)).Nodup
  pairKeys : (db.directChannels.filterMap DirectChannelRow.pairKey).Nodup
  guildOwner : ∀ guild ∈ db.guilds, ∃ owner ∈ db.users, owner.id = guild.ownerId
  memberGuild : ∀ member ∈ db.members, ∃ guild ∈ db.guilds, guild.id = member.guildId
  memberUser : ∀ member ∈ db.members, ∃ user ∈ db.users, user.id = member.userId
  roleGuild : ∀ role ∈ db.roles, ∃ guild ∈ db.guilds, guild.id = role.guildId
  memberRoleMember : ∀ hold ∈ db.memberRoles, ∃ member ∈ db.members,
    (member.guildId, member.userId) = (hold.guildId, hold.userId)
  memberRoleRole : ∀ hold ∈ db.memberRoles, ∃ role ∈ db.roles, role.id = hold.roleId
  channelGuild : ∀ channel ∈ db.channels, ∃ guild ∈ db.guilds, guild.id = channel.guildId
  channelParent : ∀ channel ∈ db.channels, ∀ id ∈ channel.parentId,
    ∃ parent ∈ db.channels, parent.id = id
  overrideChannel : ∀ override ∈ db.channelOverrides,
    ∃ channel ∈ db.channels, channel.id = override.channelId
  overrideRole : ∀ override ∈ db.channelOverrides, ∃ role ∈ db.roles, role.id = override.roleId
  banGuild : ∀ ban ∈ db.bans, ∃ guild ∈ db.guilds, guild.id = ban.guildId
  banUser : ∀ ban ∈ db.bans, ∃ user ∈ db.users, user.id = ban.userId
  inviteGuild : ∀ invite ∈ db.invites, ∃ guild ∈ db.guilds, guild.id = invite.guildId
  inviteChannel : ∀ invite ∈ db.invites, ∀ id ∈ invite.channelId,
    ∃ channel ∈ db.channels, channel.id = id
  inviteCreator : ∀ invite ∈ db.invites, ∃ user ∈ db.users, user.id = invite.creatorId
  messageAuthor : ∀ message ∈ db.messages, ∃ author ∈ db.users, author.id = message.authorId
  attachmentMessage : ∀ attachment ∈ db.attachments,
    ∃ message ∈ db.messages, message.id = attachment.messageId
  reactionMessage : ∀ reaction ∈ db.reactions,
    ∃ message ∈ db.messages, message.id = reaction.messageId
  reactionUser : ∀ reaction ∈ db.reactions, ∃ user ∈ db.users, user.id = reaction.userId
  directOwner : ∀ channel ∈ db.directChannels, ∀ id ∈ channel.ownerId,
    ∃ owner ∈ db.users, owner.id = id
  recipientChannel : ∀ recipient ∈ db.recipients,
    ∃ channel ∈ db.directChannels, channel.id = recipient.channelId
  recipientUser : ∀ recipient ∈ db.recipients, ∃ user ∈ db.users, user.id = recipient.userId
  readStateUser : ∀ state ∈ db.readStates, ∃ user ∈ db.users, user.id = state.userId
  voiceStateGuild : ∀ state ∈ db.voiceStates, ∃ guild ∈ db.guilds, guild.id = state.guildId
  voiceStateUser : ∀ state ∈ db.voiceStates, ∃ user ∈ db.users, user.id = state.userId
  voiceStateChannel : ∀ state ∈ db.voiceStates,
    ∃ channel ∈ db.channels, channel.id = state.channelId

theorem nodup_of_distinct {table : Table} {columns : List String} {rows : List table.Row}
    {α : Type} (distinct : table.Distinct columns rows) (value : table.Row → α)
    (cells : α → List Cell)
    (named : ∀ row, table.key? columns row = some (cells (value row))) :
    (rows.map value).Nodup := by
  refine List.pairwise_map.mpr (distinct.imp ?_)
  intro a b apart same
  have shared : table.sameKey columns a b = true :=
    sameKey_iff.mpr ⟨cells (value a), named a, same ▸ named b⟩
  rw [shared] at apart
  cases apart

theorem key_pairKey {row : DirectChannelRow} {key : String} (named : row.pairKey = some key) :
    Table.key? .directChannels ["pair_key"] row = some [.text key] := by
  obtain ⟨id, kind, ownerId, pairKey, createdAt⟩ := row
  obtain rfl : pairKey = some key := named
  rfl

theorem pairKeys_nodup {rows : List DirectChannelRow}
    (distinct : Table.Distinct .directChannels ["pair_key"] rows) :
    (rows.filterMap DirectChannelRow.pairKey).Nodup := by
  refine List.pairwise_filterMap.mpr (distinct.imp ?_)
  intro a b apart first namedFirst second namedSecond same
  have shared : Table.sameKey .directChannels ["pair_key"] a b = true :=
    sameKey_iff.mpr ⟨_, key_pairKey namedFirst, same ▸ key_pairKey namedSecond⟩
  rw [apart] at shared
  cases shared

theorem key_parent {row : ChannelRow} {id : Int} (named : id ∈ row.parentId) :
    Table.key? .channels ["parent_id"] row = some [.int id] := by
  obtain ⟨_, _, _, _, _, _, parentId⟩ := row
  obtain rfl : parentId = some id := named
  rfl

theorem key_inviteChannel {row : InviteRow} {id : Int} (named : id ∈ row.channelId) :
    Table.key? .invites ["channel_id"] row = some [.int id] := by
  obtain ⟨_, _, channelId, _, _, _, _, _⟩ := row
  obtain rfl : channelId = some id := named
  rfl

theorem key_owner {row : DirectChannelRow} {id : Int} (named : id ∈ row.ownerId) :
    Table.key? .directChannels ["owner_id"] row = some [.int id] := by
  obtain ⟨_, _, ownerId, _, _⟩ := row
  obtain rfl : ownerId = some id := named
  rfl

theorem Database.Sound.points {catalog : Catalog} {db : Database} (sound : db.Sound catalog)
    (table : Table) (reference : Reference)
    (declared : reference ∈ (catalog table).references) {α : Type}
    (value : reference.target.Row → α) (cells : α → List Cell) (injective : cells.Injective)
    (keyed : ∀ other, reference.target.key? reference.targetColumns other =
      some (cells (value other)))
    {row : table.Row} (member : row ∈ db.rows table) {source : α}
    (named : table.key? reference.columns row = some (cells source)) :
    ∃ other ∈ db.rows reference.target, value other = source := by
  rcases sound.references table row member reference declared with empty | points
  · rw [Reference.isEmpty, named] at empty
    cases empty
  · obtain ⟨key, here, other, present, matched⟩ := pointsInto_iff.mp points
    rw [named] at here
    rw [keyed, ← here] at matched
    exact ⟨other, present, injective (Option.some.inj matched)⟩

theorem Database.Sound.finds {catalog : Catalog} {db : Database} (sound : db.Sound catalog)
    (table : Table) (column : String) (target : Table) (onDelete : OnDelete)
    (declared : Reference.to column target onDelete ∈ (catalog table).references)
    (id : target.Row → Int) (keyed : ∀ other, target.key? ["id"] other = some [.int (id other)])
    {row : table.Row} (member : row ∈ db.rows table) {source : Int}
    (named : table.key? [column] row = some [.int source]) :
    ∃ other ∈ db.rows target, id other = source :=
  sound.points table (.to column target onDelete) declared id (fun id => [.int id])
    (fun _ _ same => Cell.int.inj (List.head_eq_of_cons_eq same)) keyed member named

theorem consistent_of_sound {db : Database} (sound : db.Sound Catalog.declared) :
    db.Consistent where
  userIds := nodup_of_distinct (sound.primaryKeys .users) _ (fun id => [.int id]) fun _ => rfl
  guildIds := nodup_of_distinct (sound.primaryKeys .guilds) _ (fun id => [.int id]) fun _ => rfl
  memberKeys := nodup_of_distinct (sound.primaryKeys .members) _
    (fun key => [.int key.1, .int key.2]) fun _ => rfl
  roleIds := nodup_of_distinct (sound.primaryKeys .roles) _ (fun id => [.int id]) fun _ => rfl
  memberRoleKeys := nodup_of_distinct (sound.primaryKeys .memberRoles) _
    (fun key => [.int key.1, .int key.2.1, .int key.2.2]) fun _ => rfl
  channelIds := nodup_of_distinct (sound.primaryKeys .channels) _ (fun id => [.int id])
    fun _ => rfl
  overrideKeys := nodup_of_distinct (sound.primaryKeys .channelOverrides) _
    (fun key => [.int key.1, .int key.2]) fun _ => rfl
  banKeys := nodup_of_distinct (sound.primaryKeys .bans) _
    (fun key => [.int key.1, .int key.2]) fun _ => rfl
  inviteCodes := nodup_of_distinct (sound.primaryKeys .invites) _ (fun code => [.text code])
    fun _ => rfl
  messageIds := nodup_of_distinct (sound.primaryKeys .messages) _ (fun id => [.int id])
    fun _ => rfl
  attachmentIds := nodup_of_distinct (sound.primaryKeys .attachments) _ (fun id => [.int id])
    fun _ => rfl
  reactionKeys := nodup_of_distinct (sound.primaryKeys .reactions) _
    (fun key => [.int key.1, .int key.2.1, .text key.2.2]) fun _ => rfl
  directIds := nodup_of_distinct (sound.primaryKeys .directChannels) _ (fun id => [.int id])
    fun _ => rfl
  recipientKeys := nodup_of_distinct (sound.primaryKeys .recipients) _
    (fun key => [.int key.1, .int key.2]) fun _ => rfl
  readStateKeys := nodup_of_distinct (sound.primaryKeys .readStates) _
    (fun key => [.int key.1, .int key.2]) fun _ => rfl
  voiceStateKeys := nodup_of_distinct (sound.primaryKeys .voiceStates) _
    (fun key => [.int key.1, .int key.2]) fun _ => rfl
  usernames := nodup_of_distinct (sound.uniques .users _ List.mem_cons_self) _
    (fun name => [.text name]) fun _ => rfl
  channelNames := nodup_of_distinct (sound.uniques .channels _ List.mem_cons_self) _
    (fun key => [.int key.1, .text key.2]) fun _ => rfl
  pairKeys := pairKeys_nodup (sound.uniques .directChannels _ List.mem_cons_self)
  guildOwner _ member := sound.finds .guilds "owner_id" .users .refuse (by decide)
    UserRow.id (fun _ => rfl) member rfl
  memberGuild _ member := sound.finds .members "guild_id" .guilds .cascade (by decide)
    GuildRow.id (fun _ => rfl) member rfl
  memberUser _ member := sound.finds .members "user_id" .users .cascade (by decide)
    UserRow.id (fun _ => rfl) member rfl
  roleGuild _ member := sound.finds .roles "guild_id" .guilds .cascade (by decide)
    GuildRow.id (fun _ => rfl) member rfl
  memberRoleMember _ member := sound.points .memberRoles
    ⟨["guild_id", "user_id"], .members, ["guild_id", "user_id"], .cascade⟩ (by decide)
    (fun row : MemberRow => (row.guildId, row.userId)) (fun key => [.int key.1, .int key.2])
    (by rintro ⟨_, _⟩ ⟨_, _⟩ same; simpa using same) (fun _ => rfl) member rfl
  memberRoleRole _ member := sound.finds .memberRoles "role_id" .roles .cascade (by decide)
    Role.id (fun _ => rfl) member rfl
  channelGuild _ member := sound.finds .channels "guild_id" .guilds .cascade (by decide)
    GuildRow.id (fun _ => rfl) member rfl
  channelParent _ member _ named := sound.finds .channels "parent_id" .channels .clear (by decide)
    ChannelRow.id (fun _ => rfl) member (key_parent named)
  overrideChannel _ member := sound.finds .channelOverrides "channel_id" .channels .cascade
    (by decide) ChannelRow.id (fun _ => rfl) member rfl
  overrideRole _ member := sound.finds .channelOverrides "role_id" .roles .cascade (by decide)
    Role.id (fun _ => rfl) member rfl
  banGuild _ member := sound.finds .bans "guild_id" .guilds .cascade (by decide)
    GuildRow.id (fun _ => rfl) member rfl
  banUser _ member := sound.finds .bans "user_id" .users .cascade (by decide)
    UserRow.id (fun _ => rfl) member rfl
  inviteGuild _ member := sound.finds .invites "guild_id" .guilds .cascade (by decide)
    GuildRow.id (fun _ => rfl) member rfl
  inviteChannel _ member _ named := sound.finds .invites "channel_id" .channels .cascade (by decide)
    ChannelRow.id (fun _ => rfl) member (key_inviteChannel named)
  inviteCreator _ member := sound.finds .invites "creator_id" .users .cascade (by decide)
    UserRow.id (fun _ => rfl) member rfl
  messageAuthor _ member := sound.finds .messages "author_id" .users .cascade (by decide)
    UserRow.id (fun _ => rfl) member rfl
  attachmentMessage _ member := sound.finds .attachments "message_id" .messages .cascade (by decide)
    MessageRow.id (fun _ => rfl) member rfl
  reactionMessage _ member := sound.finds .reactions "message_id" .messages .cascade (by decide)
    MessageRow.id (fun _ => rfl) member rfl
  reactionUser _ member := sound.finds .reactions "user_id" .users .cascade (by decide)
    UserRow.id (fun _ => rfl) member rfl
  directOwner _ member _ named := sound.finds .directChannels "owner_id" .users .clear (by decide)
    UserRow.id (fun _ => rfl) member (key_owner named)
  recipientChannel _ member := sound.finds .recipients "channel_id" .directChannels .cascade
    (by decide) DirectChannelRow.id (fun _ => rfl) member rfl
  recipientUser _ member := sound.finds .recipients "user_id" .users .cascade (by decide)
    UserRow.id (fun _ => rfl) member rfl
  readStateUser _ member := sound.finds .readStates "user_id" .users .cascade (by decide)
    UserRow.id (fun _ => rfl) member rfl
  voiceStateGuild _ member := sound.finds .voiceStates "guild_id" .guilds .cascade (by decide)
    GuildRow.id (fun _ => rfl) member rfl
  voiceStateUser _ member := sound.finds .voiceStates "user_id" .users .cascade (by decide)
    UserRow.id (fun _ => rfl) member rfl
  voiceStateChannel _ member := sound.finds .voiceStates "channel_id" .channels .cascade (by decide)
    ChannelRow.id (fun _ => rfl) member rfl

theorem filter_alone {α κ : Type} [DecidableEq κ] {rows : List α} {key : α → κ} {row : α}
    (distinct : (rows.map key).Nodup) (stored : row ∈ rows) :
    rows.filter (fun other => key other = key row) = [row] := by
  have once := List.count_eq_one_of_mem distinct (List.mem_map_of_mem stored)
  rw [List.count, List.countP_map, List.countP_eq_length_filter] at once
  obtain ⟨found, alone⟩ : ∃ found, rows.filter (fun other => key other = key row) = [found] := by
    refine List.length_eq_one_iff.mp (Eq.trans ?_ once)
    rfl
  have member : row ∈ rows.filter fun other => key other = key row :=
    List.mem_filter.mpr ⟨stored, decide_eq_true rfl⟩
  rw [alone] at member ⊢
  rw [List.mem_singleton.mp member]

theorem Database.Consistent.user_alone {db : Database} (consistent : db.Consistent) {id : Int}
    (known : ∃ user ∈ db.users, user.id = id) :
    ∃ user : UserRow, user.id = id ∧ db.users.filter (fun user => user.id = id) = [user] := by
  obtain ⟨user, present, rfl⟩ := known
  exact ⟨user, rfl, filter_alone consistent.userIds present⟩

/-- Whatever callers do, with or without success, the declared constraints hold afterwards. -/
theorem run_consistent (run : Run) : (run.after .empty).Consistent :=
  consistent_of_sound (reachable_sound (reachable_after run))

end Guildhall
