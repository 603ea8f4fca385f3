import Guildhall.Store.Catalog.Basic

/-!
The catalog of a database that is set up at once, without migrations.
-/

namespace Guildhall

open Column

def Catalog.declared : Catalog
  | .users => {
    columns := [word "id", limited "username" 32, limited "display_name" 64,
      (limited "avatar_hash" 128).orNull, limited "password_hash" 255,
      (time "created_at").withNow]
    primaryKey := ["id"]
    uniques := [⟨"uq_users_username", ["username"]⟩]
    references := []
    indexes := [] }
  | .guilds => {
    columns := [word "id", limited "name" 100, (limited "icon_hash" 128).orNull, word "owner_id",
      (time "created_at").withNow]
    primaryKey := ["id"]
    uniques := []
    references := [.to "owner_id" .users .refuse]
    indexes := [] }
  | .members => {
    columns := [word "guild_id", word "user_id", (limited "nickname" 32).orNull,
      (time "joined_at").withNow]
    primaryKey := ["guild_id", "user_id"]
    uniques := []
    references := [.to "guild_id" .guilds .cascade, .to "user_id" .users .cascade]
    indexes := [⟨"ix_members_user_id", ["user_id"]⟩,
      ⟨"ix_members_guild_joined", ["guild_id", "joined_at"]⟩] }
  | .roles => {
    columns := [word "id", word "guild_id", limited "name" 100,
      (number "color").withDefault (.int 0), (word "permissions").withDefault (.int 0),
      (number "position").withDefault (.int 0), (flag "is_default").withDefault (.flag false)]
    primaryKey := ["id"]
    uniques := []
    references := [.to "guild_id" .guilds .cascade]
    indexes := [⟨"ix_roles_guild_position", ["guild_id", "position"]⟩] }
  | .memberRoles => {
    columns := [word "guild_id", word "user_id", word "role_id"]
    primaryKey := ["guild_id", "user_id", "role_id"]
    uniques := []
    references := [.to "role_id" .roles .cascade,
      ⟨["guild_id", "user_id"], .members, ["guild_id", "user_id"], .cascade⟩]
    indexes := [⟨"ix_member_roles_role_id", ["role_id"]⟩] }
  | .channels => {
    columns := [word "id", word "guild_id", limited "name" 100,
      (number "type").withDefault (.int 0), (number "position").withDefault (.int 0),
      (text "topic").orNull, (word "parent_id").orNull]
    primaryKey := ["id"]
    uniques := [⟨"uq_channels_guild_name", ["guild_id", "name"]⟩]
    references := [.to "guild_id" .guilds .cascade, .to "parent_id" .channels .clear]
    indexes := [⟨"ix_channels_guild_position", ["guild_id", "position", "id"]⟩] }
  | .channelOverrides => {
    columns := [word "channel_id", word "role_id", (word "allow_perms").withDefault (.int 0),
      (word "deny_perms").withDefault (.int 0)]
    primaryKey := ["channel_id", "role_id"]
    uniques := []
    references := [.to "channel_id" .channels .cascade, .to "role_id" .roles .cascade]
    indexes := [] }
  | .bans => {
    columns := [word "guild_id", word "user_id", (text "reason").orNull, word "created_by",
      (time "created_at").withNow]
    primaryKey := ["guild_id", "user_id"]
    uniques := []
    references := [.to "guild_id" .guilds .cascade, .to "user_id" .users .cascade]
    indexes := [⟨"ix_bans_guild_created", ["guild_id", "created_at"]⟩] }
  | .invites => {
    columns := [limited "code" 32, word "guild_id", (word "channel_id").orNull, word "creator_id",
      (number "max_uses").withDefault (.int 0), (number "uses").withDefault (.int 0),
      (time "expires_at").orNull, (time "created_at").withNow]
    primaryKey := ["code"]
    uniques := []
    references := [.to "guild_id" .guilds .cascade, .to "channel_id" .channels .cascade,
      .to "creator_id" .users .cascade]
    indexes := [⟨"ix_invites_guild_created", ["guild_id", "created_at"]⟩] }
  | .messages => {
    columns := [word "id", word "channel_id", word "author_id", text "content",
      (time "created_at").withNow, (time "edited_at").orNull]
    primaryKey := ["id"]
    uniques := []
    references := [.to "author_id" .users .cascade]
    indexes := [⟨"ix_messages_channel_id_id", ["channel_id", "id"]⟩,
      ⟨"ix_messages_author_id", ["author_id"]⟩] }
  | .attachments => {
    columns := [word "id", word "message_id", limited "filename" 255, limited "content_type" 255,
      word "size", limited "storage_key" 512]
    primaryKey := ["id"]
    uniques := []
    references := [.to "message_id" .messages .cascade]
    indexes := [⟨"ix_attachments_message_id", ["message_id"]⟩] }
  | .reactions => {
    columns := [word "message_id", word "user_id", limited "emoji" 64,
      (time "created_at").withNow]
    primaryKey := ["message_id", "user_id", "emoji"]
    uniques := []
    references := [.to "message_id" .messages .cascade, .to "user_id" .users .cascade]
    indexes := [⟨"ix_reactions_message_emoji_time", ["message_id", "emoji", "created_at"]⟩] }
  | .directChannels => {
    columns := [word "id", (number "type").withDefault (.int 1), (word "owner_id").orNull,
      (limited "pair_key" 64).orNull, (time "created_at").withNow]
    primaryKey := ["id"]
    uniques := [⟨"uq_dm_channels_pair_key", ["pair_key"]⟩]
    references := [.to "owner_id" .users .clear]
    indexes := [] }
  | .recipients => {
    columns := [word "channel_id", word "user_id"]
    primaryKey := ["channel_id", "user_id"]
    uniques := []
    references := [.to "channel_id" .directChannels .cascade, .to "user_id" .users .cascade]
    indexes := [⟨"ix_dm_recipients_user_id", ["user_id"]⟩] }
  | .readStates => {
    columns := [word "user_id", word "channel_id", (word "last_message_id").withDefault (.int 0),
      (number "mention_count").withDefault (.int 0), (time "updated_at").withNow]
    primaryKey := ["user_id", "channel_id"]
    uniques := []
    references := [.to "user_id" .users .cascade]
    indexes := [] }
  | .voiceStates => {
    columns := [word "guild_id", word "user_id", word "channel_id", limited "session_id" 128,
      (flag "self_mute").withDefault (.flag false), (flag "self_deaf").withDefault (.flag false),
      (time "joined_at").withNow]
    primaryKey := ["guild_id", "user_id"]
    uniques := []
    references := [.to "guild_id" .guilds .cascade, .to "user_id" .users .cascade,
      .to "channel_id" .channels .cascade]
    indexes := [⟨"ix_voice_states_channel_joined", ["channel_id", "joined_at"]⟩] }

end Guildhall
