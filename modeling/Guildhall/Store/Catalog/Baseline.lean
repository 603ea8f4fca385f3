import Guildhall.Store.Catalog.Basic

/-!
The first migration: the steps that create the tables one by one, and the catalog that they leave.
-/

namespace Guildhall

inductive Part where
  | column (entry : Column)
  | key (entry : Column)
  | link (entry : Column) (target : Table) (onDelete : OnDelete)
  | keyLink (entry : Column) (target : Table) (onDelete : OnDelete)
  | unique (named : Named)
  | reference (link : Reference)
  deriving DecidableEq, Repr

namespace Part

def column? : Part → Option Column
  | .column entry | .key entry | .link entry .. | .keyLink entry .. => some entry
  | .unique _ | .reference _ => none

def key? : Part → Option String
  | .key entry | .keyLink entry .. => some entry.name
  | _ => none

def unique? : Part → Option Named
  | .unique named => some named
  | _ => none

def reference? : Part → Option Reference
  | .link entry target onDelete | .keyLink entry target onDelete =>
    some (.to entry.name target onDelete)
  | .reference entry => some entry
  | _ => none

end Part

inductive MigrationStep where
  | createTable (table : Table) (parts : List Part)
  | createIndex (table : Table) (index : Named)
  deriving DecidableEq, Repr

namespace MigrationStep

def parts (table : Table) : MigrationStep → List Part
  | .createTable created parts => if created = table then parts else []
  | .createIndex .. => []

def index? (table : Table) : MigrationStep → Option Named
  | .createIndex indexed index => if indexed = table then some index else none
  | .createTable .. => none

def created? : MigrationStep → Option Table
  | .createTable table _ => some table
  | .createIndex .. => none

def headline : MigrationStep → String
  | .createTable table _ => "CREATE TABLE " ++ table.name
  | .createIndex table index =>
    "CREATE INDEX " ++ index.name ++ " ON " ++ table.name ++ " (" ++
      ", ".intercalate index.columns ++ ");"

end MigrationStep

/-- The catalog that migration steps leave. -/
def Catalog.ofSteps (steps : List MigrationStep) : Catalog := fun table =>
  let parts := steps.flatMap (MigrationStep.parts table)
  { columns := parts.filterMap Part.column?
    primaryKey := parts.filterMap Part.key?
    uniques := parts.filterMap Part.unique?
    references := parts.filterMap Part.reference?
    indexes := steps.filterMap (MigrationStep.index? table) }

namespace Baseline

open Guildhall.Part Column

def createdAt : Part := .column (time "created_at").withNow
def joinedAt : Part := .column (time "joined_at").withNow

def steps : List MigrationStep := [
  .createTable .users [
    key (word "id"),
    column (limited "username" 32),
    column (limited "display_name" 64),
    column (limited "avatar_hash" 128).orNull,
    column (limited "password_hash" 255),
    createdAt,
    unique ⟨"uq_users_username", ["username"]⟩],
  .createTable .guilds [
    key (word "id"),
    column (limited "name" 100),
    column (limited "icon_hash" 128).orNull,
    link (word "owner_id") .users .refuse,
    createdAt],
  .createTable .members [
    keyLink (word "guild_id") .guilds .cascade,
    keyLink (word "user_id") .users .cascade,
    column (limited "nickname" 32).orNull,
    joinedAt],
  .createIndex .members ⟨"ix_members_user_id", ["user_id"]⟩,
  .createIndex .members ⟨"ix_members_guild_joined", ["guild_id", "joined_at"]⟩,
  .createTable .roles [
    key (word "id"),
    link (word "guild_id") .guilds .cascade,
    column (limited "name" 100),
    column ((number "color").withDefault (.int 0)),
    column ((word "permissions").withDefault (.int 0)),
    column ((number "position").withDefault (.int 0)),
    column ((flag "is_default").withDefault (.flag false))],
  .createIndex .roles ⟨"ix_roles_guild_position", ["guild_id", "position"]⟩,
  .createTable .memberRoles [
    key (word "guild_id"),
    key (word "user_id"),
    keyLink (word "role_id") .roles .cascade,
    reference ⟨["guild_id", "user_id"], .members, ["guild_id", "user_id"], .cascade⟩],
  .createIndex .memberRoles ⟨"ix_member_roles_role_id", ["role_id"]⟩,
  .createTable .channels [
    key (word "id"),
    link (word "guild_id") .guilds .cascade,
    column (limited "name" 100),
    column ((number "type").withDefault (.int 0)),
    column ((number "position").withDefault (.int 0)),
    column (text "topic").orNull,
    link (word "parent_id").orNull .channels .clear,
    unique ⟨"uq_channels_guild_name", ["guild_id", "name"]⟩],
  .createIndex .channels ⟨"ix_channels_guild_position", ["guild_id", "position", "id"]⟩,
  .createTable .channelOverrides [
    keyLink (word "channel_id") .channels .cascade,
    keyLink (word "role_id") .roles .cascade,
    column ((word "allow_perms").withDefault (.int 0)),
    column ((word "deny_perms").withDefault (.int 0))],
  .createTable .bans [
    keyLink (word "guild_id") .guilds .cascade,
    keyLink (word "user_id") .users .cascade,
    column (text "reason").orNull,
    column (word "created_by"),
    createdAt],
  .createIndex .bans ⟨"ix_bans_guild_created", ["guild_id", "created_at"]⟩,
  .createTable .invites [
    key (limited "code" 32),
    link (word "guild_id") .guilds .cascade,
    link (word "channel_id").orNull .channels .cascade,
    link (word "creator_id") .users .cascade,
    column ((number "max_uses").withDefault (.int 0)),
    column ((number "uses").withDefault (.int 0)),
    column (time "expires_at").orNull,
    createdAt],
  .createIndex .invites ⟨"ix_invites_guild_created", ["guild_id", "created_at"]⟩,
  .createTable .messages [
    key (word "id"),
    column (word "channel_id"),
    link (word "author_id") .users .cascade,
    column (text "content"),
    createdAt,
    column (time "edited_at").orNull],
  .createIndex .messages ⟨"ix_messages_channel_id_id", ["channel_id", "id"]⟩,
  .createIndex .messages ⟨"ix_messages_author_id", ["author_id"]⟩,
  .createTable .attachments [
    key (word "id"),
    link (word "message_id") .messages .cascade,
    column (limited "filename" 255),
    column (limited "content_type" 255),
    column (word "size"),
    column (limited "storage_key" 512)],
  .createIndex .attachments ⟨"ix_attachments_message_id", ["message_id"]⟩,
  .createTable .reactions [
    keyLink (word "message_id") .messages .cascade,
    keyLink (word "user_id") .users .cascade,
    key (limited "emoji" 64),
    createdAt],
  .createIndex .reactions
    ⟨"ix_reactions_message_emoji_time", ["message_id", "emoji", "created_at"]⟩,
  .createTable .directChannels [
    key (word "id"),
    column ((number "type").withDefault (.int 1)),
    link (word "owner_id").orNull .users .clear,
    column (limited "pair_key" 64).orNull,
    createdAt,
    unique ⟨"uq_dm_channels_pair_key", ["pair_key"]⟩],
  .createTable .recipients [
    keyLink (word "channel_id") .directChannels .cascade,
    keyLink (word "user_id") .users .cascade],
  .createIndex .recipients ⟨"ix_dm_recipients_user_id", ["user_id"]⟩,
  .createTable .readStates [
    keyLink (word "user_id") .users .cascade,
    key (word "channel_id"),
    column ((word "last_message_id").withDefault (.int 0)),
    column ((number "mention_count").withDefault (.int 0)),
    .column (time "updated_at").withNow],
  .createTable .voiceStates [
    keyLink (word "guild_id") .guilds .cascade,
    keyLink (word "user_id") .users .cascade,
    link (word "channel_id") .channels .cascade,
    column (limited "session_id" 128),
    column ((flag "self_mute").withDefault (.flag false)),
    column ((flag "self_deaf").withDefault (.flag false)),
    joinedAt],
  .createIndex .voiceStates ⟨"ix_voice_states_channel_joined", ["channel_id", "joined_at"]⟩]

def catalog : Catalog := .ofSteps steps

def dropped : List Table := (steps.filterMap MigrationStep.created?).reverse

def upgradeLines : List String := steps.map MigrationStep.headline

def downgradeLines : List String := dropped.map fun table => "DROP TABLE " ++ table.name ++ ";"

end Baseline

end Guildhall
