import Guildhall.Store.Cell

/-!
The sixteen tables: their names, their rows, and a row's cells.
-/

namespace Guildhall

inductive Table where
  | users
  | guilds
  | members
  | roles
  | memberRoles
  | channels
  | channelOverrides
  | bans
  | invites
  | messages
  | attachments
  | reactions
  | directChannels
  | recipients
  | readStates
  | voiceStates
  deriving DecidableEq, Repr

namespace Table

/-- Every table stands behind the tables that it refers to. -/
def all : List Table :=
  [.users, .guilds, .members, .roles, .memberRoles, .channels, .channelOverrides, .bans, .invites,
    .messages, .attachments, .reactions, .directChannels, .recipients, .readStates, .voiceStates]

def name : Table → String
  | .users => "users"
  | .guilds => "guilds"
  | .members => "members"
  | .roles => "roles"
  | .memberRoles => "member_roles"
  | .channels => "channels"
  | .channelOverrides => "channel_overrides"
  | .bans => "bans"
  | .invites => "invites"
  | .messages => "messages"
  | .attachments => "attachments"
  | .reactions => "reactions"
  | .directChannels => "dm_channels"
  | .recipients => "dm_recipients"
  | .readStates => "read_states"
  | .voiceStates => "voice_states"

def ofName? (name : String) : Option Table := all.find? (fun table => table.name = name)

@[reducible] def Row : Table → Type
  | .users => UserRow
  | .guilds => GuildRow
  | .members => MemberRow
  | .roles => Role
  | .memberRoles => MemberRoleRow
  | .channels => ChannelRow
  | .channelOverrides => ChannelOverride
  | .bans => BanRow
  | .invites => InviteRow
  | .messages => MessageRow
  | .attachments => Attachment
  | .reactions => ReactionRow
  | .directChannels => DirectChannelRow
  | .recipients => RecipientRow
  | .readStates => ReadStateRow
  | .voiceStates => VoiceStateRow

def cells : (table : Table) → table.Row → Cells
  | .users => UserRow.cells
  | .guilds => GuildRow.cells
  | .members => MemberRow.cells
  | .roles => Role.cells
  | .memberRoles => MemberRoleRow.cells
  | .channels => ChannelRow.cells
  | .channelOverrides => ChannelOverride.cells
  | .bans => BanRow.cells
  | .invites => InviteRow.cells
  | .messages => MessageRow.cells
  | .attachments => Attachment.cells
  | .reactions => ReactionRow.cells
  | .directChannels => DirectChannelRow.cells
  | .recipients => RecipientRow.cells
  | .readStates => ReadStateRow.cells
  | .voiceStates => VoiceStateRow.cells

def clear : (table : Table) → List String → table.Row → table.Row
  | .channels, names, row => if names = ["parent_id"] then { row with parentId := none } else row
  | .directChannels, names, row =>
    if names = ["owner_id"] then { row with ownerId := none } else row
  | _, _, row => row

end Table

end Guildhall
