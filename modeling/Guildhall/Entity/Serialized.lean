import Guildhall.Entity.Basic
import Guildhall.Json.Value

/-!
The JSON form of every entity. Identifiers and permission sets are written as text, and password
hashes and storage keys are not written at all.
-/

namespace Guildhall

open Calendar

namespace Json

def ofTime (t : DateTime) : Json := .text t.text
def ofText? (value : Option String) : Json := ofOption .text value
def ofId? (value : Option Int) : Json := ofOption ofId value
def ofTime? (value : Option DateTime) : Json := ofOption ofTime value

end Json

def User.toJson (u : User) : Json := .object [
  ("id", .ofId u.id),
  ("username", .text u.username),
  ("display_name", .text u.displayName),
  ("avatar_hash", .ofText? u.avatarHash),
  ("created_at", .ofTime u.createdAt)]

def Guild.toJson (g : Guild) : Json := .object [
  ("id", .ofId g.id),
  ("name", .text g.name),
  ("icon_hash", .ofText? g.iconHash),
  ("owner_id", .ofId g.ownerId),
  ("created_at", .ofTime g.createdAt)]

def Member.toJson (m : Member) : Json := .object [
  ("guild_id", .ofId m.guildId),
  ("user_id", .ofId m.userId),
  ("nickname", .ofText? m.nickname),
  ("joined_at", .ofTime m.joinedAt),
  ("roles", .list (m.roles.map .ofId))]

def Role.toJson (r : Role) : Json := .object [
  ("id", .ofId r.id),
  ("guild_id", .ofId r.guildId),
  ("name", .text r.name),
  ("color", .ofInt r.color),
  ("permissions", .ofId r.permissions),
  ("position", .ofInt r.position),
  ("is_default", .flag r.isDefault)]

def Ban.toJson (b : Ban) : Json := .object [
  ("guild_id", .ofId b.guildId),
  ("user_id", .ofId b.userId),
  ("reason", .ofText? b.reason),
  ("created_by", .ofId b.createdBy),
  ("created_at", .ofTime b.createdAt)]

def Invite.toJson (i : Invite) : Json := .object [
  ("code", .text i.code),
  ("guild_id", .ofId i.guildId),
  ("channel_id", .ofId? i.channelId),
  ("creator_id", .ofId i.creatorId),
  ("max_uses", .ofInt i.maxUses),
  ("uses", .ofInt i.uses),
  ("expires_at", .ofTime? i.expiresAt),
  ("created_at", .ofTime i.createdAt)]

def Channel.toJson (c : Channel) : Json := .object [
  ("id", .ofId c.id),
  ("guild_id", .ofId c.guildId),
  ("name", .text c.name),
  ("type", .ofInt c.kind.code),
  ("position", .ofInt c.position),
  ("topic", .ofText? c.topic),
  ("parent_id", .ofId? c.parentId)]

def ChannelOverride.toJson (o : ChannelOverride) : Json := .object [
  ("channel_id", .ofId o.channelId),
  ("role_id", .ofId o.roleId),
  ("allow", .ofId o.allow),
  ("deny", .ofId o.deny)]

def Message.fields (m : Message) : List (String × Json) := [
  ("id", .ofId m.id),
  ("channel_id", .ofId m.channelId),
  ("author_id", .ofId m.authorId),
  ("content", .text m.content),
  ("created_at", .ofTime m.createdAt),
  ("edited_at", .ofTime? m.editedAt)]

def Message.toJson (m : Message) : Json := .object m.fields

def MessageWithAuthor.toJson (m : MessageWithAuthor) : Json := .object (m.toMessage.fields ++ [
  ("author_username", .text m.authorUsername),
  ("author_display_name", .text m.authorDisplayName),
  ("author_avatar_hash", .ofText? m.authorAvatarHash)])

def Attachment.toJson (a : Attachment) : Json := .object [
  ("id", .ofId a.id),
  ("message_id", .ofId a.messageId),
  ("filename", .text a.filename),
  ("content_type", .text a.contentType),
  ("size", .ofInt a.size)]

def Reaction.toJson (r : Reaction) : Json := .object [
  ("message_id", .ofId r.messageId),
  ("user_id", .ofId r.userId),
  ("emoji", .text r.emoji),
  ("created_at", .ofTime r.createdAt)]

def ReactionCount.toJson (r : ReactionCount) : Json := .object [
  ("emoji", .text r.emoji),
  ("count", .ofInt r.count),
  ("me", .flag r.me)]

def DirectChannel.toJson (c : DirectChannel) : Json := .object [
  ("id", .ofId c.id),
  ("type", .ofInt c.kind.code),
  ("owner_id", .ofId? c.ownerId),
  ("recipients", .list (c.recipients.map User.toJson)),
  ("created_at", .ofTime c.createdAt)]

def ReadState.toJson (s : ReadState) : Json := .object [
  ("user_id", .ofId s.userId),
  ("channel_id", .ofId s.channelId),
  ("last_message_id", .ofId s.lastMessageId),
  ("mention_count", .ofInt s.mentionCount),
  ("updated_at", .ofTime s.updatedAt)]

def VoiceState.toJson (s : VoiceState) : Json := .object [
  ("guild_id", .ofId s.guildId),
  ("channel_id", .ofId s.channelId),
  ("user_id", .ofId s.userId),
  ("session_id", .text s.sessionId),
  ("self_mute", .flag s.selfMute),
  ("self_deaf", .flag s.selfDeaf),
  ("joined_at", .ofTime s.joinedAt)]

end Guildhall
