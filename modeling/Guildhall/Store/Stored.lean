import Guildhall.Store.Row
import Guildhall.Store.Failure
import Guildhall.Decimal.Word

/-!
Entities as rows, and rows as entities. Times lose their offset when they are stored and come back
naive. A row is no valid entity if its kind of channel is unknown or a counter has left the words
of the storage.
-/

namespace Guildhall

open Calendar

def User.row (u : User) : UserRow :=
  ⟨u.id, u.username, u.displayName, u.avatarHash, u.passwordHash, u.createdAt.wall⟩

def UserRow.user (r : UserRow) : User :=
  ⟨r.id, r.username, r.displayName, r.avatarHash, r.passwordHash, r.createdAt.naive⟩

def Guild.row (g : Guild) : GuildRow := ⟨g.id, g.name, g.iconHash, g.ownerId, g.createdAt.wall⟩

def GuildRow.guild (r : GuildRow) : Guild :=
  ⟨r.id, r.name, r.iconHash, r.ownerId, r.createdAt.naive⟩

def Member.row (m : Member) : MemberRow := ⟨m.guildId, m.userId, m.nickname, m.joinedAt.wall⟩

def MemberRow.member (r : MemberRow) (roles : List Int) : Member :=
  ⟨r.guildId, r.userId, r.nickname, r.joinedAt.naive, roles⟩

def Ban.row (b : Ban) : BanRow := ⟨b.guildId, b.userId, b.reason, b.createdBy, b.createdAt.wall⟩

def BanRow.ban (r : BanRow) : Ban :=
  ⟨r.guildId, r.userId, r.reason, r.createdBy, r.createdAt.naive⟩

/-- A counter of a stored row, as far as it is still an integer of the storage. -/
def storedCount (schema : Form.Schema) (name : String) (count : Int) : Except Failure Int :=
  if fitsWord count then .ok count
  else .error (.unreadable schema [⟨[.field name], .integerTooLong⟩])

def Invite.row (i : Invite) : InviteRow :=
  ⟨i.code, i.guildId, i.channelId, i.creatorId, i.maxUses, i.uses, i.expiresAt.map DateTime.wall,
    i.createdAt.wall⟩

def InviteRow.invite (r : InviteRow) : Except Failure Invite :=
  (storedCount .invite "uses" r.uses).map fun uses =>
    ⟨r.code, r.guildId, r.channelId, r.creatorId, r.maxUses, uses, r.expiresAt.map WallTime.naive,
      r.createdAt.naive⟩

def Channel.row (c : Channel) : ChannelRow :=
  ⟨c.id, c.guildId, c.name, c.kind.code, c.position, c.topic, c.parentId⟩

def ChannelRow.channel (r : ChannelRow) : Except Failure Channel :=
  match ChannelKind.ofCode? r.kind with
  | some kind => .ok ⟨r.id, r.guildId, r.name, kind, r.position, r.topic, r.parentId⟩
  | none => .error (.unreadable .channel [⟨[.field "type"], .notChoice Form.channelChoices⟩])

def Message.row (m : Message) : MessageRow :=
  ⟨m.id, m.channelId, m.authorId, m.content, m.createdAt.wall, m.editedAt.map DateTime.wall⟩

def MessageRow.message (r : MessageRow) : Message :=
  ⟨r.id, r.channelId, r.authorId, r.content, r.createdAt.naive, r.editedAt.map WallTime.naive⟩

def MessageRow.withAuthor (r : MessageRow) (author : UserRow) : MessageWithAuthor :=
  { r.message with
    authorUsername := author.username
    authorDisplayName := author.displayName
    authorAvatarHash := author.avatarHash }

def ReactionRow.reaction (r : ReactionRow) : Reaction :=
  ⟨r.messageId, r.userId, r.emoji, r.createdAt.naive⟩

def DirectChannelRow.channel (r : DirectChannelRow) (recipients : List User) :
    Except Failure DirectChannel :=
  match DirectKind.ofCode? r.kind with
  | some kind => .ok ⟨r.id, kind, r.ownerId, recipients, r.createdAt.naive⟩
  | none => .error (.unreadable .directChannel [⟨[.field "type"], .notChoice Form.directChoices⟩])

def ReadStateRow.state (r : ReadStateRow) : Except Failure ReadState :=
  (storedCount .readState "mention_count" r.mentionCount).map fun count =>
    ⟨r.userId, r.channelId, r.lastMessageId, count, r.updatedAt.naive⟩

def VoiceState.row (s : VoiceState) : VoiceStateRow :=
  ⟨s.guildId, s.userId, s.channelId, s.sessionId, s.selfMute, s.selfDeaf, s.joinedAt.wall⟩

def VoiceStateRow.state (r : VoiceStateRow) : VoiceState :=
  ⟨r.guildId, r.channelId, r.userId, r.sessionId, r.selfMute, r.selfDeaf, r.joinedAt.naive⟩

end Guildhall
