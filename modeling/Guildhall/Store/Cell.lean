import Guildhall.Store.Row
import Guildhall.Json.Value
import Guildhall.Decimal.Word

/-!
Rows as named cells. Constraints are stated over cells, so that one rule serves every table.
-/

namespace Guildhall

open Calendar

inductive Cell where
  | null
  | int (n : Int)
  | text (s : String)
  | flag (b : Bool)
  | time (t : WallTime)
  deriving DecidableEq, Repr

abbrev Cells := List (String × Cell)

namespace Cell

def ofInt? : Option Int → Cell
  | some n => .int n
  | none => .null

def ofText? : Option String → Cell
  | some s => .text s
  | none => .null

def ofTime? : Option WallTime → Cell
  | some t => .time t
  | none => .null

def compare : Cell → Cell → Ordering
  | .int a, .int b => Ord.compare a b
  | .text a, .text b => Ord.compare a b
  | .int _, .text _ => .lt
  | .text _, .int _ => .gt
  | _, _ => .eq

/-- Flags are shown as numbers, and an integer beyond the words of the storage as a real. -/
def toJson : Cell → Json
  | .null => .null
  | .int n => if fitsWord n then .whole n else .real (.ofInt n)
  | .text s => .text s
  | .flag b => .whole (if b then 1 else 0)
  | .time t => .text t.storedText

end Cell

namespace Cells

def get? (cells : Cells) (name : String) : Option Cell := cells.lookup name

def integers (cells : Cells) : List Int :=
  cells.filterMap fun
    | (_, .int n) => some n
    | _ => none

def key? (cells : Cells) (names : List String) : Option (List Cell) :=
  names.mapM fun name =>
    match cells.get? name with
    | none | some .null => none
    | some cell => some cell

end Cells

def UserRow.cells (r : UserRow) : Cells := [
  ("id", .int r.id),
  ("username", .text r.username),
  ("display_name", .text r.displayName),
  ("avatar_hash", .ofText? r.avatarHash),
  ("password_hash", .text r.passwordHash),
  ("created_at", .time r.createdAt)]

def GuildRow.cells (r : GuildRow) : Cells := [
  ("id", .int r.id),
  ("name", .text r.name),
  ("icon_hash", .ofText? r.iconHash),
  ("owner_id", .int r.ownerId),
  ("created_at", .time r.createdAt)]

def MemberRow.cells (r : MemberRow) : Cells := [
  ("guild_id", .int r.guildId),
  ("user_id", .int r.userId),
  ("nickname", .ofText? r.nickname),
  ("joined_at", .time r.joinedAt)]

def Role.cells (r : Role) : Cells := [
  ("id", .int r.id),
  ("guild_id", .int r.guildId),
  ("name", .text r.name),
  ("color", .int r.color),
  ("permissions", .int r.permissions),
  ("position", .int r.position),
  ("is_default", .flag r.isDefault)]

def MemberRoleRow.cells (r : MemberRoleRow) : Cells := [
  ("guild_id", .int r.guildId),
  ("user_id", .int r.userId),
  ("role_id", .int r.roleId)]

def ChannelRow.cells (r : ChannelRow) : Cells := [
  ("id", .int r.id),
  ("guild_id", .int r.guildId),
  ("name", .text r.name),
  ("type", .int r.kind),
  ("position", .int r.position),
  ("topic", .ofText? r.topic),
  ("parent_id", .ofInt? r.parentId)]

def ChannelOverride.cells (r : ChannelOverride) : Cells := [
  ("channel_id", .int r.channelId),
  ("role_id", .int r.roleId),
  ("allow_perms", .int r.allow),
  ("deny_perms", .int r.deny)]

def BanRow.cells (r : BanRow) : Cells := [
  ("guild_id", .int r.guildId),
  ("user_id", .int r.userId),
  ("reason", .ofText? r.reason),
  ("created_by", .int r.createdBy),
  ("created_at", .time r.createdAt)]

def InviteRow.cells (r : InviteRow) : Cells := [
  ("code", .text r.code),
  ("guild_id", .int r.guildId),
  ("channel_id", .ofInt? r.channelId),
  ("creator_id", .int r.creatorId),
  ("max_uses", .int r.maxUses),
  ("uses", .int r.uses),
  ("expires_at", .ofTime? r.expiresAt),
  ("created_at", .time r.createdAt)]

def MessageRow.cells (r : MessageRow) : Cells := [
  ("id", .int r.id),
  ("channel_id", .int r.channelId),
  ("author_id", .int r.authorId),
  ("content", .text r.content),
  ("created_at", .time r.createdAt),
  ("edited_at", .ofTime? r.editedAt)]

def Attachment.cells (r : Attachment) : Cells := [
  ("id", .int r.id),
  ("message_id", .int r.messageId),
  ("filename", .text r.filename),
  ("content_type", .text r.contentType),
  ("size", .int r.size),
  ("storage_key", .text r.storageKey)]

def ReactionRow.cells (r : ReactionRow) : Cells := [
  ("message_id", .int r.messageId),
  ("user_id", .int r.userId),
  ("emoji", .text r.emoji),
  ("created_at", .time r.createdAt)]

def DirectChannelRow.cells (r : DirectChannelRow) : Cells := [
  ("id", .int r.id),
  ("type", .int r.kind),
  ("owner_id", .ofInt? r.ownerId),
  ("pair_key", .ofText? r.pairKey),
  ("created_at", .time r.createdAt)]

def RecipientRow.cells (r : RecipientRow) : Cells := [
  ("channel_id", .int r.channelId),
  ("user_id", .int r.userId)]

def ReadStateRow.cells (r : ReadStateRow) : Cells := [
  ("user_id", .int r.userId),
  ("channel_id", .int r.channelId),
  ("last_message_id", .int r.lastMessageId),
  ("mention_count", .int r.mentionCount),
  ("updated_at", .time r.updatedAt)]

def VoiceStateRow.cells (r : VoiceStateRow) : Cells := [
  ("guild_id", .int r.guildId),
  ("user_id", .int r.userId),
  ("channel_id", .int r.channelId),
  ("session_id", .text r.sessionId),
  ("self_mute", .flag r.selfMute),
  ("self_deaf", .flag r.selfDeaf),
  ("joined_at", .time r.joinedAt)]

end Guildhall
