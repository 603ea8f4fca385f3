import Guildhall.Store.Table
import Guildhall.Text.Quoted

/-!
Short labels of rows: what the row is, and a few of its cells. Names are quoted.
-/

namespace Guildhall

structure LabelPart where
  word : String
  column : String
  quotes : Bool
  deriving DecidableEq, Repr

namespace Table

def rowName : Table → String
  | .users => "User"
  | .guilds => "Guild"
  | .members => "Member"
  | .roles => "Role"
  | .memberRoles => "MemberRole"
  | .channels => "Channel"
  | .channelOverrides => "ChannelOverride"
  | .bans => "Ban"
  | .invites => "Invite"
  | .messages => "Message"
  | .attachments => "Attachment"
  | .reactions => "Reaction"
  | .directChannels => "DMChannel"
  | .recipients => "DMRecipient"
  | .readStates => "ReadState"
  | .voiceStates => "VoiceState"

def ofRowName? (name : String) : Option Table := all.find? (fun table => table.rowName = name)

def labelParts : Table → List LabelPart
  | .users => [⟨"id", "id", false⟩, ⟨"username", "username", true⟩]
  | .guilds => [⟨"id", "id", false⟩, ⟨"name", "name", true⟩]
  | .members | .bans => [⟨"guild", "guild_id", false⟩, ⟨"user", "user_id", false⟩]
  | .roles => [⟨"id", "id", false⟩, ⟨"name", "name", true⟩, ⟨"pos", "position", false⟩]
  | .memberRoles =>
    [⟨"guild", "guild_id", false⟩, ⟨"user", "user_id", false⟩, ⟨"role", "role_id", false⟩]
  | .channels => [⟨"id", "id", false⟩, ⟨"name", "name", true⟩, ⟨"type", "type", false⟩]
  | .channelOverrides => [⟨"channel", "channel_id", false⟩, ⟨"role", "role_id", false⟩]
  | .invites => [⟨"code", "code", true⟩, ⟨"guild", "guild_id", false⟩, ⟨"uses", "uses", false⟩]
  | .messages =>
    [⟨"id", "id", false⟩, ⟨"channel", "channel_id", false⟩, ⟨"author", "author_id", false⟩]
  | .attachments =>
    [⟨"id", "id", false⟩, ⟨"message", "message_id", false⟩, ⟨"file", "filename", true⟩]
  | .reactions =>
    [⟨"message", "message_id", false⟩, ⟨"user", "user_id", false⟩, ⟨"emoji", "emoji", true⟩]
  | .directChannels => [⟨"id", "id", false⟩, ⟨"type", "type", false⟩]
  | .recipients => [⟨"channel", "channel_id", false⟩, ⟨"user", "user_id", false⟩]
  | .readStates =>
    [⟨"user", "user_id", false⟩, ⟨"channel", "channel_id", false⟩,
      ⟨"last", "last_message_id", false⟩, ⟨"mentions", "mention_count", false⟩]
  | .voiceStates =>
    [⟨"guild", "guild_id", false⟩, ⟨"user", "user_id", false⟩, ⟨"channel", "channel_id", false⟩]

end Table

namespace LabelPart

def value (part : LabelPart) : Cell → String
  | .null => "None"
  | .int n => toString n
  | .text s => if part.quotes then Text.quoted s else s
  | .flag b => if b then "True" else "False"
  | .time t => t.storedText

def render (part : LabelPart) (cells : Cells) : String :=
  " " ++ part.word ++ "=" ++ part.value ((cells.get? part.column).getD .null)

end LabelPart

def Table.label (table : Table) (cells : Cells) : String :=
  "<" ++ table.rowName ++ String.join (table.labelParts.map fun part => part.render cells) ++ ">"

end Guildhall
