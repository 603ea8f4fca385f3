import Guildhall.Form.Entity
import Guildhall.Entity.Serialized
import Guildhall.Json.Reader

/-!
Every kind of entity by name, and the normal form of its JSON: read as a form, then serialised.
-/

namespace Guildhall.Form

inductive Schema where
  | user
  | guild
  | member
  | role
  | ban
  | invite
  | channel
  | channelOverride
  | message
  | messageWithAuthor
  | attachment
  | reaction
  | reactionCount
  | directChannel
  | readState
  | voiceState
  deriving DecidableEq, Repr

namespace Schema

def all : List Schema :=
  [.user, .guild, .member, .role, .ban, .invite, .channel, .channelOverride, .message,
    .messageWithAuthor, .attachment, .reaction, .reactionCount, .directChannel, .readState,
    .voiceState]

def title : Schema → String
  | .user => "User"
  | .guild => "Guild"
  | .member => "Member"
  | .role => "Role"
  | .ban => "Ban"
  | .invite => "Invite"
  | .channel => "Channel"
  | .channelOverride => "ChannelOverride"
  | .message => "Message"
  | .messageWithAuthor => "MessageWithAuthor"
  | .attachment => "Attachment"
  | .reaction => "Reaction"
  | .reactionCount => "ReactionCount"
  | .directChannel => "DMChannel"
  | .readState => "ReadState"
  | .voiceState => "VoiceState"

def ofTitle? (title : String) : Option Schema := all.find? (fun schema => schema.title = title)

end Schema

def normalForm (schema : Schema) (setting : Setting) (input : Json) : Checked Json :=
  match schema with
  | .user => (entity setting (user setting) input).map User.toJson
  | .guild => (entity setting (guild setting) input).map Guild.toJson
  | .member => (entity setting (member setting) input).map Member.toJson
  | .role => (entity setting role input).map Role.toJson
  | .ban => (entity setting (ban setting) input).map Ban.toJson
  | .invite => (entity setting (invite setting) input).map Invite.toJson
  | .channel => (entity setting channel input).map Channel.toJson
  | .channelOverride => (entity setting channelOverride input).map ChannelOverride.toJson
  | .message => (entity setting (message setting) input).map Message.toJson
  | .messageWithAuthor =>
    (entity setting (messageWithAuthor setting) input).map MessageWithAuthor.toJson
  | .attachment => (entity setting attachment input).map Attachment.toJson
  | .reaction => (entity setting (reaction setting) input).map Reaction.toJson
  | .reactionCount => (entity setting reactionCount input).map ReactionCount.toJson
  | .directChannel => (entity setting (directChannel setting) input).map DirectChannel.toJson
  | .readState => (entity setting (readState setting) input).map ReadState.toJson
  | .voiceState => (entity setting (voiceState setting) input).map VoiceState.toJson

def normalFormOfText (schema : Schema) (now : Calendar.DateTime) (input : String) : Checked Json :=
  match Json.read? input with
  | some value => normalForm schema ⟨.text, now⟩ value
  | none => .fault .notJson

end Guildhall.Form
