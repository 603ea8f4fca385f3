import Guildhall.Form.Scalar

/-!
Reading entities. Fields that have a default may be left out; unknown fields are ignored.
-/

namespace Guildhall.Form

open Calendar

abbrev Fields := List (String × Json)

def required {α : Type} (fields : Fields) (name : String) (read : Json → Checked α) : Checked α :=
  match Json.field? fields name with
  | some value => (read value).under (.field name)
  | none => Checked.under (.field name) (.fault .missing)

def optional {α : Type} (fields : Fields) (name : String) (read : Json → Checked α) (default : α) :
    Checked α :=
  match Json.field? fields name with
  | some value => (read value).under (.field name)
  | none => .valid default

/-- What reading depends on besides the form: where it comes from, and the time of now, which is
the default of the dates of creation. -/
structure Setting where
  source : Source
  now : DateTime

def entity {α : Type} (setting : Setting) (read : Fields → Checked α) : Json → Checked α
  | .object fields => read fields
  | _ => .fault (match setting.source with | .values => .notEntity | .text => .notObject)

variable (setting : Setting) (fields : Fields)

def user : Checked User :=
  User.mk <$> required fields "id" identifier
    <*> required fields "username" text
    <*> required fields "display_name" text
    <*> optional fields "avatar_hash" (nullable text) none
    <*> optional fields "password_hash" text ""
    <*> optional fields "created_at" (time setting.source) setting.now

def guild : Checked Guild :=
  Guild.mk <$> required fields "id" identifier
    <*> required fields "name" text
    <*> optional fields "icon_hash" (nullable text) none
    <*> required fields "owner_id" identifier
    <*> optional fields "created_at" (time setting.source) setting.now

def member : Checked Member :=
  Member.mk <$> required fields "guild_id" identifier
    <*> required fields "user_id" identifier
    <*> optional fields "nickname" (nullable text) none
    <*> optional fields "joined_at" (time setting.source) setting.now
    <*> optional fields "roles" (listOf identifier) []

def role : Checked Role :=
  Role.mk <$> required fields "id" identifier
    <*> required fields "guild_id" identifier
    <*> required fields "name" text
    <*> optional fields "color" integer 0
    <*> optional fields "permissions" identifier 0
    <*> optional fields "position" integer 0
    <*> optional fields "is_default" flag false

def ban : Checked Ban :=
  Ban.mk <$> required fields "guild_id" identifier
    <*> required fields "user_id" identifier
    <*> optional fields "reason" (nullable text) none
    <*> required fields "created_by" identifier
    <*> optional fields "created_at" (time setting.source) setting.now

def invite : Checked Invite :=
  Invite.mk <$> required fields "code" text
    <*> required fields "guild_id" identifier
    <*> optional fields "channel_id" (nullable identifier) none
    <*> required fields "creator_id" identifier
    <*> optional fields "max_uses" integer 0
    <*> optional fields "uses" integer 0
    <*> optional fields "expires_at" (nullable (time setting.source)) none
    <*> optional fields "created_at" (time setting.source) setting.now

def channel : Checked Channel :=
  Channel.mk <$> required fields "id" identifier
    <*> required fields "guild_id" identifier
    <*> required fields "name" text
    <*> optional fields "type" channelKind .text
    <*> optional fields "position" integer 0
    <*> optional fields "topic" (nullable text) none
    <*> optional fields "parent_id" (nullable identifier) none

def channelOverride : Checked ChannelOverride :=
  ChannelOverride.mk <$> required fields "channel_id" identifier
    <*> required fields "role_id" identifier
    <*> optional fields "allow" identifier 0
    <*> optional fields "deny" identifier 0

def message : Checked Message :=
  Message.mk <$> required fields "id" identifier
    <*> required fields "channel_id" identifier
    <*> required fields "author_id" identifier
    <*> required fields "content" text
    <*> optional fields "created_at" (time setting.source) setting.now
    <*> optional fields "edited_at" (nullable (time setting.source)) none

def messageWithAuthor : Checked MessageWithAuthor :=
  MessageWithAuthor.mk <$> message setting fields
    <*> required fields "author_username" text
    <*> required fields "author_display_name" text
    <*> optional fields "author_avatar_hash" (nullable text) none

def attachment : Checked Attachment :=
  Attachment.mk <$> required fields "id" identifier
    <*> required fields "message_id" identifier
    <*> required fields "filename" text
    <*> required fields "content_type" text
    <*> required fields "size" integer
    <*> required fields "storage_key" text

def reaction : Checked Reaction :=
  Reaction.mk <$> required fields "message_id" identifier
    <*> required fields "user_id" identifier
    <*> required fields "emoji" text
    <*> optional fields "created_at" (time setting.source) setting.now

def reactionCount : Checked ReactionCount :=
  ReactionCount.mk <$> required fields "emoji" text
    <*> required fields "count" integer
    <*> required fields "me" flag

def directChannel : Checked DirectChannel :=
  DirectChannel.mk <$> required fields "id" identifier
    <*> optional fields "type" directKind .pair
    <*> optional fields "owner_id" (nullable identifier) none
    <*> optional fields "recipients" (listOf (entity setting (user setting))) []
    <*> optional fields "created_at" (time setting.source) setting.now

def readState : Checked ReadState :=
  ReadState.mk <$> required fields "user_id" identifier
    <*> required fields "channel_id" identifier
    <*> required fields "last_message_id" identifier
    <*> optional fields "mention_count" integer 0
    <*> optional fields "updated_at" (time setting.source) setting.now

def voiceState : Checked VoiceState :=
  VoiceState.mk <$> required fields "guild_id" identifier
    <*> required fields "channel_id" identifier
    <*> required fields "user_id" identifier
    <*> required fields "session_id" text
    <*> optional fields "self_mute" flag false
    <*> optional fields "self_deaf" flag false
    <*> optional fields "joined_at" (time setting.source) setting.now

end Guildhall.Form
