import Guildhall.Calendar.DateTime

/-!
What callers hand to the stores and get back from them. Identifiers and permission sets are
integers of any size here; only the tables bound them.
-/

namespace Guildhall

open Calendar

inductive ChannelKind where
  | text
  | voice
  | category
  deriving DecidableEq, Repr

def ChannelKind.code : ChannelKind → Int
  | .text => 0
  | .voice => 2
  | .category => 4

def ChannelKind.ofCode? (code : Int) : Option ChannelKind :=
  if code = 0 then some .text
  else if code = 2 then some .voice
  else if code = 4 then some .category
  else none

inductive DirectKind where
  | pair
  | group
  deriving DecidableEq, Repr

def DirectKind.code : DirectKind → Int
  | .pair => 1
  | .group => 3

def DirectKind.ofCode? (code : Int) : Option DirectKind :=
  if code = 1 then some .pair
  else if code = 3 then some .group
  else none

structure User where
  id : Int
  username : String
  displayName : String
  avatarHash : Option String
  passwordHash : String
  createdAt : DateTime
  deriving DecidableEq, Repr

structure Guild where
  id : Int
  name : String
  iconHash : Option String
  ownerId : Int
  createdAt : DateTime
  deriving DecidableEq, Repr

structure Member where
  guildId : Int
  userId : Int
  nickname : Option String
  joinedAt : DateTime
  roles : List Int
  deriving DecidableEq, Repr

structure Role where
  id : Int
  guildId : Int
  name : String
  color : Int
  permissions : Int
  position : Int
  isDefault : Bool
  deriving DecidableEq, Repr

structure Ban where
  guildId : Int
  userId : Int
  reason : Option String
  createdBy : Int
  createdAt : DateTime
  deriving DecidableEq, Repr

structure Invite where
  code : String
  guildId : Int
  channelId : Option Int
  creatorId : Int
  maxUses : Int
  uses : Int
  expiresAt : Option DateTime
  createdAt : DateTime
  deriving DecidableEq, Repr

/-- A naive expiry counts as universal time, as does a naive `now`. -/
def Invite.isExpired (invite : Invite) (now : DateTime) : Bool :=
  match invite.expiresAt with
  | none => false
  | some expiry => expiry.instant ≤ now.instant

/-- An invite without a positive limit is never used up. -/
def Invite.isExhausted (invite : Invite) : Bool :=
  0 < invite.maxUses && invite.maxUses ≤ invite.uses

structure Channel where
  id : Int
  guildId : Int
  name : String
  kind : ChannelKind
  position : Int
  topic : Option String
  parentId : Option Int
  deriving DecidableEq, Repr

structure ChannelOverride where
  channelId : Int
  roleId : Int
  allow : Int
  deny : Int
  deriving DecidableEq, Repr

structure Message where
  id : Int
  channelId : Int
  authorId : Int
  content : String
  createdAt : DateTime
  editedAt : Option DateTime
  deriving DecidableEq, Repr

structure MessageWithAuthor extends Message where
  authorUsername : String
  authorDisplayName : String
  authorAvatarHash : Option String
  deriving DecidableEq, Repr

structure Attachment where
  id : Int
  messageId : Int
  filename : String
  contentType : String
  size : Int
  storageKey : String
  deriving DecidableEq, Repr

structure Reaction where
  messageId : Int
  userId : Int
  emoji : String
  createdAt : DateTime
  deriving DecidableEq, Repr

structure ReactionCount where
  emoji : String
  count : Int
  me : Bool
  deriving DecidableEq, Repr

structure DirectChannel where
  id : Int
  kind : DirectKind
  ownerId : Option Int
  recipients : List User
  createdAt : DateTime
  deriving DecidableEq, Repr

structure ReadState where
  userId : Int
  channelId : Int
  lastMessageId : Int
  mentionCount : Int
  updatedAt : DateTime
  deriving DecidableEq, Repr

structure VoiceState where
  guildId : Int
  channelId : Int
  userId : Int
  sessionId : String
  selfMute : Bool
  selfDeaf : Bool
  joinedAt : DateTime
  deriving DecidableEq, Repr

end Guildhall
