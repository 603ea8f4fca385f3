import Guildhall.Entity.Basic

/-!
The rows of the tables. Times are stored as the wall shows them, without an offset, and the kinds
of channels as numbers, which need not be those of a known kind. Roles, permission overrides and
attachments are stored as they are.
-/

namespace Guildhall

open Calendar

structure UserRow where
  id : Int
  username : String
  displayName : String
  avatarHash : Option String
  passwordHash : String
  createdAt : WallTime
  deriving DecidableEq, Repr

structure GuildRow where
  id : Int
  name : String
  iconHash : Option String
  ownerId : Int
  createdAt : WallTime
  deriving DecidableEq, Repr

structure MemberRow where
  guildId : Int
  userId : Int
  nickname : Option String
  joinedAt : WallTime
  deriving DecidableEq, Repr

structure MemberRoleRow where
  guildId : Int
  userId : Int
  roleId : Int
  deriving DecidableEq, Repr

structure ChannelRow where
  id : Int
  guildId : Int
  name : String
  kind : Int
  position : Int
  topic : Option String
  parentId : Option Int
  deriving DecidableEq, Repr

structure BanRow where
  guildId : Int
  userId : Int
  reason : Option String
  createdBy : Int
  createdAt : WallTime
  deriving DecidableEq, Repr

structure InviteRow where
  code : String
  guildId : Int
  channelId : Option Int
  creatorId : Int
  maxUses : Int
  uses : Int
  expiresAt : Option WallTime
  createdAt : WallTime
  deriving DecidableEq, Repr

structure MessageRow where
  id : Int
  channelId : Int
  authorId : Int
  content : String
  createdAt : WallTime
  editedAt : Option WallTime
  deriving DecidableEq, Repr

structure ReactionRow where
  messageId : Int
  userId : Int
  emoji : String
  createdAt : WallTime
  deriving DecidableEq, Repr

structure DirectChannelRow where
  id : Int
  kind : Int
  ownerId : Option Int
  pairKey : Option String
  createdAt : WallTime
  deriving DecidableEq, Repr

structure RecipientRow where
  channelId : Int
  userId : Int
  deriving DecidableEq, Repr

structure ReadStateRow where
  userId : Int
  channelId : Int
  lastMessageId : Int
  mentionCount : Int
  updatedAt : WallTime
  deriving DecidableEq, Repr

structure VoiceStateRow where
  guildId : Int
  userId : Int
  channelId : Int
  sessionId : String
  selfMute : Bool
  selfDeaf : Bool
  joinedAt : WallTime
  deriving DecidableEq, Repr

end Guildhall
