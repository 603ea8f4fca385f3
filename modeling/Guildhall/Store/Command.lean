import Guildhall.Store.Users
import Guildhall.Store.Guilds
import Guildhall.Store.Members
import Guildhall.Store.Bans
import Guildhall.Store.Invites
import Guildhall.Store.Channels
import Guildhall.Store.Messages
import Guildhall.Store.Reactions
import Guildhall.Store.Finder
import Guildhall.Store.ReadStates
import Guildhall.Store.VoiceStates
import Guildhall.Store.Answer

/-!
Everything that a caller can ask of the stores, as data. A write is one transaction; a question
never changes anything; finding or creating a direct channel takes several transactions.
-/

namespace Guildhall

open Calendar

inductive Write where
  | createUser (user : User)
  | updateUser (user : User)
  | deleteUser (id : Int)
  | createGuild (guild : Guild)
  | updateGuild (guild : Guild)
  | deleteGuild (id : Int)
  | createMember (member : Member)
  | updateMember (member : Member)
  | deleteMember (guildId userId : Int)
  | addMemberRole (guildId userId roleId : Int)
  | removeMemberRole (guildId userId roleId : Int)
  | createRole (role : Role)
  | updateRole (role : Role)
  | deleteRole (id : Int)
  | createBan (ban : Ban)
  | deleteBan (guildId userId : Int)
  | createInvite (invite : Invite)
  | incrementInviteUses (code : String)
  | deleteInvite (code : String)
  | createChannel (channel : Channel)
  | updateChannel (channel : Channel)
  | deleteChannel (id : Int)
  | setOverride (override : ChannelOverride)
  | deleteOverride (channelId roleId : Int)
  | createMessage (message : Message)
  | updateMessage (message : Message)
  | deleteMessage (id : Int)
  | createAttachment (attachment : Attachment)
  | deleteAttachment (id : Int)
  | deleteAttachmentsOf (messageId : Int)
  | addReaction (messageId userId : Int) (emoji : String) (createdAt : Option DateTime)
  | removeReaction (messageId userId : Int) (emoji : String)
  | createDirect (id : Int) (recipients : List Int) (kind : Int) (ownerId : Option Int)
      (createdAt : Option DateTime)
  | deleteDirect (id : Int)
  | addRecipient (channelId userId : Int)
  | removeRecipient (channelId userId : Int)
  | upsertReadState (userId channelId lastMessageId : Int)
  | incrementMentions (userId channelId : Int)
  | upsertVoiceState (state : VoiceState)
  | deleteVoiceState (guildId userId : Int)
  deriving DecidableEq, Repr

namespace Write

/-- What the write does to the tables. Times that are left open are the time of now. -/
def statement (catalog : Catalog) (now : DateTime) : Write → Statement
  | createUser user => Users.create catalog user
  | updateUser user => Users.update catalog user
  | deleteUser id => Users.delete catalog id
  | createGuild guild => Guilds.create catalog guild
  | updateGuild guild => Guilds.update catalog guild
  | deleteGuild id => Guilds.delete catalog id
  | createMember member => Members.create catalog member
  | updateMember member => Members.update catalog member
  | deleteMember guildId userId => Members.delete catalog guildId userId
  | addMemberRole guildId userId roleId => Members.addRole catalog guildId userId roleId
  | removeMemberRole guildId userId roleId => Members.removeRole catalog guildId userId roleId
  | createRole role => Roles.create catalog role
  | updateRole role => Roles.update catalog role
  | deleteRole id => Roles.delete catalog id
  | createBan ban => Bans.create catalog ban
  | deleteBan guildId userId => Bans.delete catalog guildId userId
  | createInvite invite => Invites.create catalog invite
  | incrementInviteUses code => Invites.incrementUses catalog code
  | deleteInvite code => Invites.delete catalog code
  | createChannel channel => Channels.create catalog channel
  | updateChannel channel => Channels.update catalog channel
  | deleteChannel id => Channels.delete catalog id
  | setOverride override => Overrides.set catalog override
  | deleteOverride channelId roleId => Overrides.delete catalog channelId roleId
  | createMessage message => Messages.create catalog message
  | updateMessage message => Messages.update catalog now message
  | deleteMessage id => Messages.delete catalog id
  | createAttachment attachment => Attachments.create catalog attachment
  | deleteAttachment id => Attachments.delete catalog id
  | deleteAttachmentsOf messageId => Attachments.deleteOfMessage catalog messageId
  | addReaction messageId userId emoji createdAt =>
    Reactions.add catalog messageId userId emoji (createdAt.getD now)
  | removeReaction messageId userId emoji => Reactions.remove catalog messageId userId emoji
  | createDirect id recipients kind ownerId createdAt =>
    Directs.create catalog ⟨id, recipients, kind, ownerId, createdAt.getD now⟩
  | deleteDirect id => Directs.delete catalog id
  | addRecipient channelId userId => Directs.addRecipient catalog channelId userId
  | removeRecipient channelId userId => Directs.removeRecipient catalog channelId userId
  | upsertReadState userId channelId lastMessageId =>
    ReadStates.upsert catalog now userId channelId lastMessageId
  | incrementMentions userId channelId => ReadStates.incrementMentions catalog now userId channelId
  | upsertVoiceState state => VoiceStates.upsert catalog state
  | deleteVoiceState guildId userId => VoiceStates.delete catalog guildId userId

def answer (write : Write) (db : Database) : Answer :=
  match write with
  | deleteAttachmentsOf messageId => .count (Attachments.countOfMessage messageId db)
  | addReaction messageId userId emoji _ => .flag (Reactions.isNew messageId userId emoji db)
  | _ => .done

def table : Write → Table
  | createUser _ | updateUser _ | deleteUser _ => .users
  | createGuild _ | updateGuild _ | deleteGuild _ => .guilds
  | createMember _ | updateMember _ | deleteMember .. => .members
  | addMemberRole .. | removeMemberRole .. => .memberRoles
  | createRole _ | updateRole _ | deleteRole _ => .roles
  | createBan _ | deleteBan .. => .bans
  | createInvite _ | incrementInviteUses _ | deleteInvite _ => .invites
  | createChannel _ | updateChannel _ | deleteChannel _ => .channels
  | setOverride _ | deleteOverride .. => .channelOverrides
  | createMessage _ | updateMessage _ | deleteMessage _ => .messages
  | createAttachment _ | deleteAttachment _ | deleteAttachmentsOf _ => .attachments
  | addReaction .. | removeReaction .. => .reactions
  | createDirect .. | deleteDirect _ => .directChannels
  | addRecipient .. | removeRecipient .. => .recipients
  | upsertReadState .. | incrementMentions .. => .readStates
  | upsertVoiceState _ | deleteVoiceState .. => .voiceStates

end Write

inductive Question where
  | user (id : Int)
  | userByName (username : String)
  | guild (id : Int)
  | guildsOfUser (userId : Int)
  | member (guildId userId : Int)
  | membersOfGuild (guildId limit offset : Int)
  | role (id : Int)
  | rolesOfGuild (guildId : Int)
  | rolesOfMember (guildId userId : Int)
  | ban (guildId userId : Int)
  | bansOfGuild (guildId : Int)
  | invite (code : String)
  | invitesOfGuild (guildId : Int)
  | channel (id : Int)
  | channelsOfGuild (guildId : Int)
  | overridesOfChannel (channelId : Int)
  | message (id : Int)
  | messagesOfChannel (channelId : Int) (before : Option Int) (limit : Int)
  | search (request : Messages.Search) (limit : Int)
  | attachmentsOfMessage (messageId : Int)
  | reactionsOfMessage (messageId : Int)
  | reactionCounts (messageId currentUser : Int)
  | usersOfReaction (messageId : Int) (emoji : String) (limit : Int)
  | direct (channelId : Int)
  | directsOfUser (userId : Int)
  | isRecipient (channelId userId : Int)
  | recipientIds (channelId : Int)
  | readStatesOfUser (userId : Int)
  | readState (userId channelId : Int)
  | voiceState (guildId userId : Int)
  | voiceStatesOfChannel (channelId : Int)
  | voiceStatesOfGuild (guildId : Int)
  deriving DecidableEq, Repr

namespace Question

def one {α : Type} (entity : α → Entity) (query : Query (Option α)) : Query Answer :=
  fun db => (query db).map fun found => .entity (found.map entity)

def many {α : Type} (entity : α → Entity) (query : Query (List α)) : Query Answer :=
  fun db => (query db).map fun found => .entities (found.map entity)

def query : Question → Query Answer
  | user id => one .user (Users.find id)
  | userByName username => one .user (Users.findByName username)
  | guild id => one .guild (Guilds.find id)
  | guildsOfUser userId => many .guild (Guilds.ofUser userId)
  | member guildId userId => one .member (Members.find guildId userId)
  | membersOfGuild guildId limit offset =>
    many .member (Members.ofGuild .sqlite guildId limit offset)
  | role id => one .role (Roles.find id)
  | rolesOfGuild guildId => many .role (Roles.ofGuild guildId)
  | rolesOfMember guildId userId => many .role (Roles.ofMember guildId userId)
  | ban guildId userId => one .ban (Bans.find guildId userId)
  | bansOfGuild guildId => many .ban (Bans.ofGuild guildId)
  | invite code => one .invite (Invites.find code)
  | invitesOfGuild guildId => many .invite (Invites.ofGuild guildId)
  | channel id => one .channel (Channels.find id)
  | channelsOfGuild guildId => many .channel (Channels.ofGuild guildId)
  | overridesOfChannel channelId => many .override (Overrides.ofChannel channelId)
  | message id => one .message (Messages.find id)
  | messagesOfChannel channelId before limit =>
    many .message (Messages.ofChannel channelId before limit)
  | search request limit => many .message (request.run limit)
  | attachmentsOfMessage messageId => many .attachment (Attachments.ofMessage messageId)
  | reactionsOfMessage messageId => many .reaction (Reactions.ofMessage messageId)
  | reactionCounts messageId currentUser =>
    many .reactionCount (Reactions.counts messageId currentUser)
  | usersOfReaction messageId emoji limit =>
    fun db => (Reactions.usersOf messageId emoji limit db).map .ids
  | direct channelId => one .direct (Directs.find channelId)
  | directsOfUser userId => many .direct (Directs.ofUser .sqlite userId)
  | isRecipient channelId userId =>
    fun db => (Directs.hasRecipient channelId userId db).map .flag
  | recipientIds channelId => fun db => (Directs.recipientsById channelId db).map .ids
  | readStatesOfUser userId => many .readState (ReadStates.ofUser userId)
  | readState userId channelId => one .readState (ReadStates.find userId channelId)
  | voiceState guildId userId => one .voiceState (VoiceStates.find guildId userId)
  | voiceStatesOfChannel channelId => many .voiceState (VoiceStates.ofChannel channelId)
  | voiceStatesOfGuild guildId => many .voiceState (VoiceStates.ofGuild guildId)

def table : Question → Table
  | user _ | userByName _ => .users
  | guild _ | guildsOfUser _ => .guilds
  | member .. | membersOfGuild .. => .members
  | role _ | rolesOfGuild _ | rolesOfMember .. => .roles
  | ban .. | bansOfGuild _ => .bans
  | invite _ | invitesOfGuild _ => .invites
  | channel _ | channelsOfGuild _ => .channels
  | overridesOfChannel _ => .channelOverrides
  | message _ | messagesOfChannel .. | search .. => .messages
  | attachmentsOfMessage _ => .attachments
  | reactionsOfMessage _ | reactionCounts .. | usersOfReaction .. => .reactions
  | direct _ | directsOfUser _ => .directChannels
  | isRecipient .. | recipientIds _ => .recipients
  | readStatesOfUser _ | readState .. => .readStates
  | voiceState .. | voiceStatesOfChannel _ | voiceStatesOfGuild _ => .voiceStates

end Question

inductive Command where
  | write (change : Write)
  | question (asked : Question)
  | findOrCreateDirect (first second candidate : Int)
  deriving DecidableEq, Repr

namespace Command

def table : Command → Table
  | write change => change.table
  | question asked => asked.table
  | findOrCreateDirect .. => .directChannels

def run (catalog : Catalog) (now : DateTime) (command : Command) (db : Database) :
    Except Failure Answer × Database :=
  match command with
  | write change =>
    let (outcome, left) := transact (change.statement catalog now) db
    (outcome.map fun _ => change.answer db, left)
  | question asked => (asked.query db, db)
  | findOrCreateDirect first second candidate =>
    match Directs.Finder.start first second candidate with
    | .error failure => (.error failure, db)
    | .ok finder =>
      let (finder, left) := finder.finish catalog now db
      (finder.answer, left)

end Command

end Guildhall
