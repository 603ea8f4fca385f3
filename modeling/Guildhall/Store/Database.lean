import Guildhall.Store.Table

/-!
The contents of all tables. The order of a table's rows is that of their insertion; no answer
depends on it.
-/

namespace Guildhall

structure Database where
  users : List UserRow := []
  guilds : List GuildRow := []
  members : List MemberRow := []
  roles : List Role := []
  memberRoles : List MemberRoleRow := []
  channels : List ChannelRow := []
  channelOverrides : List ChannelOverride := []
  bans : List BanRow := []
  invites : List InviteRow := []
  messages : List MessageRow := []
  attachments : List Attachment := []
  reactions : List ReactionRow := []
  directChannels : List DirectChannelRow := []
  recipients : List RecipientRow := []
  readStates : List ReadStateRow := []
  voiceStates : List VoiceStateRow := []
  deriving DecidableEq, Repr

namespace Database

def empty : Database := {}

def rows (db : Database) : (table : Table) → List table.Row
  | .users => db.users
  | .guilds => db.guilds
  | .members => db.members
  | .roles => db.roles
  | .memberRoles => db.memberRoles
  | .channels => db.channels
  | .channelOverrides => db.channelOverrides
  | .bans => db.bans
  | .invites => db.invites
  | .messages => db.messages
  | .attachments => db.attachments
  | .reactions => db.reactions
  | .directChannels => db.directChannels
  | .recipients => db.recipients
  | .readStates => db.readStates
  | .voiceStates => db.voiceStates

def put (db : Database) : (table : Table) → List table.Row → Database
  | .users, rows => { db with users := rows }
  | .guilds, rows => { db with guilds := rows }
  | .members, rows => { db with members := rows }
  | .roles, rows => { db with roles := rows }
  | .memberRoles, rows => { db with memberRoles := rows }
  | .channels, rows => { db with channels := rows }
  | .channelOverrides, rows => { db with channelOverrides := rows }
  | .bans, rows => { db with bans := rows }
  | .invites, rows => { db with invites := rows }
  | .messages, rows => { db with messages := rows }
  | .attachments, rows => { db with attachments := rows }
  | .reactions, rows => { db with reactions := rows }
  | .directChannels, rows => { db with directChannels := rows }
  | .recipients, rows => { db with recipients := rows }
  | .readStates, rows => { db with readStates := rows }
  | .voiceStates, rows => { db with voiceStates := rows }

@[simp] theorem rows_put_self (db : Database) (table : Table) (new : List table.Row) :
    (db.put table new).rows table = new := by
  cases table <;> rfl

theorem rows_put_of_ne (db : Database) {table other : Table} (different : other ≠ table)
    (new : List table.Row) : (db.put table new).rows other = db.rows other := by
  cases table <;> cases other <;> first | rfl | exact absurd rfl different

end Database

end Guildhall
