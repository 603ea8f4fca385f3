import Guildhall.Store.Statement
import Guildhall.Store.Query
import Guildhall.Store.Stored

/-!
Where a user talks. In each guild a user is in at most one voice channel.
-/

namespace Guildhall.VoiceStates

variable (catalog : Catalog)

def isOf (guildId userId : Int) (row : VoiceStateRow) : Bool :=
  row.guildId = guildId && row.userId = userId

/-- A user who moves on keeps the time of joining. -/
def upsert (state : VoiceState) : Statement :=
  putRow catalog .voiceStates state.row fun row => { state.row with joinedAt := row.joinedAt }

def delete (guildId userId : Int) : Statement :=
  deleteRows catalog .voiceStates [guildId, userId] (isOf guildId userId)

def find (guildId userId : Int) : Query (Option VoiceState) :=
  ask [guildId, userId] fun db =>
    (db.voiceStates.find? (isOf guildId userId)).map VoiceStateRow.state

/-- Those who joined first stand first. One user who joined the same channel at the same time in
several guilds stands there in the order in which the rows were written. -/
def order : VoiceStateRow → VoiceStateRow → Ordering :=
  compareLex (compareOn fun row => row.joinedAt.rank) (compareOn VoiceStateRow.userId)

def ofChannel (channelId : Int) : Query (List VoiceState) := ask [channelId] fun db =>
  (sortBy order (db.voiceStates.filter fun row => row.channelId = channelId)).map
    VoiceStateRow.state

def ofGuild (guildId : Int) : Query (List VoiceState) := ask [guildId] fun db =>
  (sortBy order (db.voiceStates.filter fun row => row.guildId = guildId)).map VoiceStateRow.state

end Guildhall.VoiceStates
