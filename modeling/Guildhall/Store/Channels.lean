import Guildhall.Store.Statement
import Guildhall.Store.Query
import Guildhall.Store.Stored

/-!
The channels of a guild, unique by name, and what their overrides allow and deny to roles.
-/

namespace Guildhall

variable (catalog : Catalog)

namespace Channels

def create (channel : Channel) : Statement := insertRow catalog .channels channel.row

def update (channel : Channel) : Statement :=
  changeRows catalog .channels ([channel.id, channel.position] ++ channel.parentId.toList)
    (fun row => row.id = channel.id) fun row =>
      { channel.row with id := row.id, guildId := row.guildId }

def delete (id : Int) : Statement := deleteRows catalog .channels [id] (fun row => row.id = id)

def find (id : Int) : Query (Option Channel) :=
  askRead [id] fun db => (db.channels.find? fun row => row.id = id).mapM ChannelRow.channel

def order : ChannelRow → ChannelRow → Ordering :=
  compareLex (compareOn ChannelRow.position) (compareOn ChannelRow.id)

def ofGuild (guildId : Int) : Query (List Channel) := askRead [guildId] fun db =>
  (sortBy order (db.channels.filter fun row => row.guildId = guildId)).mapM ChannelRow.channel

end Channels

namespace Overrides

/-- The bits of an override replace those before them; they are never joined. -/
def set (override : ChannelOverride) : Statement :=
  putRow catalog .channelOverrides override fun row =>
    { row with allow := override.allow, deny := override.deny }

def delete (channelId roleId : Int) : Statement :=
  deleteRows catalog .channelOverrides [channelId, roleId] fun row =>
    row.channelId = channelId && row.roleId = roleId

def ofChannel (channelId : Int) : Query (List ChannelOverride) := ask [channelId] fun db =>
  sortBy (compareOn ChannelOverride.roleId)
    (db.channelOverrides.filter fun row => row.channelId = channelId)

end Overrides

end Guildhall
