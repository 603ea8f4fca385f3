import Guildhall.Store.Statement
import Guildhall.Store.Query
import Guildhall.Store.Stored

/-!
Bans of users from guilds.
-/

namespace Guildhall.Bans

variable (catalog : Catalog)

def isOf (guildId userId : Int) (row : BanRow) : Bool :=
  row.guildId = guildId && row.userId = userId

def create (ban : Ban) : Statement := insertRow catalog .bans ban.row

def delete (guildId userId : Int) : Statement :=
  deleteRows catalog .bans [guildId, userId] (isOf guildId userId)

def find (guildId userId : Int) : Query (Option Ban) :=
  ask [guildId, userId] fun db => (db.bans.find? (isOf guildId userId)).map BanRow.ban

def order : BanRow → BanRow → Ordering :=
  compareLex (downward (compareOn fun row => row.createdAt.rank))
    (downward (compareOn BanRow.userId))

def ofGuild (guildId : Int) : Query (List Ban) := ask [guildId] fun db =>
  (sortBy order (db.bans.filter fun row => row.guildId = guildId)).map BanRow.ban

end Guildhall.Bans
