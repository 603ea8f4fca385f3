import Guildhall.Store.Statement
import Guildhall.Store.Query
import Guildhall.Store.Stored

/-!
Guilds. The owner of a guild need not be a member of it.
-/

namespace Guildhall.Guilds

variable (catalog : Catalog)

def create (guild : Guild) : Statement := insertRow catalog .guilds guild.row

def update (guild : Guild) : Statement :=
  changeRows catalog .guilds [guild.id, guild.ownerId] (fun row => row.id = guild.id) fun row =>
    { guild.row with id := row.id, createdAt := row.createdAt }

def delete (id : Int) : Statement := deleteRows catalog .guilds [id] (fun row => row.id = id)

def find (id : Int) : Query (Option Guild) :=
  ask [id] fun db => (db.guilds.find? fun row => row.id = id).map GuildRow.guild

def ofUser (userId : Int) : Query (List Guild) := ask [userId] fun db =>
  let memberships := db.members.filter fun row => row.userId = userId
  let rows := memberships.flatMap fun membership =>
    db.guilds.filter fun row => row.id = membership.guildId
  (sortBy (compareOn GuildRow.id) rows).map GuildRow.guild

end Guildhall.Guilds
