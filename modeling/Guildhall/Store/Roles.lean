import Guildhall.Store.Statement
import Guildhall.Store.Query

/-!
The roles of a guild, in the order of their position.
-/

namespace Guildhall.Roles

variable (catalog : Catalog)

def order : Role → Role → Ordering := compareLex (compareOn Role.position) (compareOn Role.id)

def create (role : Role) : Statement := insertRow catalog .roles role

def update (role : Role) : Statement :=
  changeRows catalog .roles [role.id, role.color, role.permissions, role.position]
    (fun row => row.id = role.id) fun row => { role with id := row.id, guildId := row.guildId }

def delete (id : Int) : Statement := deleteRows catalog .roles [id] (fun row => row.id = id)

def find (id : Int) : Query (Option Role) :=
  ask [id] fun db => db.roles.find? fun row => row.id = id

def ofGuild (guildId : Int) : Query (List Role) :=
  ask [guildId] fun db => sortBy order (db.roles.filter fun row => row.guildId = guildId)

def heldBy (db : Database) (guildId userId : Int) : List Role :=
  let held := db.memberRoles.filter fun row => row.guildId = guildId ∧ row.userId = userId
  sortBy order (held.flatMap fun hold => db.roles.filter fun row => row.id = hold.roleId)

def ofMember (guildId userId : Int) : Query (List Role) :=
  ask [guildId, userId] fun db => heldBy db guildId userId

end Guildhall.Roles
