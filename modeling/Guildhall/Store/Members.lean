import Guildhall.Store.Roles
import Guildhall.Store.Stored

/-!
Membership, and the roles that members hold. Granting a role twice or taking away one that is not
held changes nothing.
-/

namespace Guildhall.Members

variable (catalog : Catalog)

def isOf (guildId userId : Int) (row : MemberRow) : Bool :=
  row.guildId = guildId && row.userId = userId

def create (member : Member) : Statement := insertRow catalog .members member.row

def update (member : Member) : Statement :=
  changeRows catalog .members [member.guildId, member.userId]
    (isOf member.guildId member.userId) fun row => { row with nickname := member.nickname }

def delete (guildId userId : Int) : Statement :=
  deleteRows catalog .members [guildId, userId] (isOf guildId userId)

def addRole (guildId userId roleId : Int) : Statement :=
  ensureRow catalog .memberRoles ⟨guildId, userId, roleId⟩

def removeRole (guildId userId roleId : Int) : Statement :=
  deleteRows catalog .memberRoles [guildId, userId, roleId]
    (fun row => row = ⟨guildId, userId, roleId⟩)

def holdings (db : Database) (guildId : Int) (userIds : List Int) : List (Int × Role) :=
  let held := db.memberRoles.filter fun row =>
    row.guildId = guildId && userIds.contains row.userId
  sortBy (compareLex (compareOn fun pair => pair.2.position) (compareOn fun pair => pair.2.id))
    (held.flatMap fun hold =>
      (db.roles.filter fun role => role.id = hold.roleId).map fun role => (hold.userId, role))

/-- The roles of many users are read at once, with a value for the guild and one for each user. -/
def roleIdsByUser (db : Database) (guildId : Int) (userIds : List Int) : Int → List Int :=
  grouped ((holdings db guildId userIds).map fun pair => (pair.1, pair.2.id))

def withRoles (db : Database) (row : MemberRow) : Member :=
  row.member (roleIdsByUser db row.guildId [row.userId] row.userId)

def find (guildId userId : Int) : Query (Option Member) := ask [guildId, userId] fun db =>
  (db.members.find? (isOf guildId userId)).map (withRoles db)

def order : MemberRow → MemberRow → Ordering :=
  compareLex (compareOn fun row => row.joinedAt.rank) (compareOn MemberRow.userId)

def page (db : Database) (guildId limit offset : Int) : List MemberRow :=
  let rows := sortBy order (db.members.filter fun row => row.guildId = guildId)
  (rows.drop offset.toNat).take limit.toNat

def ofGuild (engine : Engine) (guildId limit offset : Int) : Query (List Member) :=
  limited limit fun db =>
    if offset < 0 then .error (.showing offset (.negativeOffset offset))
    else askRead [guildId, limit, offset] (fun db => do
      let rows := page db guildId limit offset
      engine.allow 1 rows.length
      let roles := roleIdsByUser db guildId (rows.map MemberRow.userId)
      return rows.map fun row => row.member (roles row.userId)) db

end Guildhall.Members
