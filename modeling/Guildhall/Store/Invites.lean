import Guildhall.Store.Statement
import Guildhall.Store.Query
import Guildhall.Store.Stored

/-!
Invitations and the count of their uses.
-/

namespace Guildhall

/-- A counter one higher. Beyond the words of the storage it no longer moves. -/
def bumped (count : Int) : Int := if count < wordBound then count + 1 else count

namespace Invites

variable (catalog : Catalog)

def create (invite : Invite) : Statement := insertRow catalog .invites invite.row

def incrementUses (code : String) : Statement :=
  changeRows catalog .invites [] (fun row => row.code = code) fun row =>
    { row with uses := bumped row.uses }

def delete (code : String) : Statement :=
  deleteRows catalog .invites [] (fun row => row.code = code)

def find (code : String) : Query (Option Invite) :=
  askRead [] fun db => (db.invites.find? fun row => row.code = code).mapM InviteRow.invite

def order : InviteRow → InviteRow → Ordering :=
  compareLex (downward (compareOn fun row => row.createdAt.rank)) (compareOn InviteRow.code)

def ofGuild (guildId : Int) : Query (List Invite) := askRead [guildId] fun db =>
  (sortBy order (db.invites.filter fun row => row.guildId = guildId)).mapM InviteRow.invite

end Invites

end Guildhall
