import Guildhall.Store.Statement
import Guildhall.Store.Query
import Guildhall.Store.Stored

/-!
Accounts. Names of users are unique.
-/

namespace Guildhall.Users

variable (catalog : Catalog)

def create (user : User) : Statement := insertRow catalog .users user.row

def update (user : User) : Statement :=
  changeRows catalog .users [user.id] (fun row => row.id = user.id) fun row =>
    { user.row with id := row.id, createdAt := row.createdAt }

def delete (id : Int) : Statement := deleteRows catalog .users [id] (fun row => row.id = id)

def find (id : Int) : Query (Option User) :=
  ask [id] fun db => (db.users.find? fun row => row.id = id).map UserRow.user

def findByName (username : String) : Query (Option User) :=
  ask [] fun db => (db.users.find? fun row => row.username = username).map UserRow.user

end Guildhall.Users
