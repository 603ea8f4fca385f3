import Guildhall.Store.Invites

/-!
How far a user has read a channel, and how often the user was mentioned since then.
-/

namespace Guildhall.ReadStates

open Calendar

variable (catalog : Catalog)

def isOf (userId channelId : Int) (row : ReadStateRow) : Bool :=
  row.userId = userId && row.channelId = channelId

/-- Reading on sets the count of mentions back. -/
def upsert (now : DateTime) (userId channelId lastMessageId : Int) : Statement :=
  let row : ReadStateRow := ⟨userId, channelId, lastMessageId, 0, now.wall⟩
  putRow catalog .readStates row fun _ => row

/-- Nothing happens where nothing was read yet. -/
def incrementMentions (now : DateTime) (userId channelId : Int) : Statement :=
  changeRows catalog .readStates [userId, channelId] (isOf userId channelId) fun row =>
    { row with mentionCount := bumped row.mentionCount, updatedAt := now.wall }

def find (userId channelId : Int) : Query (Option ReadState) :=
  askRead [userId, channelId] fun db =>
    (db.readStates.find? (isOf userId channelId)).mapM ReadStateRow.state

def order : ReadStateRow → ReadStateRow → Ordering :=
  compareLex (compareOn fun row => row.updatedAt.rank) (compareOn ReadStateRow.channelId)

def ofUser (userId : Int) : Query (List ReadState) := askRead [userId] fun db =>
  (sortBy order (db.readStates.filter fun row => row.userId = userId)).mapM ReadStateRow.state

end Guildhall.ReadStates
