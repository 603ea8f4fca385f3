import Guildhall.Store.Statement
import Guildhall.Store.Query
import Guildhall.Store.Stored

/-!
Reactions to messages. Adding one that is there already is ignored.
-/

namespace Guildhall.Reactions

open Calendar

variable (catalog : Catalog)

def isOf (messageId userId : Int) (emoji : String) (row : ReactionRow) : Bool :=
  row.messageId = messageId && row.userId = userId && row.emoji = emoji

def add (messageId userId : Int) (emoji : String) (time : DateTime) : Statement :=
  ensureRow catalog .reactions ⟨messageId, userId, emoji, time.wall⟩

def isNew (messageId userId : Int) (emoji : String) (db : Database) : Bool :=
  !db.reactions.any (isOf messageId userId emoji)

def remove (messageId userId : Int) (emoji : String) : Statement :=
  deleteRows catalog .reactions [messageId, userId] (isOf messageId userId emoji)

/-- Reactions stand by time, then by user. Several of one user at the same time come as the index
through which a message's reactions are found holds them, by emoji. -/
def order : ReactionRow → ReactionRow → Ordering :=
  compareLex (compareOn fun row => row.createdAt.rank)
    (compareLex (compareOn ReactionRow.userId) (compareOn ReactionRow.emoji))

def ofMessage (messageId : Int) : Query (List Reaction) := ask [messageId] fun db =>
  (sortBy order (db.reactions.filter fun row => row.messageId = messageId)).map ReactionRow.reaction

/-- Emoji stand in the order of their first use, and by themselves where that is equal. -/
def emojiOrder : ReactionRow → ReactionRow → Ordering :=
  compareLex (compareOn fun row => row.createdAt.rank) (compareOn ReactionRow.emoji)

def emojisOf (rows : List ReactionRow) : List String :=
  ((sortBy emojiOrder rows).map ReactionRow.emoji).eraseDups

def countOf (currentUser : Int) (rows : List ReactionRow) (emoji : String) : ReactionCount :=
  let uses := rows.filter fun row => row.emoji = emoji
  ⟨emoji, uses.length, uses.any fun row => row.userId = currentUser⟩

def counts (messageId currentUser : Int) : Query (List ReactionCount) :=
  ask [messageId, currentUser] fun db =>
    let rows := db.reactions.filter fun row => row.messageId = messageId
    (emojisOf rows).map (countOf currentUser rows)

def usersOf (messageId : Int) (emoji : String) (limit : Int) : Query (List Int) :=
  limited limit <| ask [messageId, limit] fun db =>
    let rows := db.reactions.filter fun row => row.messageId = messageId && row.emoji = emoji
    ((sortBy order rows).take limit.toNat).map ReactionRow.userId

end Guildhall.Reactions
