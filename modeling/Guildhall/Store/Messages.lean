import Guildhall.Store.Statement
import Guildhall.Store.Query
import Guildhall.Store.Stored
import Guildhall.Text.Search

/-!
Messages and their attachments. A channel's history is read in pages from the newest message
backwards: the next page starts before the last identifier of the page before it.
-/

namespace Guildhall

open Calendar

variable (catalog : Catalog)

namespace Messages

def create (message : Message) : Statement := insertRow catalog .messages message.row

def update (now : DateTime) (message : Message) : Statement :=
  changeRows catalog .messages [message.id] (fun row => row.id = message.id) fun row =>
    { row with content := message.content, editedAt := some (message.editedAt.getD now).wall }

def delete (id : Int) : Statement := deleteRows catalog .messages [id] (fun row => row.id = id)

def withAuthors (db : Database) (rows : List MessageRow) : List MessageWithAuthor :=
  rows.flatMap fun row =>
    (db.users.filter fun author => author.id = row.authorId).map row.withAuthor

def find (id : Int) : Query (Option MessageWithAuthor) := ask [id] fun db =>
  (withAuthors db (db.messages.filter fun row => row.id = id)).head?

def order : MessageRow → MessageRow → Ordering := downward (compareOn MessageRow.id)

/-- The newest messages of a channel, or the newest of those before an identifier. -/
def ofChannel (channelId : Int) (before : Option Int) (limit : Int) :
    Query (List MessageWithAuthor) :=
  limited limit <| ask ([channelId, limit] ++ before.toList) fun db =>
    let rows := db.messages.filter fun row =>
      row.channelId = channelId && before.all (fun id => row.id < id)
    (withAuthors db (sortBy order rows)).take limit.toNat

/-- What a search looks for. Bounds in time are strict and compare what the wall shows. -/
structure Search where
  guildId : Int
  query : String
  authorId : Option Int
  before : Option DateTime
  after : Option DateTime
  deriving DecidableEq, Repr

namespace Search

def integers (search : Search) : List Int := search.guildId :: search.authorId.toList

def inGuild (search : Search) (db : Database) (row : MessageRow) : Bool :=
  db.channels.any fun channel => channel.id = row.channelId && channel.guildId = search.guildId

def byAuthor (search : Search) (row : MessageRow) : Bool :=
  search.authorId.all fun id => row.authorId = id

def inTime (search : Search) (row : MessageRow) : Bool :=
  search.before.all (fun t => row.createdAt.rank < t.wall.rank) &&
    search.after.all (fun t => t.wall.rank < row.createdAt.rank)

def hits (search : Search) (db : Database) (row : MessageRow) : Bool :=
  search.inGuild db row && Text.found search.query row.content && search.byAuthor row &&
    search.inTime row

/-- Whether there is a message whose content is held against the query: one of the author, or else
one of the guild. -/
def isTried (search : Search) (db : Database) : Bool :=
  match search.authorId with
  | some id => db.messages.any fun row => row.authorId = id
  | none => db.messages.any (search.inGuild db)

def patternTooLong : Failure := .store (.unavailable "LIKE or GLOB pattern too complex")

def run (search : Search) (limit : Int) : Query (List MessageWithAuthor) :=
  limited limit <| askRead (limit :: search.integers) fun db =>
    if Text.patternLimit < Text.patternSize search.query ∧ search.isTried db then
      .error patternTooLong
    else
      .ok ((withAuthors db (sortBy order (db.messages.filter (search.hits db)))).take limit.toNat)

end Search

end Messages

namespace Attachments

def create (attachment : Attachment) : Statement := insertRow catalog .attachments attachment

def delete (id : Int) : Statement := deleteRows catalog .attachments [id] (fun row => row.id = id)

def isOf (messageId : Int) (row : Attachment) : Bool := row.messageId = messageId

def deleteOfMessage (messageId : Int) : Statement :=
  deleteRows catalog .attachments [messageId] (isOf messageId)

def countOfMessage (messageId : Int) (db : Database) : Nat :=
  db.attachments.countP (isOf messageId)

def ofMessage (messageId : Int) : Query (List Attachment) := ask [messageId] fun db =>
  sortBy (compareOn Attachment.id) (db.attachments.filter (isOf messageId))

end Attachments

end Guildhall
