import Guildhall.Store.Statement
import Guildhall.Store.Query
import Guildhall.Store.Stored

/-!
Direct channels and their recipients. A channel between two users carries the name of the pair,
which is unique; a group carries none. A channel between two users that loses one of them gives up
the name, so that the pair can open another one.
-/

namespace Guildhall.Directs

open Calendar

variable (catalog : Catalog)

structure Draft where
  id : Int
  recipients : List Int
  kind : Int
  ownerId : Option Int
  createdAt : DateTime
  deriving DecidableEq, Repr

namespace Draft

def isPair (draft : Draft) : Bool := draft.kind = DirectKind.pair.code

/-- Only a channel between two users is named, and only two users make a pair. -/
def pairKey? (draft : Draft) : Except Failure (Option String) :=
  if draft.isPair then
    match draft.recipients with
    | [a, b] =>
      match Guildhall.pairKey? a b with
      | some name => .ok (some name)
      | none => .error .unwritable
    | recipients => .error (.recipientCount recipients.length)
  else .ok none

def row (draft : Draft) (key : Option String) : DirectChannelRow :=
  ⟨draft.id, draft.kind, draft.ownerId, key, draft.createdAt.wall⟩

def statements (draft : Draft) (key : Option String) : List Statement :=
  insertRow catalog .directChannels (draft.row key) ::
    draft.recipients.map fun userId => insertRow catalog .recipients ⟨draft.id, userId⟩

end Draft

def create (draft : Draft) : Statement := fun db =>
  match draft.pairKey? with
  | .ok key => inOrder (draft.statements catalog key) db
  | .error failure => .error failure

def isRecipient (channelId userId : Int) (row : RecipientRow) : Bool :=
  row.channelId = channelId && row.userId = userId

def addRecipient (channelId userId : Int) : Statement :=
  ensureRow catalog .recipients ⟨channelId, userId⟩

/-- The pair's name goes only if the user was a recipient. -/
def removeRecipient (channelId userId : Int) : Statement := fun db =>
  if db.recipients.any (isRecipient channelId userId) then
    inOrder [
      deleteRows catalog .recipients [channelId, userId] (isRecipient channelId userId),
      changeRows catalog .directChannels [channelId]
        (fun row => row.id = channelId && row.kind = DirectKind.pair.code)
        (fun row => { row with pairKey := none })] db
  else deleteRows catalog .recipients [channelId, userId] (isRecipient channelId userId) db

def delete (channelId : Int) : Statement :=
  deleteRows catalog .directChannels [channelId] (fun row => row.id = channelId)

def recipientIds (db : Database) (channelId : Int) : List Int :=
  sortBy compare ((db.recipients.filter fun row => row.channelId = channelId).map
    RecipientRow.userId)

def recipientsIn (db : Database) (channelIds : List Int) : List (Int × UserRow) :=
  let recipients := db.recipients.filter fun row => channelIds.contains row.channelId
  sortBy (compareLex (compareOn Prod.fst) (compareOn fun pair => pair.2.id))
    (recipients.flatMap fun recipient =>
      (db.users.filter fun row => row.id = recipient.userId).map fun row =>
        (recipient.channelId, row))

/-- The recipients of many channels are read at once, with a value for each channel. -/
def recipientsByChannel (db : Database) (channelIds : List Int) : Int → List User :=
  grouped ((recipientsIn db channelIds).map fun pair => (pair.1, pair.2.user))

def recipientsOf (db : Database) (channelId : Int) : List User :=
  recipientsByChannel db [channelId] channelId

def withRecipients (db : Database) (row : DirectChannelRow) : Except Failure DirectChannel :=
  row.channel (recipientsOf db row.id)

def find (channelId : Int) : Query (Option DirectChannel) := askRead [channelId] fun db =>
  (db.directChannels.find? fun row => row.id = channelId).mapM (withRecipients db)

def rowsOf (db : Database) (userId : Int) : List DirectChannelRow :=
  sortBy (downward (compareOn DirectChannelRow.id))
    ((db.recipients.filter fun row => row.userId = userId).flatMap fun recipient =>
      db.directChannels.filter fun row => row.id = recipient.channelId)

def ofUser (engine : Engine) (userId : Int) : Query (List DirectChannel) :=
  askRead [userId] fun db => do
    let rows := rowsOf db userId
    engine.allow 0 rows.length
    let recipients := recipientsByChannel db (rows.map DirectChannelRow.id)
    rows.mapM fun row => row.channel (recipients row.id)

def hasRecipient (channelId userId : Int) : Query Bool :=
  ask [channelId, userId] fun db => db.recipients.any (isRecipient channelId userId)

def recipientsById (channelId : Int) : Query (List Int) :=
  ask [channelId] fun db => recipientIds db channelId

/-- The oldest channel between two users that has both among its recipients. -/
def between (first second : Int) : Query (Option DirectChannel) :=
  askRead [first, second] fun db =>
    let rows := db.directChannels.filter fun row =>
      row.kind = DirectKind.pair.code && db.recipients.any (isRecipient row.id first) &&
        db.recipients.any (isRecipient row.id second)
    (sortBy (compareOn DirectChannelRow.id) rows).head?.mapM (withRecipients db)

end Guildhall.Directs
