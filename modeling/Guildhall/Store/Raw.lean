import Guildhall.Store.Statement

/-!
Rows given cell by cell. A column that is left out or null takes its default.
-/

namespace Guildhall

open Calendar

namespace Cells

def int? (cells : Cells) (name : String) : Option Int :=
  match cells.get? name with
  | some (.int n) => some n
  | _ => none

def text? (cells : Cells) (name : String) : Option String :=
  match cells.get? name with
  | some (.text s) => some s
  | _ => none

def flag? (cells : Cells) (name : String) : Option Bool :=
  match cells.get? name with
  | some (.flag b) => some b
  | _ => none

def time? (cells : Cells) (name : String) : Option WallTime :=
  match cells.get? name with
  | some (.time t) => some t
  | _ => none

end Cells

def Table.ofCells? : (table : Table) → Cells → Option table.Row
  | .users, c => do
    return ⟨← c.int? "id", ← c.text? "username", ← c.text? "display_name", c.text? "avatar_hash",
      ← c.text? "password_hash", ← c.time? "created_at"⟩
  | .guilds, c => do
    return ⟨← c.int? "id", ← c.text? "name", c.text? "icon_hash", ← c.int? "owner_id",
      ← c.time? "created_at"⟩
  | .members, c => do
    return ⟨← c.int? "guild_id", ← c.int? "user_id", c.text? "nickname", ← c.time? "joined_at"⟩
  | .roles, c => do
    return ⟨← c.int? "id", ← c.int? "guild_id", ← c.text? "name", ← c.int? "color",
      ← c.int? "permissions", ← c.int? "position", ← c.flag? "is_default"⟩
  | .memberRoles, c => do
    return ⟨← c.int? "guild_id", ← c.int? "user_id", ← c.int? "role_id"⟩
  | .channels, c => do
    return ⟨← c.int? "id", ← c.int? "guild_id", ← c.text? "name", ← c.int? "type",
      ← c.int? "position", c.text? "topic", c.int? "parent_id"⟩
  | .channelOverrides, c => do
    return ⟨← c.int? "channel_id", ← c.int? "role_id", ← c.int? "allow_perms",
      ← c.int? "deny_perms"⟩
  | .bans, c => do
    return ⟨← c.int? "guild_id", ← c.int? "user_id", c.text? "reason", ← c.int? "created_by",
      ← c.time? "created_at"⟩
  | .invites, c => do
    return ⟨← c.text? "code", ← c.int? "guild_id", c.int? "channel_id", ← c.int? "creator_id",
      ← c.int? "max_uses", ← c.int? "uses", c.time? "expires_at", ← c.time? "created_at"⟩
  | .messages, c => do
    return ⟨← c.int? "id", ← c.int? "channel_id", ← c.int? "author_id", ← c.text? "content",
      ← c.time? "created_at", c.time? "edited_at"⟩
  | .attachments, c => do
    return ⟨← c.int? "id", ← c.int? "message_id", ← c.text? "filename", ← c.text? "content_type",
      ← c.int? "size", ← c.text? "storage_key"⟩
  | .reactions, c => do
    return ⟨← c.int? "message_id", ← c.int? "user_id", ← c.text? "emoji", ← c.time? "created_at"⟩
  | .directChannels, c => do
    return ⟨← c.int? "id", ← c.int? "type", c.int? "owner_id", c.text? "pair_key",
      ← c.time? "created_at"⟩
  | .recipients, c => do
    return ⟨← c.int? "channel_id", ← c.int? "user_id"⟩
  | .readStates, c => do
    return ⟨← c.int? "user_id", ← c.int? "channel_id", ← c.int? "last_message_id",
      ← c.int? "mention_count", ← c.time? "updated_at"⟩
  | .voiceStates, c => do
    return ⟨← c.int? "guild_id", ← c.int? "user_id", ← c.int? "channel_id",
      ← c.text? "session_id", ← c.flag? "self_mute", ← c.flag? "self_deaf", ← c.time? "joined_at"⟩

namespace Column

def fill (column : Column) (now : DateTime) (given : Cells) : Cell :=
  match given.get? column.name with
  | none | some .null =>
    match column.default with
    | .nothing => .null
    | .cell value => value
    | .now => .time now.wall
  | some cell => cell

end Column

def complete (relation : Relation) (now : DateTime) (given : Cells) : Cells :=
  relation.columns.map fun column => (column.name, column.fill now given)

def filled (table : Table) (cells : Cells) (column : Column) : Rule :=
  ⟨column.nullable || (cells.get? column.name).any (fun cell => cell ≠ .null),
    .store (.invalidReference (table.columnsText [column.name]))⟩

def unsuitable (table : Table) : Failure :=
  .store (.other ("unsuitable value for table " ++ table.name))

def insertCells (catalog : Catalog) (now : DateTime) (table : Table) (given : Cells) :
    Statement := fun db =>
  let cells := complete (catalog table) now given
  (demand (fitting cells.integers :: (catalog table).columns.map (filled table cells)) ()).bind
    fun _ =>
      match table.ofCells? cells with
      | some row => insertRow catalog table row db
      | none => .error (unsuitable table)

/-- A caller's own transaction: rows one after another, and at the end perhaps a change of mind. -/
def insertAll (catalog : Catalog) (now : DateTime) (rows : List (Table × Cells))
    (abandon : Option String) : Statement := fun db =>
  (inOrder (rows.map fun (table, given) => insertCells catalog now table given) db).bind
    fun left =>
      match abandon with
      | some reason => .error (.abandoned reason)
      | none => .ok left

end Guildhall
