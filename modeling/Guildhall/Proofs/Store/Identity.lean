import Guildhall.Proofs.Store.Deletion
import Guildhall.Store.Catalog.Declared

/-!
The declared catalog meets what deletion asks of a catalog, and its primary keys identify rows by
the cells that are listed here.
-/

namespace Guildhall

/-- The cells that tell a row from all others of its table. -/
def Table.identity : (table : Table) → table.Row → List Cell
  | .users, row => [.int row.id]
  | .guilds, row => [.int row.id]
  | .members, row => [.int row.guildId, .int row.userId]
  | .roles, row => [.int row.id]
  | .memberRoles, row => [.int row.guildId, .int row.userId, .int row.roleId]
  | .channels, row => [.int row.id]
  | .channelOverrides, row => [.int row.channelId, .int row.roleId]
  | .bans, row => [.int row.guildId, .int row.userId]
  | .invites, row => [.text row.code]
  | .messages, row => [.int row.id]
  | .attachments, row => [.int row.id]
  | .reactions, row => [.int row.messageId, .int row.userId, .text row.emoji]
  | .directChannels, row => [.int row.id]
  | .recipients, row => [.int row.channelId, .int row.userId]
  | .readStates, row => [.int row.userId, .int row.channelId]
  | .voiceStates, row => [.int row.guildId, .int row.userId]

theorem key_identity (table : Table) (row : table.Row) :
    table.key? (Catalog.declared table).primaryKey row = some (table.identity row) := by
  cases table <;> rfl

theorem sameKey_identity {table : Table} {a b : table.Row} :
    table.sameKey (Catalog.declared table).primaryKey a b = true ↔
      table.identity a = table.identity b :=
  sameKey_named table table.identity (key_identity table)

theorem find_insertRow {table : Table} {row : table.Row} {db left : Database}
    (done : insertRow Catalog.declared table row db = .ok left) {chosen : table.Row → Bool}
    (names : ∀ other, chosen other = true ↔ table.identity other = table.identity row) :
    (left.rows table).find? chosen = some row := by
  obtain ⟨-, rfl, admissible⟩ := insertRow_ok.mp done
  have missed : ∀ other ∈ db.rows table, ¬chosen other = true := by
    intro other member picked
    have same : table.sameKey (Catalog.declared table).primaryKey row other = true :=
      sameKey_identity.mpr ((names other).mp picked).symm
    rw [admissible.primaryKey other member] at same
    cases same
  rw [Database.rows_put_self, List.find?_append, List.find?_eq_none.mpr missed, Option.none_or,
    List.find?_cons_of_pos ((names row).mpr rfl)]

theorem clears_declared {table : Table} {reference : Reference}
    (declared : reference ∈ (Catalog.declared table).references)
    (clears : reference.onDelete = .clear) :
    (table = .channels ∧ reference = .to "parent_id" .channels .clear) ∨
      (table = .directChannels ∧ reference = .to "owner_id" .users .clear) := by
  revert reference
  cases table <;> decide

theorem rooted_declared : Catalog.declared.Rooted := by
  intro table
  cases table <;> decide

theorem orderly_declared : Catalog.declared.Orderly where
  rooted := rooted_declared
  backward := by
    intro table
    cases table <;> decide
  clearEmpties := by
    intro table row reference declared clears
    rcases clears_declared declared clears with ⟨rfl, rfl⟩ | ⟨rfl, rfl⟩ <;> rfl
  clearKeeps := by
    intro table row reference declared clears columns member
    rcases clears_declared declared clears with ⟨rfl, rfl⟩ | ⟨rfl, rfl⟩ <;>
      rcases List.mem_cons.mp member with rfl | member
    · rfl
    · obtain rfl := List.mem_singleton.mp member
      rfl
    · rfl
    · obtain rfl := List.mem_singleton.mp member
      rfl
  clearLeaves := by
    intro table row reference declared clears other known
    rcases clears_declared declared clears with ⟨rfl, rfl⟩ | ⟨rfl, rfl⟩ <;>
      rcases List.mem_cons.mp known with rfl | known
    · exact Or.inl rfl
    · obtain rfl := List.mem_singleton.mp known
      exact Or.inr rfl
    · exact Or.inr rfl
    · cases known

theorem identity_cleared {table : Table} (gone : Database) (row : table.Row) :
    table.identity (Deletion.cleared Catalog.declared table gone row) = table.identity row := by
  have key := Deletion.cleared_keeps orderly_declared gone row List.mem_cons_self
  rw [key_identity, key_identity] at key
  exact Option.some.inj key

end Guildhall
