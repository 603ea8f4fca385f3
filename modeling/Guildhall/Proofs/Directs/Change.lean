import Guildhall.Proofs.Directs.Creation

/-!
What one event can do to direct channels and their recipients: some of them go, a user is removed
from a channel, a channel is opened, or a user joins one.
-/

namespace Guildhall.Directs

def Holds (db : Database) (channelId userId : Int) : Prop :=
  (⟨channelId, userId⟩ : RecipientRow) ∈ db.recipients

/-- Channels, recipients and owners may go; nothing is new. -/
structure Fewer (db left : Database) : Prop where
  channels : ∀ row ∈ left.directChannels, ∃ old ∈ db.directChannels,
    old.id = row.id ∧ old.kind = row.kind ∧ old.pairKey = row.pairKey
  recipients : left.recipients ⊆ db.recipients

structure Removed (channelId userId : Int) (db left : Database) : Prop where
  present : Holds db channelId userId
  absent : ¬Holds left channelId userId
  recipients : left.recipients ⊆ db.recipients
  channels : ∀ row ∈ left.directChannels, ∃ old ∈ db.directChannels,
    old.id = row.id ∧ old.kind = row.kind ∧
      row.pairKey =
        if old.id = channelId ∧ old.kind = DirectKind.pair.code then none else old.pairKey

structure Joined (channelId userId : Int) (db left : Database) : Prop where
  absent : ¬Holds db channelId userId
  channels : left.directChannels = db.directChannels
  recipients : left.recipients = db.recipients ++ [⟨channelId, userId⟩]

def Inherits (db left : Database) : Prop :=
  ∀ row ∈ left.directChannels, ∃ old ∈ db.directChannels, old.id = row.id ∧ old.kind = row.kind

theorem Fewer.inherits {db left : Database} (fewer : Fewer db left) : Inherits db left := by
  intro row member
  obtain ⟨old, stored, id, kind, -⟩ := fewer.channels row member
  exact ⟨old, stored, id, kind⟩

theorem Removed.inherits {channelId userId : Int} {db left : Database}
    (removed : Removed channelId userId db left) : Inherits db left := by
  intro row member
  obtain ⟨old, stored, id, kind, -⟩ := removed.channels row member
  exact ⟨old, stored, id, kind⟩

theorem fewer_same {db left : Database} (channels : left.directChannels = db.directChannels)
    (recipients : left.recipients = db.recipients) : Fewer db left :=
  ⟨fun row member => ⟨row, channels ▸ member, rfl, rfl, rfl⟩, fun _ member => recipients ▸ member⟩

theorem fewer_trans {db middle left : Database} (first : Fewer db middle)
    (second : Fewer middle left) : Fewer db left := by
  refine ⟨fun row member => ?_, List.Subset.trans second.recipients first.recipients⟩
  obtain ⟨between, present, sameId, sameKind, sameKey⟩ := second.channels row member
  obtain ⟨old, stored, id, kind, key⟩ := first.channels between present
  exact ⟨old, stored, id.trans sameId, kind.trans sameKind, key.trans sameKey⟩

theorem cleared_channel (gone : Database) (row : DirectChannelRow) :
    ∃ ownerId, Deletion.cleared Catalog.declared .directChannels gone row =
      { row with ownerId := ownerId } := by
  simp only [Deletion.cleared, Catalog.declared, List.foldl_cons, List.foldl_nil]
  split
  · exact ⟨none, rfl⟩
  · exact ⟨row.ownerId, rfl⟩

theorem cleared_recipient (gone : Database) (row : RecipientRow) :
    Deletion.cleared Catalog.declared .recipients gone row = row := rfl

theorem fewer_delete {table : Table} {integers : List Int} {chosen : table.Row → Bool}
    {db left : Database}
    (done : deleteRows Catalog.declared table integers chosen db = .ok left) : Fewer db left := by
  refine ⟨fun row member => ?_, fun row member => ?_⟩
  · obtain ⟨old, stored, rfl⟩ := deleteRows_left done .directChannels row member
    obtain ⟨ownerId, same⟩ := cleared_channel _ old
    exact ⟨old, stored, by rw [same], by rw [same], by rw [same]⟩
  · obtain ⟨old, stored, rfl⟩ := deleteRows_left done .recipients row member
    exact stored

theorem fewer_effects {tables : List Table} {db left : Database}
    (noChannels : .directChannels ∉ tables) (noRecipients : .recipients ∉ tables)
    (effects : Effects tables db left) : Fewer db left := by
  have beside : ∀ {table : Table} {middle : Database} {rows : List table.Row}, table ∈ tables →
      Fewer middle (middle.put table rows) := by
    intro table middle rows within
    refine fewer_same ?_ ?_
    · exact Database.rows_put_of_ne middle (ne_of_mem_of_not_mem within noChannels).symm rows
    · exact Database.rows_put_of_ne middle (ne_of_mem_of_not_mem within noRecipients).symm rows
  refine effects_keep ?_ (fewer_same rfl rfl) effects
  intro middle left sofar effect
  refine fewer_trans sofar ?_
  cases effect with
  | insert within done =>
      obtain ⟨-, rfl, -⟩ := insertRow_ok.mp done
      exact beside within
  | change within alone steady done =>
      obtain ⟨-, rfl, -⟩ := changeRows_ok.mp done
      exact beside within
  | delete done => exact fewer_delete done

theorem addRecipient_ok {channelId userId : Int} {db left : Database}
    (done : addRecipient Catalog.declared channelId userId db = .ok left) :
    left = db ∨ Joined channelId userId db left := by
  rcases ensureRow_ok done with inserted | ⟨-, same⟩
  · obtain ⟨-, rfl, admissible⟩ := insertRow_ok.mp inserted
    refine Or.inr ⟨fun present => ?_, rfl, rfl⟩
    have apart := admissible.primaryKey _ present
    rw [sameKey_identity.mpr rfl] at apart
    cases apart
  · exact Or.inl same

theorem isRecipient_iff {channelId userId : Int} {row : RecipientRow} :
    isRecipient channelId userId row = true ↔ row = ⟨channelId, userId⟩ := by
  obtain ⟨channel, user⟩ := row
  simp [isRecipient]

theorem removeRecipient_ok {channelId userId : Int} {db left : Database}
    (done : removeRecipient Catalog.declared channelId userId db = .ok left) :
    Fewer db left ∨ Removed channelId userId db left := by
  unfold removeRecipient at done
  split at done
  · rename_i found
    obtain ⟨middle, removed, rest⟩ := inOrder_cons.mp done
    obtain ⟨changed, released, rest⟩ := inOrder_cons.mp rest
    cases rest
    obtain ⟨-, rfl, -⟩ := changeRows_ok.mp released
    have fewer := fewer_delete removed
    refine Or.inr ⟨?_, ?_, fewer.recipients, ?_⟩
    · obtain ⟨row, stored, chosen⟩ := List.any_eq_true.mp found
      obtain rfl := isRecipient_iff.mp chosen
      exact stored
    · intro stays
      obtain ⟨old, -, spared, same⟩ := deleteRows_spared removed _ stays
      rw [cleared_recipient] at same
      rw [← same, isRecipient_iff.mpr rfl] at spared
      cases spared
    · intro row member
      obtain ⟨between, present, rfl⟩ := List.mem_map.mp member
      obtain ⟨old, stored, id, kind, key⟩ := fewer.channels between present
      refine ⟨old, stored, ?_, ?_, ?_⟩
      · split <;> exact id
      · split <;> exact kind
      · rw [id, kind, key]
        simp only [Bool.and_eq_true, decide_eq_true_eq]
        split <;> rfl
  · exact Or.inl (fewer_delete done)

inductive Change (event : Event) (db : Database) : Prop where
  | fewer (fewer : Fewer db (event.apply db))
  | removed {channelId userId : Int} (removed : Removed channelId userId db (event.apply db))
  | opened {draft : Draft} {key : Option String}
      (created : Created draft key db (event.apply db))
  | joined {channelId userId : Int}
      (write : event.write? = some (.addRecipient channelId userId))
      (joined : Joined channelId userId db (event.apply db))

theorem event_change (event : Event) (db : Database) : Change event db := by
  rcases event_tables event db with same | ⟨write, named, done⟩
  · exact .fewer (by rw [same]; exact fewer_same rfl rfl)
  · cases write
    case createDirect =>
      obtain ⟨key, created⟩ := create_ok done
      exact .opened created
    case addRecipient channelId userId =>
      rcases addRecipient_ok done with same | joined
      · exact .fewer (by rw [same]; exact fewer_same rfl rfl)
      · exact .joined named joined
    case removeRecipient =>
      rcases removeRecipient_ok done with fewer | removed
      · exact .fewer fewer
      · exact .removed removed
    all_goals exact .fewer (fewer_effects (by simp [Write.targets, Write.table])
      (by simp [Write.targets, Write.table]) (Write.effects done))

/-- A channel that an event leaves was there before, under the same name if it still has one, or has
just been opened. -/
theorem row_before {event : Event} {db : Database} {row : DirectChannelRow}
    (stored : row ∈ (event.apply db).directChannels) :
    (∃ old ∈ db.directChannels, old.id = row.id ∧ old.kind = row.kind ∧
      ∀ name, row.pairKey = some name → old.pairKey = some name) ∨
    ∃ draft key, Created draft key db (event.apply db) ∧ row = draft.row key := by
  cases event_change event db with
  | fewer fewer =>
      obtain ⟨old, present, id, kind, key⟩ := fewer.channels row stored
      exact Or.inl ⟨old, present, id, kind, fun name named => key.trans named⟩
  | removed removed =>
      obtain ⟨old, present, id, kind, key⟩ := removed.channels row stored
      refine Or.inl ⟨old, present, id, kind, fun name named => ?_⟩
      rw [key] at named
      split at named
      · cases named
      · exact named
  | @opened draft key created =>
      rw [created.channels, List.mem_append, List.mem_singleton] at stored
      rcases stored with old | rfl
      · exact Or.inl ⟨row, old, rfl, rfl, fun name named => named⟩
      · exact Or.inr ⟨draft, key, created, rfl⟩
  | joined write joined =>
      exact Or.inl ⟨row, joined.channels ▸ stored, rfl, rfl, fun name named => named⟩

def Keyed (db : Database) : Prop :=
  ∀ row ∈ db.directChannels, ∀ name, row.pairKey = some name → row.kind = DirectKind.pair.code

theorem pair_of_named {draft : Draft} {name : String}
    (named : draft.pairKey? = .ok (some name)) : draft.kind = DirectKind.pair.code := by
  have naming := naming draft
  rw [named] at naming
  cases naming with
  | pair pair two writable => exact pair

theorem keyed_event (event : Event) (db : Database) (keyed : Keyed db) :
    Keyed (event.apply db) := by
  intro row stored name named
  rcases row_before stored with ⟨old, present, -, kind, key⟩ | ⟨draft, key, created, rfl⟩
  · exact kind.symm.trans (keyed old present name (key name named))
  · obtain rfl : key = some name := named
    exact pair_of_named created.named

theorem reachable_keyed {db : Database} (reachable : Reachable db) : Keyed db := by
  refine reachable_keeps ?_ keyed_event reachable
  intro row stored
  cases stored

end Guildhall.Directs
