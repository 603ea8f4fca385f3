import Guildhall.Proofs.PairKey
import Guildhall.Proofs.Store.Consistency
import Mathlib.Data.Sym.Sym2

/-!
What the creation of a direct channel leaves: its row under a fresh identifier and a fresh name, and
one row for each recipient. It can be read at once. The name is in the way of another channel for
the same two users, and of no other.
-/

namespace Guildhall.Directs

open Calendar

theorem inOrder_recipients {catalog : Catalog} {channelId : Int} {userIds : List Int}
    {db left : Database}
    (done : inOrder (userIds.map fun userId =>
      insertRow catalog .recipients ⟨channelId, userId⟩) db = .ok left) :
    left = db.put .recipients (db.recipients ++ userIds.map (RecipientRow.mk channelId)) := by
  induction userIds generalizing db with
  | nil =>
      cases done
      simp [Database.put]
  | cons userId rest ih =>
      obtain ⟨middle, first, later⟩ := inOrder_cons.mp done
      obtain ⟨-, rfl, -⟩ := insertRow_ok.mp first
      simpa [Database.put, Database.rows] using ih later

/-- How a draft comes to the name of its channel, or to none. -/
inductive Draft.Naming (draft : Draft) : Except Failure (Option String) → Prop
  | group (group : draft.kind ≠ DirectKind.pair.code) : Naming draft (.ok none)
  | pair {a b : Int} (pair : draft.kind = DirectKind.pair.code) (two : draft.recipients = [a, b])
      (writable : (Decimal.isWritable a && Decimal.isWritable b) = true) :
      Naming draft (.ok (some (pairKey a b)))
  | overlong {a b : Int} (pair : draft.kind = DirectKind.pair.code)
      (two : draft.recipients = [a, b])
      (overlong : (Decimal.isWritable a && Decimal.isWritable b) = false) :
      Naming draft (.error .unwritable)
  | crowd (pair : draft.kind = DirectKind.pair.code)
      (crowd : draft.recipients.length ≠ 2) :
      Naming draft (.error (.recipientCount draft.recipients.length))

theorem naming (draft : Draft) : draft.Naming draft.pairKey? := by
  obtain ⟨id, recipients, kind, owner, now⟩ := draft
  unfold Draft.pairKey?
  split
  · rename_i pair
    have pair : kind = DirectKind.pair.code := of_decide_eq_true pair
    split
    · rename_i a b two
      unfold Guildhall.pairKey?
      cases writable : Decimal.isWritable a && Decimal.isWritable b with
      | true => exact .pair pair two writable
      | false => exact .overlong pair two writable
    · rename_i other
      refine .crowd pair fun two => ?_
      obtain ⟨a, b, rfl⟩ := List.length_eq_two.mp two
      exact other a b rfl
  · rename_i other
    exact .group fun pair => other (decide_eq_true pair)

def Draft.between (a b id : Int) (owner : Option Int) (now : DateTime) : Draft :=
  ⟨id, [a, b], DirectKind.pair.code, owner, now⟩

theorem pairKey?_between (a b id : Int) (owner : Option Int) (now : DateTime) :
    (Draft.between a b id owner now).pairKey? =
      if Decimal.isWritable a && Decimal.isWritable b then .ok (some (pairKey a b))
      else .error .unwritable := by
  unfold Draft.between Draft.pairKey? Guildhall.pairKey?
  rw [if_pos (by rfl)]
  dsimp only
  cases Decimal.isWritable a && Decimal.isWritable b <;> rfl

variable {draft : Draft} {db left : Database}

structure Created (draft : Draft) (key : Option String) (db left : Database) : Prop where
  named : draft.pairKey? = .ok key
  fits : fitsWord draft.id = true
  fresh : ∀ row ∈ db.directChannels, row.id ≠ draft.id
  unclaimed : ∀ name ∈ key, ∀ row ∈ db.directChannels, row.pairKey ≠ some name
  channels : left.directChannels = db.directChannels ++ [draft.row key]
  recipients : left.recipients =
    db.recipients ++ draft.recipients.map (RecipientRow.mk draft.id)

theorem id_fresh {row : DirectChannelRow} {others : List DirectChannelRow}
    (admissible : Admissible Catalog.declared .directChannels row others left) :
    ∀ other ∈ others, other.id ≠ row.id := by
  intro other member same
  have taken : Table.sameKey .directChannels (Catalog.declared .directChannels).primaryKey
      row other = true := sameKey_identity.mpr (by simp [Table.identity, same])
  rw [admissible.primaryKey other member] at taken
  cases taken

theorem create_ok (done : create Catalog.declared draft db = .ok left) :
    ∃ key, Created draft key db left := by
  unfold create at done
  split at done
  · rename_i key named
    obtain ⟨middle, first, later⟩ := inOrder_cons.mp done
    obtain ⟨fits, rfl, admissible⟩ := insertRow_ok.mp first
    obtain rfl := inOrder_recipients later
    refine ⟨key, named, ?_, ?_, ?_, rfl, rfl⟩
    · exact List.all_eq_true.mp fits draft.id List.mem_cons_self
    · exact id_fresh admissible
    · rintro name rfl row member same
      have taken : Table.sameKey .directChannels ["pair_key"] (draft.row (some name)) row = true :=
        sameKey_iff.mpr ⟨_, key_pairKey rfl, key_pairKey same⟩
      rw [admissible.uniques _ List.mem_cons_self row member] at taken
      cases taken
  · cases done

/-- Two rows that cannot stand beside each other: a key that the table declares as unique is the key
of both. -/
def Collide (table : Table) (first second : table.Row) : Prop :=
  ∃ named ∈ (Catalog.declared table).uniques, table.sameKey named.columns first second = true

theorem collide_named {first second : DirectChannelRow} {key other : String}
    (firstNamed : first.pairKey = some key) (secondNamed : second.pairKey = some other) :
    Collide .directChannels first second ↔ key = other := by
  constructor
  · rintro ⟨named, declared, same⟩
    obtain rfl := List.mem_singleton.mp declared
    obtain ⟨cells, here, there⟩ := sameKey_iff.mp same
    have shared := (key_pairKey firstNamed).symm.trans (here.trans (there.symm.trans
      (key_pairKey secondNamed)))
    simpa using shared
  · rintro rfl
    exact ⟨_, List.mem_cons_self, sameKey_iff.mpr ⟨_, key_pairKey firstNamed,
      key_pairKey secondNamed⟩⟩

/-- A pair of users has one name, whichever of them comes first, and no other pair has it. So two
channels between two users stand in each other's way exactly if they are for the same two. A channel
gets the name if both users can be written, and is refused otherwise. -/
theorem names_collide_iff (a b c d : Int) :
    (pairKey a b = pairKey c d ↔ s(a, b) = s(c, d)) ∧
    ∀ (id otherId : Int) (owner otherOwner : Option Int) (now later : DateTime),
      let first := Draft.between a b id owner now
      let second := Draft.between c d otherId otherOwner later
      first.pairKey? = (if Decimal.isWritable a && Decimal.isWritable b then
        .ok (some (pairKey a b)) else .error .unwritable) ∧
      (Collide .directChannels (first.row (some (pairKey a b)))
        (second.row (some (pairKey c d))) ↔ s(a, b) = s(c, d)) := by
  have canonical : pairKey a b = pairKey c d ↔ s(a, b) = s(c, d) :=
    pairKey_eq_iff.trans Sym2.eq_iff.symm
  refine ⟨canonical, fun id otherId owner otherOwner now later => ?_⟩
  exact ⟨pairKey?_between a b id owner now, (collide_named rfl rfl).trans canonical⟩

theorem find_created (pair : draft.kind = DirectKind.pair.code)
    (done : create Catalog.declared draft db = .ok left) :
    ∃ channel, find draft.id left = .ok (some channel) := by
  obtain ⟨key, created⟩ := create_ok done
  have found : left.directChannels.find? (fun row => row.id = draft.id) =
      some (draft.row key) := by
    rw [created.channels, List.find?_append, List.find?_eq_none.mpr (by simpa using created.fresh)]
    simp [Draft.row]
  have fits : ∀ rule ∈ [fitting [draft.id]], rule.holds = true := by
    simp [fitting, created.fits]
  obtain ⟨channel, readable⟩ : ∃ channel, withRecipients left (draft.row key) = .ok channel := by
    simp [withRecipients, DirectChannelRow.channel, Draft.row, pair, DirectKind.code,
      DirectKind.ofCode?]
  refine ⟨channel, ?_⟩
  simp only [find, askRead, ask, demand_ok.mpr ⟨fits, rfl⟩, found, Except.bind, id]
  rw [Option.mapM_some, readable]
  rfl

end Guildhall.Directs
