import Guildhall.Proofs.Store.Identity
import Guildhall.Store.Command
import Mathlib.Logic.Relation

/-!
What the stores can do to the tables: every write that succeeds is a sequence of insertions, changes
in place that keep the identity of the one row they choose, and deletions. An invariant of these
three is an invariant of all stores.
-/

namespace Guildhall

/-- One statement that succeeds, with rows inserted or changed in the given tables only. -/
inductive Effect (tables : List Table) : Database → Database → Prop where
  | insert {table : Table} {row : table.Row} {db left : Database} (within : table ∈ tables)
      (done : insertRow Catalog.declared table row db = .ok left) : Effect tables db left
  | change {table : Table} {integers : List Int} {chosen : table.Row → Bool}
      {change : table.Row → table.Row} {db left : Database} (within : table ∈ tables)
      (alone : ∀ a b, chosen a = true → chosen b = true → table.identity a = table.identity b)
      (steady : ∀ row, chosen row = true → table.identity (change row) = table.identity row)
      (done : changeRows Catalog.declared table integers chosen change db = .ok left) :
      Effect tables db left
  | delete {table : Table} {integers : List Int} {chosen : table.Row → Bool}
      {db left : Database}
      (done : deleteRows Catalog.declared table integers chosen db = .ok left) :
      Effect tables db left

abbrev Effects (tables : List Table) : Database → Database → Prop :=
  Relation.ReflTransGen (Effect tables)

def Write.targets : Write → List Table
  | .createDirect .. => [.directChannels, .recipients]
  | .removeRecipient .. => [.directChannels]
  | .deleteDirect _ => []
  | write => [write.table]

theorem sound_effect {tables : List Table} {db left : Database}
    (sound : db.Sound Catalog.declared) (effect : Effect tables db left) :
    left.Sound Catalog.declared := by
  cases effect with
  | insert within done => exact sound_insertRow sound done
  | change within alone steady done =>
      refine sound_changeRows rooted_declared sound ?_ ?_ done
      · intro a b first second
        exact sameKey_identity.mpr (alone a b first second)
      · intro row picked
        rw [key_identity, key_identity, steady row picked]
  | delete done => exact sound_deleteRows orderly_declared sound done

theorem effects_keep {P : Database → Prop} {tables : List Table} {db left : Database}
    (step : ∀ {db left}, P db → Effect tables db left → P left) (start : P db)
    (effects : Effects tables db left) : P left := by
  induction effects with
  | refl => exact start
  | tail _ effect ih => exact step ih effect

theorem effects_ensureRow {tables : List Table} {table : Table} {row : table.Row}
    {db left : Database} (within : table ∈ tables)
    (done : ensureRow Catalog.declared table row db = .ok left) : Effects tables db left := by
  rcases ensureRow_ok done with inserted | ⟨-, rfl⟩
  · exact .single (.insert within inserted)
  · exact .refl

theorem effects_putRow {tables : List Table} (table : Table) {row : table.Row}
    {change : table.Row → table.Row} {db left : Database}
    (done : putRow Catalog.declared table row change db = .ok left)
    (steady : ∀ old, table.identity row = table.identity old →
      table.identity (change old) = table.identity old)
    (within : table ∈ tables) : Effects tables db left := by
  rcases putRow_ok done with inserted | changed
  · exact .single (.insert within inserted)
  · refine .single (.change within ?_ ?_ changed)
    · intro a b first second
      exact (sameKey_identity.mp first).symm.trans (sameKey_identity.mp second)
    · intro old picked
      exact steady old (sameKey_identity.mp picked)

theorem inOrder_cons {statement : Statement} {rest : List Statement} {db left : Database} :
    inOrder (statement :: rest) db = .ok left ↔
      ∃ middle, statement db = .ok middle ∧ inOrder rest middle = .ok left := by
  unfold inOrder
  rw [List.foldlM_cons]
  cases statement db with
  | error failure => simp [bind, Except.bind]
  | ok middle => simp [bind, Except.bind]

theorem inOrder_cons_error {statement : Statement} {rest : List Statement} {db : Database}
    {failure : Failure} :
    inOrder (statement :: rest) db = .error failure ↔
      statement db = .error failure ∨
        ∃ middle, statement db = .ok middle ∧ inOrder rest middle = .error failure := by
  unfold inOrder
  rw [List.foldlM_cons]
  cases statement db with
  | error failure => simp [bind, Except.bind]
  | ok middle => simp [bind, Except.bind]

theorem inOrder_cons_of_ok {statement : Statement} {rest : List Statement} {db middle : Database}
    (done : statement db = .ok middle) : inOrder (statement :: rest) db = inOrder rest middle := by
  unfold inOrder
  rw [List.foldlM_cons, done]
  rfl

theorem effects_inOrder {tables : List Table} {statements : List Statement} {db left : Database}
    (each : ∀ statement ∈ statements, ∀ {db left}, statement db = .ok left →
      Effects tables db left)
    (done : inOrder statements db = .ok left) : Effects tables db left := by
  induction statements generalizing db with
  | nil =>
      cases done
      exact .refl
  | cons statement rest ih =>
      obtain ⟨middle, first, later⟩ := inOrder_cons.mp done
      exact (each statement List.mem_cons_self first).trans
        (ih (fun other member => each other (List.mem_cons_of_mem _ member)) later)

theorem effects_changeRows {tables : List Table} (table : Table) {integers : List Int}
    {chosen : table.Row → Bool} {change : table.Row → table.Row} {db left : Database}
    (done : changeRows Catalog.declared table integers chosen change db = .ok left)
    (identity : List Cell) (picks : ∀ row, chosen row = true → table.identity row = identity)
    (steady : ∀ row, table.identity (change row) = table.identity row)
    (within : table ∈ tables) : Effects tables db left :=
  .single (.change within (fun a b first second => (picks a first).trans (picks b second).symm)
    (fun row _ => steady row) done)

theorem effects_createDirect {draft : Directs.Draft} {db left : Database}
    (done : Directs.create Catalog.declared draft db = .ok left) :
    Effects [.directChannels, .recipients] db left := by
  unfold Directs.create at done
  split at done
  · refine effects_inOrder ?_ done
    intro statement member db left done
    rcases List.mem_cons.mp member with rfl | member
    · exact .single (.insert (by simp) done)
    · obtain ⟨userId, -, rfl⟩ := List.mem_map.mp member
      exact .single (.insert (by simp) done)
  · cases done

theorem effects_removeRecipient {channelId userId : Int} {db left : Database}
    (done : Directs.removeRecipient Catalog.declared channelId userId db = .ok left) :
    Effects [.directChannels] db left := by
  unfold Directs.removeRecipient at done
  split at done
  · obtain ⟨middle, removed, rest⟩ := inOrder_cons.mp done
    obtain ⟨changed, released, rest⟩ := inOrder_cons.mp rest
    cases rest
    have release := effects_changeRows .directChannels released [.int channelId]
      (by simp_all [Table.identity]) (fun row => rfl) (List.mem_singleton_self _)
    exact (Relation.ReflTransGen.single (.delete removed)).trans release
  · exact .single (.delete done)

/-- Every write that succeeds is made of effects. -/
theorem Write.effects {write : Write} {now : Calendar.DateTime} {db left : Database}
    (done : write.statement Catalog.declared now db = .ok left) :
    Effects write.targets db left := by
  have own : ∀ table : Table, table ∈ [table] := List.mem_singleton_self
  cases write
  case createUser | createGuild | createMember | createRole | createBan | createInvite |
      createChannel | createMessage | createAttachment =>
    exact .single (.insert (own _) done)
  case deleteUser | deleteGuild | deleteMember | removeMemberRole | deleteRole | deleteBan |
      deleteInvite | deleteChannel | deleteOverride | deleteMessage | deleteAttachment |
      deleteAttachmentsOf | removeReaction | deleteDirect | deleteVoiceState =>
    exact .single (.delete done)
  case addMemberRole | addReaction | addRecipient => exact effects_ensureRow (own _) done
  case createDirect => exact effects_createDirect done
  case removeRecipient => exact effects_removeRecipient done
  case updateUser user =>
    exact effects_changeRows .users done [.int user.id]
      (by simp [Table.identity]) (fun row => rfl) (own _)
  case updateGuild guild =>
    exact effects_changeRows .guilds done [.int guild.id]
      (by simp [Table.identity]) (fun row => rfl) (own _)
  case updateMember member =>
    exact effects_changeRows .members done [.int member.guildId, .int member.userId]
      (by simp [Table.identity, Members.isOf]) (fun row => rfl) (own _)
  case updateRole role =>
    exact effects_changeRows .roles done [.int role.id]
      (by simp [Table.identity]) (fun row => rfl) (own _)
  case incrementInviteUses code =>
    exact effects_changeRows .invites done [.text code]
      (by simp [Table.identity]) (fun row => rfl) (own _)
  case updateChannel channel =>
    exact effects_changeRows .channels done [.int channel.id]
      (by simp [Table.identity]) (fun row => rfl) (own _)
  case updateMessage message =>
    exact effects_changeRows .messages done [.int message.id]
      (by simp [Table.identity]) (fun row => rfl) (own _)
  case incrementMentions userId channelId =>
    exact effects_changeRows .readStates done [.int userId, .int channelId]
      (by simp [Table.identity, ReadStates.isOf]) (fun row => rfl) (own _)
  case setOverride => exact effects_putRow .channelOverrides done (fun old same => rfl) (own _)
  case upsertReadState => exact effects_putRow .readStates done (fun old same => same) (own _)
  case upsertVoiceState => exact effects_putRow .voiceStates done (fun old same => same) (own _)

end Guildhall
