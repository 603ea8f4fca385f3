import Guildhall.Proofs.Store.Insertion
import Guildhall.Proofs.Store.Retrieval

/-!
Writes that can be repeated. A change, a deletion or an upsert that has gone through finds nothing
to do the second time: the rows it chooses are as it makes them, or are gone.
-/

namespace Guildhall

open Calendar

/-- Where the statement has succeeded it succeeds again, and changes nothing. -/
def Repeats (statement : Statement) : Prop :=
  ∀ {db left : Database}, left.Sound Catalog.declared → statement db = .ok left →
    statement left = .ok left

theorem put_rows (db : Database) (table : Table) : db.put table (db.rows table) = db := by
  cases table <;> rfl

theorem Database.ext_rows {a b : Database} (same : ∀ table, a.rows table = b.rows table) :
    a = b := by
  obtain ⟨⟩ := a
  obtain ⟨⟩ := b
  simp only [Database.mk.injEq]
  exact ⟨same .users, same .guilds, same .members, same .roles, same .memberRoles, same .channels,
    same .channelOverrides, same .bans, same .invites, same .messages, same .attachments,
    same .reactions, same .directChannels, same .recipients, same .readStates, same .voiceStates⟩

section Changes

variable {table : Table} {integers : List Int} {chosen : table.Row → Bool}
  {change : table.Row → table.Row} {db : Database}

theorem admissible_stored (sound : db.Sound Catalog.declared) {row : table.Row}
    (stored : row ∈ db.rows table) (picked : chosen row = true) :
    Admissible Catalog.declared table row ((db.rows table).filter fun row => !chosen row) db := by
  have apart : ∀ other ∈ (db.rows table).filter (fun row => !chosen row),
      other ∈ db.rows table ∧ row ≠ other := by
    intro other member
    obtain ⟨present, spared⟩ := List.mem_filter.mp member
    refine ⟨present, ?_⟩
    rintro rfl
    rw [picked] at spared
    cases spared
  refine ⟨fun named declared other member => ?_, fun other member => ?_,
    sound.references table row stored⟩
  · exact (sound.uniques table named declared).apart stored (apart other member).1
      (apart other member).2
  · exact (sound.primaryKeys table).apart stored (apart other member).1 (apart other member).2

theorem changeRows_still (sound : db.Sound Catalog.declared)
    (fits : integers.all fitsWord = true)
    (still : ∀ row ∈ db.rows table, chosen row = true → change row = row) :
    changeRows Catalog.declared table integers chosen change db = .ok db := by
  have rows : changedRows table chosen change db = db.rows table := by
    refine (List.map_congr_left fun row stored => ?_).trans (List.map_id _)
    split
    · exact still row stored (by assumption)
    · rfl
  refine changeRows_ok.mpr ⟨fits, ?_, fun row stored picked => ?_⟩
  · rw [rows, put_rows]
  · rw [still row stored picked]
    exact admissible_stored sound stored picked

theorem repeats_changeRows (table : Table) {integers : List Int} {chosen : table.Row → Bool}
    {change : table.Row → table.Row}
    (again : ∀ row, chosen row = true → change (change row) = change row) :
    Repeats (changeRows Catalog.declared table integers chosen change) := by
  intro db left sound done
  obtain ⟨fits, outcome, -⟩ := changeRows_ok.mp done
  refine changeRows_still sound fits fun row stored picked => ?_
  rw [outcome, Database.rows_put_self] at stored
  obtain ⟨old, -, rfl⟩ := List.mem_map.mp stored
  by_cases before : chosen old = true
  · rw [if_pos before]
    exact again old before
  · rw [if_neg before] at picked
    exact absurd picked before

end Changes

section Upserts

variable {table : Table} {row : table.Row} {change : table.Row → table.Row} {db : Database}

theorem holdsKeyOf_inserted {left : Database}
    (done : insertRow Catalog.declared table row db = .ok left) :
    row ∈ left.rows table ∧ holdsKeyOf Catalog.declared table row left = true := by
  obtain ⟨-, outcome, -⟩ := insertRow_ok.mp done
  have stored : row ∈ left.rows table := by
    rw [outcome, Database.rows_put_self]
    exact List.mem_append_right _ List.mem_cons_self
  exact ⟨stored, holdsKeyOf_iff.mpr ⟨row, stored, rfl⟩⟩

theorem repeats_ensureRow : Repeats (ensureRow Catalog.declared table row) := by
  intro db left _ done
  rcases ensureRow_ok done with inserted | ⟨-, rfl⟩
  · obtain ⟨fits, -, -⟩ := insertRow_ok.mp inserted
    unfold ensureRow
    rw [if_pos (holdsKeyOf_inserted inserted).2]
    exact demand_ok.mpr ⟨by simpa [fitting] using fits, rfl⟩
  · exact done

/-- An upsert is repeated by the change, which makes a row what the first time has made of it. -/
theorem repeats_putRow (table : Table) {row : table.Row} {change : table.Row → table.Row}
    (fresh : change row = row)
    (steady : ∀ old, table.identity row = table.identity old →
      table.identity (change old) = table.identity old)
    (again : ∀ old, table.identity row = table.identity old →
      change (change old) = change old) :
    Repeats (putRow Catalog.declared table row change) := by
  intro db left sound done
  by_cases holds : holdsKeyOf Catalog.declared table row db = true
  · have changed : changeRows Catalog.declared table (table.cells row).integers
        (table.sameKey (Catalog.declared table).primaryKey row) change db = .ok left := by
      simpa [putRow, holds] using done
    obtain ⟨old, stored, same⟩ := holdsKeyOf_iff.mp holds
    obtain ⟨-, outcome, -⟩ := changeRows_ok.mp changed
    have kept : change old ∈ left.rows table := by
      rw [outcome, Database.rows_put_self]
      exact List.mem_map.mpr ⟨old, stored, if_pos (sameKey_identity.mpr same)⟩
    have later : holdsKeyOf Catalog.declared table row left = true :=
      holdsKeyOf_iff.mpr ⟨change old, kept, same.trans (steady old same).symm⟩
    unfold putRow
    rw [if_pos later]
    exact repeats_changeRows table (fun old picked => again old (sameKey_identity.mp picked))
      sound changed
  · have inserted : insertRow Catalog.declared table row db = .ok left := by
      simpa [putRow, holds] using done
    obtain ⟨stored, later⟩ := holdsKeyOf_inserted inserted
    obtain ⟨fits, -, -⟩ := insertRow_ok.mp inserted
    unfold putRow
    rw [if_pos later]
    refine changeRows_still sound fits fun other present picked => ?_
    rw [← eq_of_identity sound stored present (sameKey_identity.mp picked)]
    exact fresh

end Upserts

section Deletions

variable {table : Table} {integers : List Int} {chosen : table.Row → Bool} {db : Database}

theorem falls_of_chosen {other : Table} {row : other.Row}
    (falls : Falls Catalog.declared db table chosen other row) :
    ∃ root ∈ db.rows table, chosen root = true := by
  induction falls with
  | chosen stored picked => exact ⟨_, stored, picked⟩
  | dragged _ _ _ _ _ ih => exact ih

theorem deleteRows_nothing (fits : integers.all fitsWord = true)
    (none : ∀ row ∈ db.rows table, chosen row = false) :
    deleteRows Catalog.declared table integers chosen db = .ok db := by
  have spared : ∀ (other : Table) (row : other.Row),
      ¬Falls Catalog.declared db table chosen other row := by
    intro other row falls
    obtain ⟨root, stored, picked⟩ := falls_of_chosen falls
    rw [none root stored] at picked
    cases picked
  cases outcome : deleteRows Catalog.declared table integers chosen db with
  | error failure =>
      have free := unhindered_complete.mpr
        fun (guild : GuildRow) (_ : guild ∈ db.guilds) _ (owner : UserRow) falls =>
          absurd falls (spared .users owner)
      rcases deleteRows_error.mp outcome with ⟨large, -⟩ | ⟨-, hindered, -⟩
      · rw [fits] at large
        cases large
      · rw [free] at hindered
        cases hindered
  | ok left =>
      exact congrArg Except.ok (Database.ext_rows fun other =>
        (cascaded_deleteRows outcome).still (spared other) (spared .channels) (spared .users))

theorem repeats_deleteRows (table : Table) {integers : List Int} {chosen : table.Row → Bool}
    (steady : ∀ gone row, chosen (Deletion.cleared Catalog.declared table gone row) = chosen row) :
    Repeats (deleteRows Catalog.declared table integers chosen) := by
  intro db left _ done
  obtain ⟨fits, -, -⟩ := deleteRows_ok.mp done
  refine deleteRows_nothing fits fun row stored => ?_
  obtain ⟨old, -, spared, rfl⟩ := deleteRows_spared done row stored
  rw [steady, spared]

theorem repeats_deletePlain (table : Table) {integers : List Int} {chosen : table.Row → Bool}
    (channels : table ≠ .channels) (directs : table ≠ .directChannels) :
    Repeats (deleteRows Catalog.declared table integers chosen) :=
  repeats_deleteRows table fun gone row =>
    congrArg chosen (Deletion.cleared_same gone row channels directs)

theorem repeats_deleteNamed (table : Table) {integers : List Int} {chosen : table.Row → Bool}
    (identity : List Cell) (picks : ∀ row, chosen row = true ↔ table.identity row = identity) :
    Repeats (deleteRows Catalog.declared table integers chosen) :=
  repeats_deleteRows table fun gone row => by
    rw [Bool.eq_iff_iff, picks, picks, identity_cleared]

end Deletions

theorem repeats_removeRecipient (channelId userId : Int) :
    Repeats (Directs.removeRecipient Catalog.declared channelId userId) := by
  intro db left _ done
  have removes : ∀ {middle : Database}, deleteRows Catalog.declared .recipients [channelId, userId]
      (Directs.isRecipient channelId userId) db = .ok middle →
      [channelId, userId].all fitsWord = true ∧
        ∀ row ∈ middle.recipients, Directs.isRecipient channelId userId row = false := by
    intro middle removed
    obtain ⟨fits, -, -⟩ := deleteRows_ok.mp removed
    refine ⟨fits, fun row stored => ?_⟩
    obtain ⟨old, -, spared, rfl⟩ := deleteRows_spared removed row stored
    exact spared
  have gone : [channelId, userId].all fitsWord = true ∧
      ∀ row ∈ left.recipients, Directs.isRecipient channelId userId row = false := by
    unfold Directs.removeRecipient at done
    split at done
    · obtain ⟨middle, removed, rest⟩ := inOrder_cons.mp done
      obtain ⟨changed, released, rest⟩ := inOrder_cons.mp rest
      cases rest
      have same : left.recipients = middle.recipients := by
        obtain ⟨-, rfl, -⟩ := changeRows_ok.mp released
        rfl
      rw [same]
      exact removes removed
    · exact removes done
  -- The second time nobody is there to be removed, so the name of the pair is not looked at.
  have absent : left.recipients.any (Directs.isRecipient channelId userId) = false := by
    rw [List.any_eq_false]
    intro row stored
    rw [gone.2 row stored]
    exact Bool.false_ne_true
  unfold Directs.removeRecipient
  rw [if_neg (Bool.not_eq_true _ ▸ absent)]
  exact deleteRows_nothing gone.1 gone.2

/-- The write says what is to be there or is not to be there, and neither adds to a count nor
demands that something is new. -/
def Write.Repeatable : Write → Prop
  | .updateUser _ | .updateGuild _ | .updateMember _ | .updateRole _ | .updateChannel _
  | .updateMessage _ => True
  | .deleteUser _ | .deleteGuild _ | .deleteMember .. | .deleteRole _ | .deleteBan ..
  | .deleteInvite _ | .deleteChannel _ | .deleteOverride .. | .deleteMessage _
  | .deleteAttachment _ | .deleteAttachmentsOf _ | .deleteDirect _ | .deleteVoiceState .. => True
  | .addMemberRole .. | .removeMemberRole .. | .addReaction .. | .removeReaction ..
  | .addRecipient .. | .removeRecipient .. => True
  | .setOverride _ | .upsertReadState .. | .upsertVoiceState _ => True
  | .createUser _ | .createGuild _ | .createMember _ | .createRole _ | .createBan _
  | .createInvite _ | .createChannel _ | .createMessage _ | .createAttachment _
  | .createDirect .. => False
  | .incrementInviteUses _ | .incrementMentions .. => False

theorem Write.repeats {write : Write} (repeatable : write.Repeatable) (now : DateTime) :
    Repeats (write.statement Catalog.declared now) := by
  cases write
  case createUser | createGuild | createMember | createRole | createBan | createInvite |
      createChannel | createMessage | createAttachment | createDirect | incrementInviteUses |
      incrementMentions => exact repeatable.elim
  case updateUser => exact repeats_changeRows .users fun row _ => by rfl
  case updateGuild => exact repeats_changeRows .guilds fun row _ => by rfl
  case updateMember => exact repeats_changeRows .members fun row _ => by rfl
  case updateRole => exact repeats_changeRows .roles fun row _ => by rfl
  case updateChannel => exact repeats_changeRows .channels fun row _ => by rfl
  case updateMessage => exact repeats_changeRows .messages fun row _ => by rfl
  case deleteUser => exact repeats_deletePlain .users (by decide) (by decide)
  case deleteGuild => exact repeats_deletePlain .guilds (by decide) (by decide)
  case deleteMember => exact repeats_deletePlain .members (by decide) (by decide)
  case deleteRole => exact repeats_deletePlain .roles (by decide) (by decide)
  case deleteBan => exact repeats_deletePlain .bans (by decide) (by decide)
  case deleteInvite => exact repeats_deletePlain .invites (by decide) (by decide)
  case deleteOverride => exact repeats_deletePlain .channelOverrides (by decide) (by decide)
  case deleteMessage => exact repeats_deletePlain .messages (by decide) (by decide)
  case deleteAttachment | deleteAttachmentsOf =>
    exact repeats_deletePlain .attachments (by decide) (by decide)
  case deleteVoiceState => exact repeats_deletePlain .voiceStates (by decide) (by decide)
  case removeMemberRole => exact repeats_deletePlain .memberRoles (by decide) (by decide)
  case removeReaction => exact repeats_deletePlain .reactions (by decide) (by decide)
  case deleteChannel id =>
    exact repeats_deleteNamed .channels [.int id] fun row => by simp [Table.identity]
  case deleteDirect id =>
    exact repeats_deleteNamed .directChannels [.int id] fun row => by simp [Table.identity]
  case addMemberRole | addReaction | addRecipient => exact repeats_ensureRow
  case removeRecipient channelId userId => exact repeats_removeRecipient channelId userId
  case setOverride =>
    exact repeats_putRow .channelOverrides (by rfl) (fun _ _ => by rfl) fun _ _ => by rfl
  case upsertReadState =>
    exact repeats_putRow .readStates (by rfl) (fun _ same => by exact same) fun _ _ => by rfl
  case upsertVoiceState =>
    exact repeats_putRow .voiceStates (by rfl) (fun _ same => by exact same) fun _ _ => by rfl

end Guildhall
