import Guildhall.Proofs.Store.Run

/-!
Rows that can be read back as entities. The kinds of channels are known wherever callers hand over
known kinds, and a counter leaves the words of the storage only by being raised from the last of
them.
-/

namespace Guildhall

open Calendar

def Database.Each (P : (table : Table) → table.Row → Prop) (db : Database) : Prop :=
  ∀ table, ∀ row ∈ db.rows table, P table row

def Keeps (P : (table : Table) → table.Row → Prop) (statement : Statement) : Prop :=
  ∀ {db left : Database}, db.Each P → statement db = .ok left → left.Each P

section Statements

variable {P : (table : Table) → table.Row → Prop} {table : Table}

theorem keeps_insertRow {row : table.Row}
    (fine : (table.cells row).integers.all fitsWord = true → P table row) :
    Keeps P (insertRow Catalog.declared table row) := by
  intro db left before done other
  obtain ⟨words, rfl, -⟩ := insertRow_ok.mp done
  refine rows_put db _ other _ (fun other new => ∀ row ∈ new, P other row) ?_
    fun other _ => before other
  intro new member
  rcases List.mem_append.mp member with old | last
  · exact before _ new old
  · obtain rfl := List.mem_singleton.mp last
    exact fine words

theorem keeps_changeRows {integers : List Int} {chosen : table.Row → Bool}
    {change : table.Row → table.Row} (fine : ∀ old, P table old → P table (change old)) :
    Keeps P (changeRows Catalog.declared table integers chosen change) := by
  intro db left before done other
  obtain ⟨-, rfl, -⟩ := changeRows_ok.mp done
  refine rows_put db _ other _ (fun other new => ∀ row ∈ new, P other row) ?_
    fun other _ => before other
  intro row member
  obtain ⟨old, stored, rfl⟩ := List.mem_map.mp member
  split
  · exact fine old (before _ old stored)
  · exact before _ old stored

theorem keeps_putRow {row : table.Row} {change : table.Row → table.Row}
    (inserts : (table.cells row).integers.all fitsWord = true → P table row)
    (changes : ∀ old, P table old → P table (change old)) :
    Keeps P (putRow Catalog.declared table row change) := by
  intro db left before done
  rcases putRow_ok done with inserted | changed
  · exact keeps_insertRow inserts before inserted
  · exact keeps_changeRows changes before changed

theorem keeps_ensureRow {row : table.Row}
    (fine : (table.cells row).integers.all fitsWord = true → P table row) :
    Keeps P (ensureRow Catalog.declared table row) := by
  intro db left before done
  rcases ensureRow_ok done with inserted | ⟨-, rfl⟩
  · exact keeps_insertRow fine before inserted
  · exact before

theorem keeps_deleteRows {integers : List Int} {chosen : table.Row → Bool}
    (clears : ∀ (other : Table) (columns : List String) (row : other.Row), P other row →
      P other (other.clear columns row)) :
    Keeps P (deleteRows Catalog.declared table integers chosen) := by
  intro db left before done other row member
  obtain ⟨old, stored, rfl⟩ := deleteRows_left done other row member
  rw [Deletion.cleared_eq]
  refine List.foldlRecOn _ _ (before other old stored) ?_
  intro row kept reference _
  unfold Deletion.clearing
  split
  · exact clears other _ row kept
  · exact kept

theorem keeps_inOrder {statements : List Statement}
    (each : ∀ statement ∈ statements, Keeps P statement) : Keeps P (inOrder statements) := by
  intro db left before done
  induction statements generalizing db with
  | nil =>
      cases done
      exact before
  | cons statement rest ih =>
      obtain ⟨middle, first, later⟩ := inOrder_cons.mp done
      have kept : middle.Each P := each statement List.mem_cons_self before first
      exact ih (fun other member => each other (List.mem_cons_of_mem _ member)) kept later

end Statements

def Counts (n : Int) : Prop := -wordBound ≤ n ∧ n ≤ wordBound

theorem counts_of_fits {n : Int} (fits : fitsWord n = true) : Counts n := by
  simp only [fitsWord, decide_eq_true_eq, Bool.and_eq_true] at fits
  exact ⟨fits.1, Int.le_of_lt fits.2⟩

theorem counts_bumped {n : Int} (counts : Counts n) : Counts (bumped n) := by
  unfold bumped
  split
  · exact ⟨by have := counts.1; omega, by omega⟩
  · exact counts

theorem worn_iff {n : Int} (counts : Counts n) : fitsWord n = false ↔ n = wordBound := by
  have within := counts.1
  have bound := counts.2
  simp only [fitsWord, Bool.and_eq_false_iff, decide_eq_false_iff_not]
  omega

namespace Table

/-- The row can be read back, but for a counter that has been raised too far. -/
def Readable : (table : Table) → table.Row → Prop
  | .channels, row => ∃ kind, ChannelKind.ofCode? row.kind = some kind
  | .directChannels, row => ∃ kind, DirectKind.ofCode? row.kind = some kind
  | .invites, row => Counts row.uses
  | .readStates, row => Counts row.mentionCount
  | _, _ => True

theorem readable_clear (table : Table) (columns : List String) (row : table.Row)
    (readable : table.Readable row) : table.Readable (table.clear columns row) := by
  cases table
  case channels =>
    unfold clear
    dsimp only
    split <;> exact readable
  case directChannels =>
    unfold clear
    dsimp only
    split <;> exact readable
  all_goals exact readable

end Table

theorem Invites.fits_uses {invite : Invite}
    (fits : (Table.cells .invites invite.row).integers.all fitsWord = true) :
    fitsWord invite.uses = true := by
  have named : ("uses", Cell.int invite.uses) ∈ Table.cells .invites invite.row := by
    simp [Table.cells, InviteRow.cells, Invite.row]
  exact List.all_eq_true.mp fits invite.uses (List.mem_filterMap.mpr ⟨_, named, rfl⟩)

theorem ChannelKind.ofCode_code (kind : ChannelKind) : ofCode? kind.code = some kind := by
  cases kind <;> rfl

def Write.Typed : Write → Prop
  | .createDirect _ _ kind _ _ => ∃ known, DirectKind.ofCode? kind = some known
  | _ => True

def Event.Typed (event : Event) : Prop := ∀ write, event.write? = some write → write.Typed

def Run.Typed (run : Run) : Prop := ∀ event ∈ run, Event.Typed event

namespace Directs

theorem keeps_create {draft : Draft} (known : ∃ kind, DirectKind.ofCode? draft.kind = some kind) :
    Keeps Table.Readable (create Catalog.declared draft) := by
  intro db left before done
  unfold create at done
  split at done
  · refine keeps_inOrder ?_ before done
    intro statement member
    rcases List.mem_cons.mp member with rfl | member
    · exact keeps_insertRow fun _ => known
    · obtain ⟨userId, -, rfl⟩ := List.mem_map.mp member
      exact keeps_insertRow fun _ => trivial
  · cases done

theorem keeps_removeRecipient (channelId userId : Int) :
    Keeps Table.Readable (removeRecipient Catalog.declared channelId userId) := by
  intro db left before done
  unfold removeRecipient at done
  split at done
  · obtain ⟨middle, removed, rest⟩ := inOrder_cons.mp done
    obtain ⟨changed, released, rest⟩ := inOrder_cons.mp rest
    cases rest
    have kept : middle.Each Table.Readable :=
      keeps_deleteRows Table.readable_clear before removed
    have same : ∀ row : DirectChannelRow, Table.Readable .directChannels row →
        Table.Readable .directChannels { row with pairKey := none } := fun _ readable => readable
    exact keeps_changeRows same kept released
  · exact keeps_deleteRows Table.readable_clear before done

end Directs

theorem Write.keeps_readable {write : Write} (typed : write.Typed) (now : DateTime) :
    Keeps Table.Readable (write.statement Catalog.declared now) := by
  cases write with
  | createInvite invite =>
      exact keeps_insertRow fun fits => counts_of_fits (Invites.fits_uses fits)
  | incrementInviteUses => exact keeps_changeRows fun _ counts => counts_bumped counts
  | incrementMentions => exact keeps_changeRows fun _ counts => counts_bumped counts
  | upsertReadState =>
      have zero : Counts 0 := counts_of_fits rfl
      exact @keeps_putRow Table.Readable .readStates _ _ (fun _ => zero) fun _ _ => zero
  | createChannel channel => exact keeps_insertRow fun _ => ⟨_, channel.kind.ofCode_code⟩
  | updateChannel channel => exact keeps_changeRows fun _ _ => ⟨_, channel.kind.ofCode_code⟩
  | createDirect id recipients kind ownerId createdAt =>
      exact @Directs.keeps_create ⟨id, recipients, kind, ownerId, createdAt.getD now⟩ typed
  | removeRecipient channelId userId => exact Directs.keeps_removeRecipient channelId userId
  | createUser | createGuild | createMember | createRole | createBan | createMessage
  | createAttachment => exact keeps_insertRow fun _ => trivial
  | updateUser | updateGuild | updateMember | updateRole | updateMessage =>
      exact keeps_changeRows fun _ _ => trivial
  | addMemberRole | addReaction | addRecipient => exact keeps_ensureRow fun _ => trivial
  | setOverride | upsertVoiceState => exact keeps_putRow (fun _ => trivial) fun _ _ => trivial
  | deleteUser | deleteGuild | deleteMember | removeMemberRole | deleteRole | deleteBan
  | deleteInvite | deleteChannel | deleteOverride | deleteMessage | deleteAttachment
  | deleteAttachmentsOf | removeReaction | deleteDirect | deleteVoiceState =>
      exact keeps_deleteRows Table.readable_clear

theorem readable_event {event : Event} {db : Database} (typed : event.Typed)
    (readable : db.Each Table.Readable) : (event.apply db).Each Table.Readable := by
  rcases event_tables event db with same | ⟨write, named, done⟩
  · rwa [same]
  · exact Write.keeps_readable (typed write named) event.now readable done

theorem readable_after {run : Run} (typed : run.Typed) :
    (Run.after run .empty).Each Table.Readable := by
  refine List.foldlRecOn run _ (motive := fun db => Database.Each Table.Readable db) ?_ ?_
  · intro table row member
    cases table <;> cases member
  · intro db readable event member
    exact readable_event (typed event member) readable

end Guildhall
