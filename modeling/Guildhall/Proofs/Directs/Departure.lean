import Guildhall.Proofs.Directs.Pairs
import Guildhall.Proofs.Store.Removal

/-!
How a user ceases to be a recipient: his account is deleted, the channel is, or he is removed from
it. Only in the last case a channel between two users gives up its name.
-/

namespace Guildhall.Directs

section Statements

variable {table : Table} {db left : Database}

theorem recipients_insert {row : table.Row}
    (done : insertRow Catalog.declared table row db = .ok left) :
    db.recipients ⊆ left.recipients := by
  obtain ⟨-, rfl, -⟩ := insertRow_ok.mp done
  exact rows_put db table .recipients _ (fun other new => db.rows other ⊆ new)
    (List.subset_append_left _ _) fun other _ => List.Subset.refl _

theorem recipients_change {integers : List Int} {chosen : table.Row → Bool}
    {change : table.Row → table.Row} (apart : .recipients ≠ table)
    (done : changeRows Catalog.declared table integers chosen change db = .ok left) :
    db.recipients ⊆ left.recipients := by
  obtain ⟨-, rfl, -⟩ := changeRows_ok.mp done
  have same : (db.put table (changedRows table chosen change db)).recipients = db.recipients :=
    Database.rows_put_of_ne db apart _
  exact fun row held => by rwa [same]

theorem recipients_ensure {row : table.Row}
    (done : ensureRow Catalog.declared table row db = .ok left) :
    db.recipients ⊆ left.recipients := by
  rcases ensureRow_ok done with inserted | ⟨-, rfl⟩
  · exact recipients_insert inserted
  · exact List.Subset.refl _

theorem recipients_put {row : table.Row} {change : table.Row → table.Row}
    (apart : .recipients ≠ table) (done : putRow Catalog.declared table row change db = .ok left) :
    db.recipients ⊆ left.recipients := by
  rcases putRow_ok done with inserted | changed
  · exact recipients_insert inserted
  · exact recipients_change apart changed

variable {integers : List Int} {chosen : table.Row → Bool} {row : RecipientRow}

theorem falls_of_lost (done : deleteRows Catalog.declared table integers chosen db = .ok left)
    (held : row ∈ db.recipients) (lost : row ∉ left.recipients) :
    Falls Catalog.declared db table chosen .recipients row := by
  classical
  have others := (cascaded_deleteRows done).others .recipients (by decide) (by decide)
  by_contra stands
  have stays : row ∈ left.rows .recipients := by
    rw [others]
    exact List.mem_filter.mpr ⟨held, by simpa using stands⟩
  exact lost stays

theorem falls_recipient (falls : Falls Catalog.declared db table chosen .recipients row) :
    table = .recipients ∨
      (∃ channel, Falls Catalog.declared db table chosen .directChannels channel ∧
        channel.id = row.channelId) ∨
      ∃ user, Falls Catalog.declared db table chosen .users user ∧ user.id = row.userId := by
  cases falls with
  | chosen => exact Or.inl rfl
  | dragged stored declared cascades names falls =>
      rcases List.mem_cons.mp declared with rfl | declared
      · have named : some row.channelId = some _ := (names_to rfl rfl).mp names
        exact Or.inr (Or.inl ⟨_, falls, (Option.some.inj named).symm⟩)
      · obtain rfl := List.mem_singleton.mp declared
        have named : some row.userId = some _ := (names_to rfl rfl).mp names
        exact Or.inr (Or.inr ⟨_, falls, (Option.some.inj named).symm⟩)

theorem recipients_delete (himself : table ≠ .recipients) (channels : table ≠ .directChannels)
    (users : table ≠ .users)
    (done : deleteRows Catalog.declared table integers chosen db = .ok left) :
    db.recipients ⊆ left.recipients := by
  intro row held
  by_contra lost
  rcases falls_recipient (falls_of_lost done held lost) with same | ⟨_, falls, -⟩ | ⟨_, falls, -⟩
  · exact himself same
  · exact channels (falls_root rootless_directChannels falls).symm
  · exact users (falls_root rootless_users falls).symm

end Statements

section Departures

variable {db left : Database} {row : RecipientRow}

theorem lost_with_user {id : Int}
    (done : deleteRows Catalog.declared .users [id] (fun user => user.id = id) db = .ok left)
    (held : row ∈ db.recipients) (lost : row ∉ left.recipients) : row.userId = id := by
  rcases falls_recipient (falls_of_lost done held lost) with
    same | ⟨_, falls, -⟩ | ⟨_, falls, named⟩
  · cases same
  · cases falls_root rootless_directChannels falls
  · have chosen := falls_chosen rootless_users falls
    exact named.symm.trans (by simpa using chosen)

theorem lost_with_channel {id : Int} (done : delete Catalog.declared id db = .ok left)
    (held : row ∈ db.recipients) (lost : row ∉ left.recipients) :
    ∀ channel ∈ left.directChannels, channel.id ≠ row.channelId := by
  have here : row.channelId = id := by
    rcases falls_recipient (falls_of_lost done held lost) with
      same | ⟨_, falls, named⟩ | ⟨_, falls, -⟩
    · cases same
    · have chosen := falls_chosen rootless_directChannels falls
      exact named.symm.trans (by simpa using chosen)
    · cases falls_root rootless_users falls
  intro channel present same
  obtain ⟨old, -, spared, rfl⟩ := deleteRows_spared done channel present
  obtain ⟨ownerId, kept⟩ := cleared_channel (Deletion.complete Catalog.declared .directChannels
    (fun row => row.id = id) db).gone old
  simp [kept, here] at same spared
  exact spared same

/-- Of the recipients only the one who is removed goes. -/
theorem lost_alone {integers : List Int} {channelId userId : Int}
    (done : deleteRows Catalog.declared .recipients integers (isRecipient channelId userId) db =
      .ok left) (held : row ∈ db.recipients) (lost : row ∉ left.recipients) :
    row = ⟨channelId, userId⟩ := by
  have falls := falls_of_lost done held lost
  cases falls with
  | chosen stored picked => exact isRecipient_iff.mp picked
  | dragged stored declared cascades names falls =>
      rcases List.mem_cons.mp declared with rfl | declared
      · cases falls_root rootless_directChannels falls
      · obtain rfl := List.mem_singleton.mp declared
        cases falls_root rootless_users falls

theorem lost_by_removal {channelId userId : Int}
    (done : removeRecipient Catalog.declared channelId userId db = .ok left)
    (held : row ∈ db.recipients) (lost : row ∉ left.recipients) :
    ∀ channel ∈ left.directChannels, channel.id = row.channelId →
      channel.kind = DirectKind.pair.code → channel.pairKey = none := by
  unfold removeRecipient at done
  split at done
  · obtain ⟨middle, removed, rest⟩ := inOrder_cons.mp done
    obtain ⟨changed, released, rest⟩ := inOrder_cons.mp rest
    cases rest
    obtain ⟨-, rfl, -⟩ := changeRows_ok.mp released
    obtain rfl := lost_alone removed held lost
    intro channel present
    obtain ⟨between, -, rfl⟩ := List.mem_map.mp present
    split
    · exact fun _ _ => rfl
    · rename_i other
      intro here pair
      exact absurd (by simp [here, pair]) other
  · rename_i absent
    obtain rfl := lost_alone done held lost
    exact absurd (List.any_eq_true.mpr ⟨_, held, isRecipient_iff.mpr rfl⟩) absent

end Departures

/-- How a user has left a channel. -/
inductive Leaves (event : Event) (db : Database) (channelId userId : Int) : Prop where
  /-- The channel stays as it is, name and all. -/
  | account (write : event.write? = some (.deleteUser userId))
  | channel (gone : ∀ row ∈ (event.apply db).directChannels, row.id ≠ channelId)
  | removal (nameless : ∀ row ∈ (event.apply db).directChannels, row.id = channelId →
      row.kind = DirectKind.pair.code → row.pairKey = none)

theorem leaves_of_lost {event : Event} {db : Database} {channelId userId : Int}
    (held : Holds db channelId userId) (lost : ¬Holds (event.apply db) channelId userId) :
    Leaves event db channelId userId := by
  have stays : ¬db.recipients ⊆ (event.apply db).recipients := fun kept => lost (kept held)
  rcases event_tables event db with same | ⟨write, named, done⟩
  · rw [same] at lost
    exact absurd held lost
  · cases write
    case deleteUser id =>
      obtain rfl : userId = id := lost_with_user done held lost
      exact .account named
    case deleteDirect id => exact .channel (lost_with_channel done held lost)
    case removeRecipient => exact .removal (lost_by_removal done held lost)
    case createDirect =>
      obtain ⟨key, created⟩ := create_ok done
      exact absurd created.grown.recipients stays
    case createUser | createGuild | createMember | createRole | createBan | createInvite |
        createChannel | createMessage | createAttachment =>
      exact absurd (recipients_insert done) stays
    case addMemberRole | addReaction | addRecipient => exact absurd (recipients_ensure done) stays
    case setOverride | upsertReadState | upsertVoiceState =>
      exact absurd (recipients_put (by decide) done) stays
    case updateUser | updateGuild | updateMember | updateRole | incrementInviteUses |
        updateChannel | updateMessage | incrementMentions =>
      exact absurd (recipients_change (by decide) done) stays
    all_goals exact absurd (recipients_delete (by decide) (by decide) (by decide) done) stays

end Guildhall.Directs
