import Guildhall.Proofs.Store.Keyed

/-!
What one event does to the read state of a user in a channel: a call that reads on writes it anew,
one that counts a mention raises its counter, the deletion of the user takes it along, and nothing
else touches it.
-/

namespace Guildhall

open Calendar

namespace ReadStates

def mentions (userId channelId : Int) (event : Event) : Bool :=
  match event.action with
  | .call (.write (.incrementMentions user channel)) => user = userId && channel = channelId
  | _ => false

def mentioned (now : DateTime) (row : ReadStateRow) : ReadStateRow :=
  { row with mentionCount := bumped row.mentionCount, updatedAt := now.wall }

def stored (db : Database) (userId channelId : Int) : List ReadStateRow :=
  db.readStates.filter (isOf userId channelId)

inductive Change (userId channelId : Int) (event : Event) (db : Database) : Prop where
  | read {lastMessageId : Int}
      (does : event.Does (.upsertReadState userId channelId lastMessageId) db)
      (rows : stored (event.apply db) userId channelId =
        [⟨userId, channelId, lastMessageId, 0, event.now.wall⟩])
  | deleted (does : event.Does (.deleteUser userId) db)
      (rows : stored (event.apply db) userId channelId = [])
  | mentioned (calls : mentions userId channelId event = true)
      (rows : stored (event.apply db) userId channelId =
        (stored db userId channelId).map (mentioned event.now))
  | other (unread : ∀ lastMessageId,
        ¬event.Does (.upsertReadState userId channelId lastMessageId) db)
      (undeleted : ¬event.Does (.deleteUser userId) db)
      (silent : mentions userId channelId event = false)
      (rows : stored (event.apply db) userId channelId = stored db userId channelId)

section Rows

variable {userId channelId : Int} {db left : Database}

theorem isOf_iff {row : ReadStateRow} :
    isOf userId channelId row = true ↔ row.userId = userId ∧ row.channelId = channelId := by
  simp [isOf]

theorem isOf_identity {row : ReadStateRow} : isOf userId channelId row = true ↔
    Table.identity .readStates row = [.int userId, .int channelId] := by
  simp [isOf, Table.identity]

theorem stored_of_large (fits : db.Fits) (large : [userId, channelId].all fitsWord = false) :
    stored db userId channelId = [] := by
  refine List.filter_eq_nil_iff.mpr fun row member picked => ?_
  have words : ∀ n, Cell.int n ∈ [Cell.int userId, Cell.int channelId] → fitsWord n = true :=
    isOf_identity.mp picked ▸ fits .readStates row member
  simp [words userId (by simp), words channelId (by simp)] at large

theorem plain_readStates : Catalog.declared.Plain .readStates := ⟨rfl, by decide⟩

theorem aloof_readStates : Table.Aloof .readStates := ⟨by decide, by decide, by decide⟩

theorem about_readStates {write : Write} (about : write.table = .readStates) :
    (∃ userId channelId lastMessageId, write = .upsertReadState userId channelId lastMessageId) ∨
      ∃ userId channelId, write = .incrementMentions userId channelId := by
  cases write <;> simp_all [Write.table]

end Rows

section Writes

variable {userId channelId : Int} {now : DateTime} {db left : Database}

theorem stored_read {event : Event} {lastMessageId : Int} (reachable : Reachable db)
    (does : event.Does (.upsertReadState userId channelId lastMessageId) db) :
    stored (event.apply db) userId channelId =
      [⟨userId, channelId, lastMessageId, 0, event.now.wall⟩] := by
  have rows := keyed_putRow (fun row => isOf_identity) (reachable_sound reachable)
    (Event.does_iff.mp does).2 rfl fun _ same => same
  refine rows.trans ?_
  cases ((db.rows .readStates).filter (isOf userId channelId)).head? <;> rfl

theorem stored_deleteUser {event : Event} (consistent : db.Consistent)
    (does : event.Does (.deleteUser userId) db) :
    stored (event.apply db) userId channelId = [] := by
  classical
  have left := @rows_removal .readStates aloof_readStates event (.user userId) db does
  rw [stored, show (event.apply db).readStates = _ from left, List.filter_comm]
  refine List.filter_eq_nil_iff.mpr fun row member => ?_
  obtain ⟨present, picked⟩ := List.mem_filter.mp member
  obtain ⟨rfl, -⟩ := isOf_iff.mp picked
  have stored : row ∈ db.readStates := present
  simp [Removal.takes_readState consistent, stored]

theorem stored_incrementMentions
    (done : incrementMentions Catalog.declared now userId channelId db = .ok left) :
    stored left userId channelId = (stored db userId channelId).map (mentioned now) := by
  obtain ⟨-, rfl, -⟩ := changeRows_ok.mp done
  exact @filter_changedRows_self .readStates _ _ db fun _ picked => picked

theorem stored_incrementOther {user channel : Int} (apart : ¬(user = userId ∧ channel = channelId))
    (done : incrementMentions Catalog.declared now user channel db = .ok left) :
    stored left userId channelId = stored db userId channelId := by
  obtain ⟨-, rfl, -⟩ := changeRows_ok.mp done
  have missed : ∀ row, isOf user channel row = true → isOf userId channelId row = false := by
    intro row picked
    obtain ⟨rfl, rfl⟩ := isOf_iff.mp picked
    simpa [isOf] using apart
  exact @filter_changedRows_other .readStates _ _ _ db missed fun row picked => missed row picked

/-- A mention fails to be counted only where nothing is read that it could be counted for. -/
theorem stored_of_failed {failure : Failure} (sound : db.Sound Catalog.declared) (words : db.Fits)
    (failed : incrementMentions Catalog.declared now userId channelId db = .error failure) :
    stored db userId channelId = [] := by
  cases fits : [userId, channelId].all fitsWord with
  | false => exact stored_of_large words fits
  | true =>
      have keys : ∀ row : ReadStateRow, ∀ reference ∈ (Catalog.declared .readStates).references,
          Table.key? .readStates reference.columns (mentioned now row) =
            Table.key? .readStates reference.columns row := by
        intro row reference declared
        obtain rfl := List.mem_singleton.mp declared
        rfl
      obtain ⟨left, done⟩ : ∃ left, incrementMentions Catalog.declared now userId channelId db =
          .ok left := keyed_changes (fun row => isOf_identity) plain_readStates sound fits
        (fun _ => rfl) keys
      cases failed.symm.trans done

end Writes

section Events

variable {userId channelId : Int} {event : Event} {db : Database}

theorem mentions_iff : mentions userId channelId event = true ↔
    event.action = .call (.write (.incrementMentions userId channelId)) := by
  unfold mentions
  split
  · rename_i called
    simp [called]
  · rename_i other
    simpa using other userId channelId

theorem stored_mentioned (reachable : Reachable db)
    (calls : mentions userId channelId event = true) :
    stored (event.apply db) userId channelId =
      (stored db userId channelId).map (mentioned event.now) := by
  rcases apply_called (mentions_iff.mp calls) db with does | ⟨⟨failure, failed⟩, same, -⟩
  · exact stored_incrementMentions (Event.does_iff.mp does).2
  · rw [same, stored_of_failed (reachable_sound reachable) (reachable_fits reachable) failed]
    rfl

theorem stored_other (consistent : db.Consistent)
    (unread : ∀ lastMessageId,
      ¬event.Does (.upsertReadState userId channelId lastMessageId) db)
    (undeleted : ¬event.Does (.deleteUser userId) db)
    (silent : mentions userId channelId event = false) :
    stored (event.apply db) userId channelId = stored db userId channelId := by
  cases touched_event aloof_readStates event db with
  | untouched same => exact congrArg (List.filter _) same
  | removed does apart =>
      refine keyed_spared aloof_readStates does fun row present takes => undeleted ?_
      obtain ⟨member, picked⟩ := List.mem_filter.mp present
      obtain ⟨rfl, -⟩ := isOf_iff.mp picked
      exact (takesReadState_iff consistent member).mp takes
  | called does about =>
      have done := (Event.does_iff.mp does).2
      rcases about_readStates about with ⟨user, channel, message, rfl⟩ | ⟨user, channel, rfl⟩
      · refine keyed_putOther (fun row => isOf_identity) done (fun same => ?_) fun _ same => same
        simp only [Table.identity, List.cons.injEq, Cell.int.injEq, and_true] at same
        obtain ⟨rfl, rfl⟩ := same
        exact unread message does
      · refine stored_incrementOther (fun key => ?_) done
        obtain ⟨rfl, rfl⟩ := key
        rw [mentions_iff.mpr does.1] at silent
        cases silent

theorem change_event (userId channelId : Int) (event : Event) (reachable : Reachable db) :
    Change userId channelId event db := by
  have consistent := consistent_of_sound (reachable_sound reachable)
  by_cases calls : mentions userId channelId event = true
  · exact .mentioned calls (stored_mentioned reachable calls)
  by_cases reads : ∃ lastMessageId, event.Does (.upsertReadState userId channelId lastMessageId) db
  · obtain ⟨lastMessageId, does⟩ := reads
    exact .read does (stored_read reachable does)
  by_cases deletes : event.Does (.deleteUser userId) db
  · exact .deleted deletes (stored_deleteUser consistent deletes)
  · have silent := Bool.eq_false_iff.mpr calls
    have unread := not_exists.mp reads
    exact .other unread deletes silent (stored_other consistent unread deletes silent)

end Events

end ReadStates

end Guildhall
