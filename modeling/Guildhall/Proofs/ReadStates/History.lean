import Guildhall.Proofs.ReadStates.Change
import Guildhall.Proofs.Store.Question

/-!
A read state is what its history says: it is there if it was read after the user was last deleted,
it shows the last reading, and it counts the mentions since then.
-/

namespace Guildhall

open Calendar

namespace ReadStates

structure Read (run : Run) (userId channelId lastMessageId : Int) (before : Run) (reading : Event)
    (after : Run) : Prop where
  split : run = before ++ reading :: after
  read : reading.Does (.upsertReadState userId channelId lastMessageId) (before.after .empty)
  spared : ¬after.Sees (Run.after (before ++ [reading]) .empty) fun event db =>
    event.Does (.deleteUser userId) db

/-- The run has read the channel for the last time, and the user was not deleted since. -/
structure LastRead (run : Run) (userId channelId lastMessageId : Int) (before : Run)
    (reading : Event) (after : Run) : Prop
    extends Read run userId channelId lastMessageId before reading after where
  last : ¬after.Sees (Run.after (before ++ [reading]) .empty) fun event db =>
    ∃ later, event.Does (.upsertReadState userId channelId later) db

section Steps

variable {userId channelId : Int} {start : Database} {run : Run}

/-- A read state stays until its user is deleted. -/
theorem stored_persists (reachable : Reachable start) (present : stored start userId channelId ≠ [])
    (spared : ¬run.Sees start fun event db => event.Does (.deleteUser userId) db) :
    stored (run.after start) userId channelId ≠ [] := by
  induction run using List.reverseRecOn with
  | nil => exact present
  | append_singleton past event ih =>
      rw [sees_snoc, not_or] at spared
      have before := ih spared.1
      rw [after_snoc]
      cases change_event userId channelId event (reachable_later reachable ⟨past, rfl⟩) with
      | read does rows => simp [rows]
      | deleted does rows => exact absurd does spared.2
      | mentioned calls rows => simpa [rows] using before
      | other unread undeleted silent rows => rwa [rows]

theorem stored_mentions (reachable : Reachable start) {row : ReadStateRow}
    (present : stored start userId channelId = [row])
    (spared : ¬run.Sees start fun event db => event.Does (.deleteUser userId) db)
    (last : ¬run.Sees start fun event db =>
      ∃ later, event.Does (.upsertReadState userId channelId later) db) :
    stored (run.after start) userId channelId =
      [(run.filter (mentions userId channelId)).foldl (fun row event => mentioned event.now row)
        row] := by
  induction run using List.reverseRecOn with
  | nil => exact present
  | append_singleton past event ih =>
      rw [sees_snoc, not_or] at spared last
      have before := ih spared.1 last.1
      rw [after_snoc]
      cases change_event userId channelId event (reachable_later reachable ⟨past, rfl⟩) with
      | read does rows => exact absurd ⟨_, does⟩ last.2
      | deleted does rows => exact absurd does spared.2
      | mentioned calls rows => simp [rows, before, calls]
      | other unread undeleted silent rows => simp [rows, before, silent]

/-- Where there is a read state there is a reading that it comes from. -/
theorem last_read (present : stored (run.after .empty) userId channelId ≠ []) :
    ∃ lastMessageId before reading after,
      LastRead run userId channelId lastMessageId before reading after := by
  induction run using List.reverseRecOn with
  | nil => exact absurd rfl present
  | append_singleton past event ih =>
      rw [after_snoc] at present
      let db := Run.after past .empty
      -- An event that neither reads nor deletes leaves the last reading where it is in the run.
      have continues : stored db userId channelId ≠ [] → ¬event.Does (.deleteUser userId) db →
          (∀ later, ¬event.Does (.upsertReadState userId channelId later) db) →
          ∃ lastMessageId before reading after,
            LastRead (past ++ [event]) userId channelId lastMessageId before reading after := by
        intro before undeleted unread
        obtain ⟨lastMessageId, early, reading, late, ⟨rfl, read, spared⟩, last⟩ := ih before
        have reached : db = late.after (Run.after (early ++ [reading]) .empty) := by simp [db]
        rw [reached] at undeleted unread
        refine ⟨lastMessageId, early, reading, late ++ [event], ⟨by simp, read, ?_⟩, ?_⟩
        · exact sees_snoc.not.mpr (not_or.mpr ⟨spared, undeleted⟩)
        · exact sees_snoc.not.mpr (not_or.mpr ⟨last, not_exists.mpr unread⟩)
      cases change_event userId channelId event (reachable_after past) with
      | read does rows => exact ⟨_, past, event, [], ⟨rfl, does, sees_nil⟩, sees_nil⟩
      | deleted does rows => exact absurd rows present
      | mentioned calls rows =>
          have called := mentions_iff.mp calls
          refine continues (fun empty => present ?_) (fun deletes => ?_) fun later reads => ?_
          · rw [rows, empty]
            rfl
          · cases does_only called deletes
          · cases does_only called reads
      | other unread undeleted silent rows => exact continues (rows ▸ present) undeleted unread

theorem after_reading {lastMessageId : Int} {before after : Run} {reading : Event}
    (read : Read run userId channelId lastMessageId before reading after) :
    run.after .empty = after.after (Run.after (before ++ [reading]) .empty) ∧
      stored (Run.after (before ++ [reading]) .empty) userId channelId =
        [⟨userId, channelId, lastMessageId, 0, reading.now.wall⟩] := by
  obtain ⟨rfl, does, -⟩ := read
  refine ⟨by simp, ?_⟩
  rw [after_snoc]
  exact stored_read (reachable_after before) does

end Steps

theorem foldl_mentioned (calls : Run) (reading : Event) (userId channelId lastMessageId : Int) :
    calls.foldl (fun row event => mentioned event.now row)
        ⟨userId, channelId, lastMessageId, 0, reading.now.wall⟩ =
      ⟨userId, channelId, lastMessageId, min calls.length wordBound,
        (calls.getLastD reading).now.wall⟩ := by
  induction calls using List.reverseRecOn with
  | nil => rfl
  | append_singleton calls call ih =>
      rw [List.foldl_append, ih]
      have raised : bumped (min calls.length wordBound) =
          min ((calls.length : Int) + 1) wordBound := by
        unfold bumped
        split <;> omega
      simp [mentioned, raised]

theorem fits_of_stored {db : Database} {userId channelId : Int} (reachable : Reachable db)
    (present : stored db userId channelId ≠ []) : [userId, channelId].all fitsWord = true := by
  by_contra large
  exact present (stored_of_large (reachable_fits reachable) (Bool.eq_false_iff.mpr large))

theorem state_of_fits (row : ReadStateRow) (fits : fitsWord row.mentionCount = true) :
    row.state = .ok ⟨row.userId, row.channelId, row.lastMessageId, row.mentionCount,
      row.updatedAt.naive⟩ := by
  rw [ReadStateRow.state, storedCount, if_pos fits]
  rfl

theorem query_readState (db : Database) {userId channelId : Int}
    (fits : [userId, channelId].all fitsWord = true) :
    (Question.readState userId channelId).query db =
      ((stored db userId channelId).head?.mapM ReadStateRow.state).map fun found =>
        .entity (found.map .readState) := by
  change (find userId channelId db).map _ = _
  rw [find, askRead_fits fits, stored, List.head?_filter]

/-- A read state is there exactly if the channel was read after the user was last deleted. It shows
the last reading, the number of mentions since, and the time of the last of these calls. Calls about
others do nothing to it. -/
theorem readState_exact (run : Run) (userId channelId : Int) :
    let db := run.after .empty
    let rows := stored db userId channelId
    let ask := fun now =>
      Command.run Catalog.declared now (.question (.readState userId channelId)) db
    (rows ≠ [] ↔ ∃ lastMessageId before reading after,
      Read run userId channelId lastMessageId before reading after) ∧
    (rows ≠ [] ↔ ∃ lastMessageId before reading after,
      LastRead run userId channelId lastMessageId before reading after) ∧
    (∀ lastMessageId before reading after,
      LastRead run userId channelId lastMessageId before reading after →
        let calls := after.filter (mentions userId channelId)
        let time := (calls.getLastD reading).now.wall
        rows = [⟨userId, channelId, lastMessageId, min calls.length wordBound, time⟩] ∧
        ((calls.length : Int) < wordBound → ∀ now, ask now = (.ok (.entity (some (.readState
          ⟨userId, channelId, lastMessageId, calls.length, time.naive⟩))), db))) ∧
    (rows = [] → [userId, channelId].all fitsWord = true →
      ∀ now, ask now = (.ok (.entity none), db)) ∧
    ∀ event : Event,
      (∀ lastMessageId,
        event.action ≠ .call (.write (.upsertReadState userId channelId lastMessageId))) →
      event.action ≠ .call (.write (.incrementMentions userId channelId)) →
      event.action ≠ .call (.write (.deleteUser userId)) →
        stored (event.apply db) userId channelId = rows := by
  intro db rows ask
  have reachable : Reachable db := reachable_after run
  have asked : [userId, channelId].all fitsWord = true → ∀ now, ask now =
      ((rows.head?.mapM ReadStateRow.state).map fun found => .entity (found.map .readState), db) :=
    fun fits now => Prod.ext (query_readState db fits) rfl
  have exact : ∀ lastMessageId before reading after,
      LastRead run userId channelId lastMessageId before reading after → rows =
        [⟨userId, channelId, lastMessageId,
          min (after.filter (mentions userId channelId)).length wordBound,
          ((after.filter (mentions userId channelId)).getLastD reading).now.wall⟩] := by
    intro lastMessageId before reading after last
    obtain ⟨reached, started⟩ := after_reading last.toRead
    have counted := stored_mentions (reachable_after _) started last.spared last.last
    rwa [← reached, foldl_mentioned] at counted
  refine ⟨⟨fun present => ?_, ?_⟩, ⟨last_read, ?_⟩, ?_, ?_, ?_⟩
  · obtain ⟨lastMessageId, before, reading, after, last⟩ := last_read present
    exact ⟨lastMessageId, before, reading, after, last.toRead⟩
  · rintro ⟨lastMessageId, before, reading, after, read⟩
    obtain ⟨reached, started⟩ := after_reading read
    have persists := stored_persists (reachable_after (before ++ [reading]))
      (started ▸ List.cons_ne_nil _ _) read.spared
    rwa [← reached] at persists
  · rintro ⟨lastMessageId, before, reading, after, last⟩
    simp [exact _ _ _ _ last]
  · intro lastMessageId before reading after last calls time
    have here := exact lastMessageId before reading after last
    refine ⟨here, fun few now => ?_⟩
    have count : fitsWord calls.length = true := by
      have positive := wordBound_pos
      exact fitsWord_iff.mpr ⟨by omega, few⟩
    have present : rows ≠ [] := here ▸ List.cons_ne_nil _ _
    have row : rows = [⟨userId, channelId, lastMessageId, calls.length, time⟩] := by
      rw [here, Int.min_eq_left (Int.le_of_lt few)]
    rw [asked (fits_of_stored reachable present), row, List.head?_cons, Option.mapM_some,
      state_of_fits ⟨userId, channelId, lastMessageId, calls.length, time⟩ count]
    rfl
  · intro empty fits now
    rw [asked fits, empty]
    rfl
  · intro event unread silent undeleted
    cases change_event userId channelId event reachable with
    | read does => exact absurd does.1 (unread _)
    | deleted does => exact absurd does.1 undeleted
    | mentioned calls => exact absurd (mentions_iff.mp calls) silent
    | other _ _ _ same => exact same

def attentive : Run :=
  [Write.event noon (.createUser ⟨1, "ada", "Ada", none, "", noon⟩),
    Write.event noon (.upsertReadState 1 7 5),
    Write.event noon (.incrementMentions 1 7)] ++
  Write.event noon (.upsertReadState 1 7 9) ::
  [Write.event noon (.incrementMentions 1 7),
    Write.event noon (.incrementMentions 2 7),
    Write.event ⟨⟨2026, 3, 1, 13, 0, 0, 0⟩, some 0⟩ (.incrementMentions 1 7)]

theorem attentive_reads :
    Command.run Catalog.declared noon (.question (.readState 1 7)) (attentive.after .empty) =
      (.ok (.entity (some (.readState ⟨1, 7, 9, 2, ⟨⟨2026, 3, 1, 13, 0, 0, 0⟩, none⟩⟩))),
        attentive.after .empty) := by
  have silent : ∀ {condition : Event → Database → Prop} {db : Database},
      (∀ now user db, ¬condition (Write.event now (.incrementMentions user 7)) db) →
        ¬Run.Sees [Write.event noon (.incrementMentions 1 7),
          Write.event noon (.incrementMentions 2 7),
          Write.event ⟨⟨2026, 3, 1, 13, 0, 0, 0⟩, some 0⟩ (.incrementMentions 1 7)] db
          condition := by
    rintro condition db never ⟨before, event, after, split, holds⟩
    have among : event ∈ before ++ event :: after := by simp
    rw [← split] at among
    simp only [List.mem_cons, List.not_mem_nil, or_false] at among
    rcases among with rfl | rfl | rfl <;> exact never _ _ _ holds
  refine ((readState_exact attentive 1 7).2.2.1 9 _ _ _ ⟨⟨rfl, ?_, ?_⟩, ?_⟩).2 ?_ noon
  · exact Event.does_iff.mpr ⟨rfl, by decide +kernel⟩
  · exact silent fun now user db deletes => by cases deletes.1
  · exact silent fun now user db ⟨later, reads⟩ => by cases reads.1
  · decide

end ReadStates

end Guildhall
