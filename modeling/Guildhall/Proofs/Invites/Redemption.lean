import Guildhall.Proofs.Store.Entry
import Guildhall.Proofs.Store.Keyed
import Guildhall.Proofs.Store.Retrieval

/-!
An invitation counts all of its uses: those it was created with and one for each call since, by
whomever it was made. Nothing else about it changes, so one that is used up or has expired stays so.
-/

namespace Guildhall

namespace Invites

open Calendar

def stored (db : Database) (code : String) : List InviteRow :=
  db.invites.filter fun row => row.code = code

def redeems (code : String) (event : Event) : Bool :=
  match event.action with
  | .call (.write (.incrementInviteUses other)) => other = code
  | _ => false

/-- The event leaves no invitation with the code. -/
def Loses (code : String) (event : Event) (db : Database) : Prop :=
  stored (event.apply db) code = []

/-- The run has created the invitation, and it was there after every event since. -/
structure Born (run : Run) (invite : Invite) (before : Run) (creating : Event) (after : Run) :
    Prop where
  split : run = before ++ creating :: after
  creates : creating.Does (.createInvite invite) (before.after .empty)
  kept : ¬after.Sees (Run.after (before ++ [creating]) .empty) (Loses invite.code)

def used (row : InviteRow) : InviteRow := { row with uses := bumped row.uses }

/-- The row with a number of uses more, as far as the words of the storage go. -/
def raised (row : InviteRow) (count : Nat) : InviteRow :=
  { row with uses := min (row.uses + count) wordBound }

def shown (row : InviteRow) : Invite :=
  ⟨row.code, row.guildId, row.channelId, row.creatorId, row.maxUses, row.uses,
    row.expiresAt.map WallTime.naive, row.createdAt.naive⟩

inductive Change (code : String) (event : Event) (db : Database) : Prop where
  | created {invite : Invite} (named : invite.code = code)
      (does : event.Does (.createInvite invite) db) (fresh : stored db code = [])
      (rows : stored (event.apply db) code = [invite.row])
  | redeemed (calls : redeems code event = true)
      (rows : stored (event.apply db) code = (stored db code).map used)
  | lost (rows : stored (event.apply db) code = [])
  | other (silent : redeems code event = false)
      (rows : stored (event.apply db) code = stored db code)

section Steps

variable {code : String} {event : Event} {db left : Database}

theorem redeems_iff : redeems code event = true ↔
    event.action = .call (.write (.incrementInviteUses code)) := by
  unfold redeems
  split
  · rename_i called
    simp [called]
  · rename_i other
    simpa using other code

theorem identity_code {row : InviteRow} :
    decide (row.code = code) = true ↔ Table.identity .invites row = [.text code] := by
  simp [Table.identity]

theorem aloof_invites : Table.Aloof .invites := ⟨by decide, by decide, by decide⟩

theorem about_invites {write : Write} (about : write.table = .invites) :
    (∃ invite, write = .createInvite invite) ∨ (∃ code, write = .incrementInviteUses code) ∨
      ∃ code, write = .deleteInvite code := by
  cases write <;> simp_all [Write.table]

theorem incrementUses_ok (sound : db.Sound Catalog.declared) :
    ∃ left, incrementUses Catalog.declared code db = .ok left := by
  have plain : Catalog.declared.Plain .invites := Entry.plain_declared (by decide) rfl
  have keys : ∀ row : InviteRow, ∀ reference ∈ (Catalog.declared .invites).references,
      Table.key? .invites reference.columns (used row) =
        Table.key? .invites reference.columns row := by
    intro row reference declared
    simp only [Catalog.declared, List.mem_cons, List.not_mem_nil, or_false] at declared
    rcases declared with rfl | rfl | rfl <;> rfl
  exact keyed_changes (fun row => identity_code) plain sound rfl (fun _ => rfl) keys

theorem stored_redeemed (reachable : Reachable db) (calls : redeems code event = true) :
    stored (event.apply db) code = (stored db code).map used := by
  have called := redeems_iff.mp calls
  obtain ⟨left, counted⟩ := @incrementUses_ok code db (reachable_sound reachable)
  rcases apply_called called db with does | ⟨⟨failure, failed⟩, -⟩
  · obtain ⟨-, same, -⟩ := changeRows_ok.mp (Event.does_iff.mp does).2
    rw [same]
    exact @filter_changedRows_self .invites _ used db fun _ picked => picked
  · cases failed.symm.trans counted

theorem change_removed {removal : Removal} (sound : db.Sound Catalog.declared)
    (silent : redeems code event = false) (does : event.Does removal.write db) :
    Change code event db := by
  by_cases taken : ∃ row ∈ stored db code, event.Takes .invites row db
  · obtain ⟨row, present, takes⟩ := taken
    exact .lost (keyed_taken aloof_invites (fun row => identity_code) sound present takes)
  · refine .other silent (keyed_spared aloof_invites does fun row present takes => ?_)
    exact taken ⟨row, present, takes⟩

theorem change_called {write : Write} (sound : db.Sound Catalog.declared)
    (silent : redeems code event = false) (does : event.Does write db)
    (about : write.table = .invites) : Change code event db := by
  have leaf : Table.invites ∈ Table.leaves := by decide
  have done := (Event.does_iff.mp does).2
  rcases about_invites about with ⟨invite, rfl⟩ | ⟨other, rfl⟩ | ⟨other, rfl⟩
  · by_cases named : invite.code = code
    · have key := identity_code.mp (@decide_eq_true (invite.row.code = code) _ named)
      exact .created named does (keyed_fresh (fun row => identity_code) done key)
        (keyed_insertRow (fun row => identity_code) sound done key)
    · refine .other silent (keyed_insertOther (fun row => identity_code) done fun key => ?_)
      exact named (of_decide_eq_true (identity_code.mpr key))
  · have apart : other ≠ code := by
      rintro rfl
      exact absurd (redeems_iff.mpr does.1) (Bool.eq_false_iff.mp silent)
    have missed : ∀ row : InviteRow, decide (row.code = other) = true →
        decide (row.code = code) = false := by
      intro row picked
      simpa [of_decide_eq_true picked] using apart
    obtain ⟨-, same, -⟩ := changeRows_ok.mp done
    refine .other silent ?_
    rw [same]
    exact @filter_changedRows_other .invites _ _ used db missed missed
  · by_cases named : other = code
    · subst named
      exact .lost (keyed_deleted leaf done)
    · refine .other silent (keyed_deletedOther leaf done fun row picked => ?_)
      simpa [of_decide_eq_true picked] using named

theorem change_event (code : String) (event : Event) (reachable : Reachable db) :
    Change code event db := by
  have sound := reachable_sound reachable
  cases calls : redeems code event with
  | true => exact .redeemed calls (stored_redeemed reachable calls)
  | false =>
      cases touched_event aloof_invites event db with
      | untouched same => exact .other calls (congrArg (List.filter _) same)
      | removed does apart => exact change_removed sound calls does
      | called does about => exact change_called sound calls does about

theorem kept_event {row : InviteRow} (reachable : Reachable db) (present : stored db code = [row])
    (kept : ¬Loses code event db) :
    stored (event.apply db) code = [if redeems code event then used row else row] := by
  cases change_event code event reachable with
  | created named does fresh rows => simp [present] at fresh
  | redeemed calls rows => simp [rows, present, calls]
  | lost rows => exact absurd rows kept
  | other silent rows => simp [rows, present, silent]

end Steps

section Runs

variable {code : String} {run : Run} {start : Database} {row : InviteRow} {invite : Invite}

theorem used_raised (row : InviteRow) (count : Nat) :
    used (raised row count) = raised row (count + 1) := by
  have bump : bumped (min (row.uses + count) wordBound) =
      min (row.uses + ((count + 1 : Nat) : Int)) wordBound := by
    unfold bumped
    split <;> omega
  rw [used, raised, raised, bump]

/-- As long as the invitation is there it takes the uses, one after another. -/
theorem stored_kept (reachable : Reachable start) (present : stored start code = [row])
    (bounded : row.uses ≤ wordBound) (kept : ¬run.Sees start (Loses code)) :
    stored (run.after start) code = [raised row (run.filter (redeems code)).length] := by
  induction run using List.reverseRecOn with
  | nil => simp [present, raised, Int.min_eq_left bounded]
  | append_singleton past event ih =>
      rw [sees_snoc, not_or] at kept
      have before := ih kept.1
      rw [after_snoc, kept_event (reachable_later reachable ⟨past, rfl⟩) before kept.2]
      cases calls : redeems code event with
      | true => simp [calls, used_raised]
      | false => simp [calls]

theorem born_of_stored (present : stored (run.after .empty) code ≠ []) :
    ∃ invite before creating after,
      invite.code = code ∧ Born run invite before creating after := by
  induction run using List.reverseRecOn with
  | nil => exact absurd rfl present
  | append_singleton past event ih =>
      rw [after_snoc] at present
      have continues : stored (Run.after past .empty) code ≠ [] → ∃ invite before creating after,
          invite.code = code ∧ Born (past ++ [event]) invite before creating after := by
        intro there
        obtain ⟨invite, before, creating, after, rfl, rfl, creates, kept⟩ := ih there
        refine ⟨invite, before, creating, after ++ [event], rfl, by simp, creates, ?_⟩
        refine sees_snoc.not.mpr (not_or.mpr ⟨kept, fun lost => present ?_⟩)
        simpa [Loses] using lost
      cases change_event code event (reachable_after past) with
      | @created invite named does fresh rows =>
          exact ⟨invite, past, event, [], named, rfl, does, sees_nil⟩
      | redeemed calls rows => exact continues fun empty => present (by simp [rows, empty])
      | lost rows => exact absurd rows present
      | other silent rows => exact continues (rows ▸ present)

/-- An invitation counts the uses since its creation. -/
theorem stored_born {before after : Run} {creating : Event}
    (born : Born run invite before creating after) : fitsWord invite.uses = true ∧
      stored (run.after .empty) invite.code =
        [raised invite.row (after.filter (redeems invite.code)).length] := by
  obtain ⟨rfl, creates, kept⟩ := born
  have done : insertRow Catalog.declared .invites invite.row _ = .ok _ :=
    (Event.does_iff.mp creates).2
  have fits : fitsWord invite.uses = true := fits_uses (insertRow_ok.mp done).1
  have started : stored (Run.after (before ++ [creating]) .empty) invite.code = [invite.row] := by
    rw [after_snoc]
    exact keyed_insertRow (fun row => identity_code) (reachable_sound (reachable_after before)) done
      rfl
  have bounded : invite.row.uses ≤ wordBound := Int.le_of_lt (fitsWord_iff.mp fits).2
  have counted := stored_kept (reachable_after _) started bounded kept
  refine ⟨fits, ?_⟩
  simpa using counted

end Runs

section Answers

variable {code : String} {db : Database} {row : InviteRow}

theorem answers_invite (present : stored db code = [row]) (fits : fitsWord row.uses = true) :
    (Question.invite code).Answers db (.entity (some (.invite (shown row)))) := by
  have found : (db.invites.find? fun row => row.code = code) = some row := by
    rw [← List.head?_filter]
    exact congrArg List.head? present
  have read : row.invite = .ok (shown row) := by
    rw [InviteRow.invite, storedCount, if_pos fits]
    rfl
  refine @answers_read _ _ [] _ _ _ (some (shown row)) rfl rfl ?_
  rw [found, Option.mapM_some, read]
  rfl

theorem shown_row (invite : Invite) (count : Nat) (uses : Int)
    (counted : uses = min (invite.uses + count) wordBound) :
    shown (raised invite.row count) = { readBack invite with uses := uses } := by
  subst counted
  simp [shown, raised, readBack, Invite.row, Option.map_map, Function.comp_def]

theorem exhausted_iff {invite : Invite} :
    invite.isExhausted = true ↔ 0 < invite.maxUses ∧ invite.maxUses ≤ invite.uses := by
  simp [Invite.isExhausted]

theorem exhausted_raised {row : InviteRow} {count : Nat} (bounded : row.uses ≤ wordBound)
    (exhausted : (shown row).isExhausted = true) :
    (shown (raised row count)).isExhausted = true := by
  rw [exhausted_iff] at exhausted ⊢
  have least : row.uses ≤ min (row.uses + count) wordBound := by omega
  exact ⟨exhausted.1, Int.le_trans exhausted.2 least⟩

theorem expired_raised {row : InviteRow} {count : Nat} {now later : DateTime}
    (since : now.instant ≤ later.instant) (expired : (shown row).isExpired now = true) :
    (shown (raised row count)).isExpired later = true := by
  cases ends : row.expiresAt with
  | none => simp [Invite.isExpired, shown, ends] at expired
  | some expiry =>
      simp only [Invite.isExpired, shown, raised, ends, Option.map_some, decide_eq_true_eq] at *
      exact Int.le_trans expired since

end Answers

/-- An invitation is there if it was created and stayed. Its uses are those of its creation and one
for each call since, and as long as it is there one that is used up or has expired remains so. -/
theorem redemption_exact (run : Run) (code : String) :
    let db := run.after .empty
    (stored db code ≠ [] ↔ ∃ invite before creating after,
      invite.code = code ∧ Born run invite before creating after) ∧
    (∀ invite before creating after, Born run invite before creating after → invite.code = code →
      let uses := invite.uses + (after.filter (redeems code)).length
      stored db code = [{ invite.row with uses := min uses wordBound }] ∧
      (uses < wordBound → (Question.invite code).Answers db
        (.entity (some (.invite { readBack invite with uses := uses }))))) ∧
    ∀ row ∈ stored db code, ∀ future : Run, ¬future.Sees db (Loses code) →
      ∃ later, stored (future.after db) code = [later] ∧
        (fitsWord later.uses = true → (Question.invite code).Answers (future.after db)
          (.entity (some (.invite (shown later))))) ∧
        ((shown row).isExhausted = true → (shown later).isExhausted = true) ∧
        ∀ now next : DateTime, now.instant ≤ next.instant →
          (shown row).isExpired now = true → (shown later).isExpired next = true := by
  intro db
  refine ⟨⟨born_of_stored, ?_⟩, ?_, ?_⟩
  · rintro ⟨invite, before, creating, after, rfl, born⟩
    simp [db, (stored_born born).2]
  · rintro invite before creating after born rfl uses
    obtain ⟨fits, counted⟩ := stored_born born
    refine ⟨counted, fun few => ?_⟩
    have exact : uses = min (invite.uses + (after.filter (redeems invite.code)).length) wordBound :=
      (Int.min_eq_left (Int.le_of_lt few)).symm
    have word : fitsWord uses = true := by
      have low := (fitsWord_iff.mp fits).1
      exact fitsWord_iff.mpr ⟨by omega, few⟩
    rw [← shown_row invite _ uses exact]
    rw [exact] at word
    exact answers_invite counted word
  · intro row member future kept
    obtain ⟨invite, before, creating, after, rfl, born⟩ :=
      born_of_stored (List.ne_nil_of_mem member)
    have counted := (stored_born born).2
    obtain rfl := List.mem_singleton.mp (counted ▸ member)
    have bounded : (raised invite.row (after.filter (redeems invite.code)).length).uses ≤
        wordBound := Int.min_le_right _ _
    have later := stored_kept (reachable_after run) counted bounded kept
    exact ⟨_, later, answers_invite later, exhausted_raised bounded, fun _ _ => expired_raised⟩

def opening : Event := Write.event noon (.createInvite { untilNoon none with maxUses := 2 })

def redeeming (code : String) : Event := Write.event noon (.incrementInviteUses code)

def crowded : Run := welcoming ++ opening :: [redeeming "abc", redeeming "abd", redeeming "abc"]

theorem crowded_exhausted :
    (Question.invite "abc").Answers (crowded.after .empty) (.entity (some (.invite
      { readBack (untilNoon none) with maxUses := 2, uses := 2 }))) ∧
    ∃ later, stored (Run.after [redeeming "abc"] (crowded.after .empty)) "abc" = [later] ∧
      (shown later).isExhausted = true := by
  obtain ⟨-, counted, stays⟩ := redemption_exact crowded "abc"
  constructor
  · have kept : ¬Run.Sees ([] ++ [redeeming "abc"] ++ [redeeming "abd"] ++ [redeeming "abc"])
        (Run.after (welcoming ++ [opening]) .empty) (Loses "abc") := by
      rw [sees_snoc, sees_snoc, sees_snoc]
      rintro (((nothing | lost) | lost) | lost)
      · exact sees_nil nothing
      all_goals exact absurd lost (by unfold Loses; decide +kernel)
    have creates : opening.Does (.createInvite { untilNoon none with maxUses := 2 })
        (welcoming.after .empty) := Event.does_iff.mpr ⟨rfl, by decide +kernel⟩
    exact (counted _ welcoming opening _ ⟨rfl, creates, kept⟩ rfl).2 (by decide +kernel)
  · have member : (⟨"abc", 10, none, 1, 2, 2, some noon.wall, noon.wall⟩ : InviteRow) ∈
        stored (crowded.after .empty) "abc" := by decide +kernel
    have kept : ¬Run.Sees ([] ++ [redeeming "abc"]) (crowded.after .empty) (Loses "abc") := by
      rw [sees_snoc]
      rintro (nothing | lost)
      · exact sees_nil nothing
      · exact absurd lost (by unfold Loses; decide +kernel)
    obtain ⟨later, there, -, exhausted, -⟩ := stays _ member [redeeming "abc"] kept
    exact ⟨later, there, exhausted (by decide)⟩

end Invites

end Guildhall
