import Guildhall.Proofs.Reactions.Counts
import Guildhall.Proofs.Store.Keyed
import Mathlib.Data.Prod.Lex

/-!
The bar of emoji under a message when a reaction comes or goes. Emoji that are used before and after
keep their order, unless the reaction that comes or goes is the use by which its emoji stands before
another one that is used earlier otherwise: the order is that of the first uses that are stored, and
nothing tells of a use that was taken back.
-/

namespace Guildhall.Reactions

open Calendar

/-- Emoji that are in both bars stand in the same order. -/
def Steady (before after : List String) : Prop :=
  ∀ a ∈ before, a ∈ after → ∀ b ∈ before, b ∈ after →
    ([a, b].Sublist before ↔ [a, b].Sublist after)

def toMessage (db : Database) (messageId : Int) : List ReactionRow :=
  db.reactions.filter fun row => row.messageId = messageId

def Bar (db : Database) (messageId : Int) (bar : List String) : Prop :=
  ∀ userId, fitsWord userId = true → ∃ counts : List ReactionCount,
    (Question.reactionCounts messageId userId).Answers db
      (.entities (counts.map .reactionCount)) ∧
    counts.map ReactionCount.emoji = bar

/-- With the reaction its emoji is used before another one, which is used before it otherwise. -/
def Leads (others : List ReactionRow) (row : ReactionRow) : Prop :=
  ∃ emoji s t, FirstUse others row.emoji s ∧ FirstUse others emoji t ∧
    toLex (row.createdAt.rank, row.emoji) < toLex (t, emoji) ∧
    toLex (t, emoji) < toLex (s, row.emoji)

section Order

variable {rows : List ReactionRow} {first second : String} {s t : Nat}

theorem FirstUse.used (use : FirstUse rows first s) : first ∈ emojisOf rows := by
  obtain ⟨row, member, named, -⟩ := use.attained
  exact mem_emojisOf.mpr ⟨row, member, named⟩

theorem precedes_iff (one : FirstUse rows first s) (other : FirstUse rows second t) :
    Precedes rows first second ↔ toLex (s, first) < toLex (t, second) := by
  rw [Prod.Lex.toLex_lt_toLex]
  constructor
  · rintro ⟨s', t', one', other', before⟩
    rwa [firstUse_unique one one', firstUse_unique other other']
  · exact fun before => ⟨s, t, one, other, before⟩

theorem precedes_total (one : first ∈ emojisOf rows) (other : second ∈ emojisOf rows)
    (apart : first ≠ second) : Precedes rows second first ↔ ¬Precedes rows first second := by
  obtain ⟨s, one⟩ := firstUse_exists (mem_emojisOf.mp one)
  obtain ⟨t, other⟩ := firstUse_exists (mem_emojisOf.mp other)
  have differ : toLex (t, second) ≠ toLex (s, first) := fun same =>
    apart (congrArg Prod.snd (toLex.injective same)).symm
  rw [precedes_iff other one, precedes_iff one other, not_lt]
  exact ⟨le_of_lt, fun below => below.lt_of_ne differ⟩

theorem pair_emojisOf :
    [first, second].Sublist (emojisOf rows) ↔ Precedes rows first second := by
  have ordered := emojisOf_ordered rows
  constructor
  · exact List.pairwise_iff_forall_sublist.mp ordered
  · intro before
    obtain ⟨s, t, one, other, -⟩ := id before
    obtain ⟨sooner, later, split⟩ := List.append_of_mem one.used
    have member := other.used
    have apart : second ≠ first := by
      rintro rfl
      exact precedes_irrefl before
    rw [split] at ordered member ⊢
    rcases List.mem_append.mp member with early | late
    · have back := (List.pairwise_append.mp ordered).2.2 second early first List.mem_cons_self
      exact absurd before ((precedes_total one.used other.used apart.symm).mp back)
    · have behind := (List.mem_cons.mp late).resolve_left apart
      exact ((List.singleton_sublist.mpr behind).cons_cons first).trans
        (List.sublist_append_right sooner _)

theorem steady_refl (bar : List String) : Steady bar bar := fun _ _ _ _ _ _ => Iff.rfl

theorem steady_comm {before after : List String} : Steady before after ↔ Steady after before :=
  ⟨fun steady a here there b also too => (steady a there here b too also).symm,
    fun steady a here there b also too => (steady a there here b too also).symm⟩

end Order

/-- No other emoji has its first use after a reaction that is the last of all. -/
theorem latest_spares {row : ReactionRow}
    (latest : ∀ other ∈ rows, other.createdAt.rank < row.createdAt.rank) : ¬Leads rows row := by
  rintro ⟨emoji, s, t, -, use, ahead, -⟩
  obtain ⟨other, member, -, rfl⟩ := use.attained
  have earlier := latest other member
  rcases Prod.Lex.toLex_lt_toLex.mp ahead with below | ⟨same, -⟩
  · exact lt_asymm below earlier
  · exact earlier.ne' same

section OneReaction

variable {fewer more : List ReactionRow} {row : ReactionRow}
  (one : ∀ other, other ∈ more ↔ other = row ∨ other ∈ fewer)

include one

theorem firstUse_more {s : Nat} (use : FirstUse fewer row.emoji s) :
    FirstUse more row.emoji (min s row.createdAt.rank) := by
  obtain ⟨⟨first, member, named, rfl⟩, least⟩ := use
  refine ⟨?_, fun other stored same => ?_⟩
  · rcases le_total first.createdAt.rank row.createdAt.rank with below | below
    · exact ⟨first, (one first).mpr (Or.inr member), named, (min_eq_left below).symm⟩
    · exact ⟨row, (one row).mpr (Or.inl rfl), rfl, (min_eq_right below).symm⟩
  · rcases (one other).mp stored with rfl | among
    · exact min_le_right _ _
    · exact (min_le_left _ _).trans (least other among same)

theorem firstUse_other {emoji : String} {t : Nat} (apart : emoji ≠ row.emoji) :
    FirstUse more emoji t ↔ FirstUse fewer emoji t := by
  refine firstUse_alike fun other named => ?_
  rw [one, or_iff_right]
  rintro rfl
  exact apart named.symm

theorem precedes_more {emoji : String} (used : row.emoji ∈ emojisOf fewer)
    (also : emoji ∈ emojisOf fewer) (spared : ¬Leads fewer row) :
    Precedes fewer row.emoji emoji ↔ Precedes more row.emoji emoji := by
  by_cases same : emoji = row.emoji
  · subst same
    exact iff_of_false precedes_irrefl precedes_irrefl
  obtain ⟨s, mine⟩ := firstUse_exists (mem_emojisOf.mp used)
  obtain ⟨t, other⟩ := firstUse_exists (mem_emojisOf.mp also)
  rw [precedes_iff mine other,
    precedes_iff (firstUse_more one mine) ((firstUse_other one same).mpr other)]
  constructor
  · refine fun before => lt_of_le_of_lt ?_ before
    exact Prod.Lex.toLex_mono ⟨min_le_left _ _, le_rfl⟩
  · intro before
    -- The reaction would have to be earlier than all other uses of its emoji.
    rcases le_total s row.createdAt.rank with earlier | later
    · rwa [min_eq_left earlier] at before
    · rw [min_eq_right later] at before
      by_contra behind
      have differ : toLex (t, emoji) ≠ toLex (s, row.emoji) := fun equal =>
        same (congrArg Prod.snd (toLex.injective equal))
      exact spared ⟨emoji, s, t, mine, other, before, (not_lt.mp behind).lt_of_ne differ⟩

/-- Emoji in use keep their order when one more reaction comes, exactly if it does not lead. -/
theorem steady_more : Steady (emojisOf fewer) (emojisOf more) ↔ ¬Leads fewer row := by
  have kept : ∀ emoji ∈ emojisOf fewer, emoji ∈ emojisOf more := by
    intro emoji used
    obtain ⟨other, member, named⟩ := mem_emojisOf.mp used
    exact mem_emojisOf.mpr ⟨other, (one other).mpr (Or.inr member), named⟩
  constructor
  · rintro steady ⟨emoji, s, t, mine, other, ahead, behind⟩
    have apart : emoji ≠ row.emoji := by
      rintro rfl
      cases firstUse_unique mine other
      exact lt_irrefl _ behind
    have before : Precedes fewer emoji row.emoji := (precedes_iff other mine).mpr behind
    have after := (steady _ other.used (kept _ other.used) _ mine.used (kept _ mine.used)).mp
      (pair_emojisOf.mpr before)
    -- The other emoji keeps its first use, so the new reaction would be ahead of it and behind it.
    rw [pair_emojisOf, precedes_iff ((firstUse_other one apart).mpr other)
      (firstUse_more one mine)] at after
    refine lt_irrefl _ (after.trans (lt_of_le_of_lt ?_ ahead))
    exact Prod.Lex.toLex_mono ⟨min_le_right _ _, le_rfl⟩
  · intro spared first used _ second also _
    rw [pair_emojisOf, pair_emojisOf]
    by_cases same : first = second
    · subst same
      exact iff_of_false precedes_irrefl precedes_irrefl
    by_cases mine : first = row.emoji
    · subst mine
      exact precedes_more one used also spared
    by_cases yours : second = row.emoji
    · subst yours
      rw [precedes_total also used (Ne.symm same),
        precedes_total (kept _ also) (kept _ used) (Ne.symm same)]
      exact not_congr (precedes_more one also used spared)
    · refine precedes_alike fun other named => ?_
      rw [one, or_iff_right]
      rintro rfl
      rcases named with rfl | rfl
      · exact mine rfl
      · exact yours rfl

end OneReaction

section Step

variable {db : Database} {now : DateTime} {messageId userId : Int} {emoji : String}

theorem isOf_identity {row : ReactionRow} : isOf messageId userId emoji row = true ↔
    Table.identity .reactions row = [.int messageId, .int userId, .text emoji] := by
  simp [isOf, Table.identity, and_assoc]

theorem bar_shown (db : Database) (fits : fitsWord messageId = true) :
    Bar db messageId (emojisOf (toMessage db messageId)) := by
  intro userId wide
  refine ⟨(emojisOf (toMessage db messageId)).map (countOf userId (toMessage db messageId)),
    answers_list rfl (by simp [fits, wide]) rfl, ?_⟩
  rw [List.map_map]
  exact List.map_id _

theorem isNew_iff {row : ReactionRow} :
    isNew row.messageId row.userId row.emoji db = true ↔
      holdsKeyOf Catalog.declared .reactions row db = false := by
  have held : db.reactions.any (isOf row.messageId row.userId row.emoji) = true ↔
      holdsKeyOf Catalog.declared .reactions row db = true := by
    rw [holdsKeyOf_iff, List.any_eq_true]
    exact exists_congr fun other => and_congr_right fun _ => isOf_identity.trans eq_comm
  rw [isNew, Bool.not_eq_true', ← Bool.not_eq_true, held, Bool.not_eq_true]

theorem tables_add {time : Option DateTime} {call : Except Failure Answer × Database}
    (called : Command.run Catalog.declared now
      (.write (.addReaction messageId userId emoji time)) db = call) :
    call.1 = .ok (.flag true) ∧
        call.2.reactions = db.reactions ++ [⟨messageId, userId, emoji, (time.getD now).wall⟩] ∨
      call.1 ≠ .ok (.flag true) ∧ call.2 = db := by
  let write : Write := .addReaction messageId userId emoji time
  let row : ReactionRow := ⟨messageId, userId, emoji, (time.getD now).wall⟩
  have ran := called.symm.trans (run_write write now db)
  have new : isNew messageId userId emoji db = true ↔
      holdsKeyOf Catalog.declared .reactions row db = false := @isNew_iff db row
  cases outcome : write.statement Catalog.declared now db with
  | error failure =>
      rw [outcome] at ran
      rw [ran]
      exact Or.inr ⟨by simp, rfl⟩
  | ok left =>
      rw [outcome] at ran
      have answer : call = (.ok (.flag (isNew messageId userId emoji db)), left) := ran
      have done : ensureRow Catalog.declared .reactions row db = .ok left := outcome
      rw [answer]
      rcases ensureRow_ok done with inserted | ⟨held, rfl⟩
      · obtain ⟨-, rfl, admissible⟩ := insertRow_ok.mp inserted
        have fresh : isNew messageId userId emoji db = true := by
          refine new.mpr (Bool.eq_false_iff.mpr fun held => ?_)
          obtain ⟨other, present, same⟩ := holdsKeyOf_iff.mp held
          have shared := admissible.primaryKey other present
          rw [sameKey_identity.mpr same] at shared
          cases shared
        exact Or.inl ⟨by simp [fresh], rfl⟩
      · have old : isNew messageId userId emoji left = false := by
          rw [Bool.eq_false_iff, Ne, new, held]
          simp
        exact Or.inr ⟨by simp [old], rfl⟩

theorem reactions_remove (reachable : Reachable db) (now : DateTime) (messageId userId : Int)
    (emoji : String) : (Command.run Catalog.declared now
      (.write (.removeReaction messageId userId emoji)) db).2.reactions =
        db.reactions.filter fun row => !isOf messageId userId emoji row := by
  rw [run_write]
  let write : Write := .removeReaction messageId userId emoji
  cases outcome : write.statement Catalog.declared now db with
  | ok left => exact rows_deleteLeaf (by decide) outcome
  | error failure =>
      have large : [messageId, userId].all fitsWord = false := large_deleteLeaf (by decide) outcome
      refine (List.filter_eq_self.mpr fun row stored => ?_).symm
      rw [Bool.not_eq_true', Bool.eq_false_iff]
      intro picked
      have fits := reachable_fits reachable .reactions row stored
      rw [Table.Fits, isOf_identity.mp picked] at fits
      simp [fits messageId, fits userId] at large

theorem steady_add {time : Option DateTime} {call : Except Failure Answer × Database}
    (called : Command.run Catalog.declared now
      (.write (.addReaction messageId userId emoji time)) db = call) :
    Steady (emojisOf (toMessage db messageId)) (emojisOf (toMessage call.2 messageId)) ↔
      ¬(call.1 = .ok (.flag true) ∧
        Leads (toMessage db messageId) ⟨messageId, userId, emoji, (time.getD now).wall⟩) := by
  rcases tables_add called with ⟨new, stored⟩ | ⟨old, same⟩
  · have one : ∀ other, other ∈ toMessage call.2 messageId ↔
        other = ⟨messageId, userId, emoji, (time.getD now).wall⟩ ∨
          other ∈ toMessage db messageId := by
      intro other
      simp [toMessage, stored, or_comm]
    rw [steady_more one, and_iff_right new]
  · rw [same]
    exact iff_of_true (steady_refl _) fun both => old both.1

theorem toMessage_remove (reachable : Reachable db) (now : DateTime) :
    toMessage (Command.run Catalog.declared now
        (.write (.removeReaction messageId userId emoji)) db).2 messageId =
      (toMessage db messageId).filter fun row => !isOf messageId userId emoji row := by
  rw [toMessage, reactions_remove reachable, List.filter_comm]
  rfl

theorem isOf_toMessage {row : ReactionRow} (member : row ∈ toMessage db messageId) :
    isOf messageId userId emoji row = true ↔ row.userId = userId ∧ row.emoji = emoji := by
  have here : row.messageId = messageId := of_decide_eq_true (List.mem_filter.mp member).2
  simp [isOf, here]

theorem isOf_alone (sound : db.Sound Catalog.declared) {row other : ReactionRow}
    (member : row ∈ toMessage db messageId) (picked : isOf messageId userId emoji row = true)
    (there : other ∈ toMessage db messageId) :
    isOf messageId userId emoji other = true ↔ other = row := by
  refine ⟨fun also => ?_, fun same => same ▸ picked⟩
  exact eq_of_identity sound (List.mem_filter.mp there).1 (List.mem_filter.mp member).1
    ((isOf_identity.mp also).trans (isOf_identity.mp picked).symm)

theorem steady_remove (reachable : Reachable db) (now : DateTime) :
    Steady (emojisOf (toMessage db messageId)) (emojisOf (toMessage
        (Command.run Catalog.declared now
          (.write (.removeReaction messageId userId emoji)) db).2 messageId)) ↔
      ∀ row ∈ toMessage db messageId, row.userId = userId → row.emoji = emoji →
        ¬Leads ((toMessage db messageId).filter fun other => other ≠ row) row := by
  rw [toMessage_remove reachable]
  by_cases used : ∃ row ∈ toMessage db messageId, isOf messageId userId emoji row = true
  · obtain ⟨row, member, picked⟩ := used
    have alone : ∀ other ∈ toMessage db messageId,
        isOf messageId userId emoji other = true ↔ other = row := fun other there =>
      isOf_alone (reachable_sound reachable) member picked there
    have rest : (toMessage db messageId).filter (fun other => !isOf messageId userId emoji other) =
        (toMessage db messageId).filter fun other => other ≠ row := by
      refine List.filter_congr fun other there => ?_
      simp [← alone other there]
    have one : ∀ other, other ∈ toMessage db messageId ↔
        other = row ∨ other ∈ (toMessage db messageId).filter fun other => other ≠ row := by
      intro other
      by_cases same : other = row
      · simp [same, member]
      · simp [same]
    obtain ⟨user, named⟩ := (isOf_toMessage member).mp picked
    rw [rest, steady_comm, steady_more one]
    constructor
    · intro spared other there mine alike
      obtain rfl := (alone other there).mp ((isOf_toMessage there).mpr ⟨mine, alike⟩)
      exact spared
    · exact fun spared => spared row member user named
  · have still : (toMessage db messageId).filter (fun row => !isOf messageId userId emoji row) =
        toMessage db messageId := by
      refine List.filter_eq_self.mpr fun row member => ?_
      simpa using fun picked => used ⟨row, member, picked⟩
    rw [still]
    exact iff_of_true (steady_refl _) fun row member user named =>
      absurd ⟨row, member, (isOf_toMessage member).mpr ⟨user, named⟩⟩ used

end Step

/-- A reaction that is added leaves the emoji in use in their order, exactly unless it is new and
leads; one that is later than all others never does. A reaction that is taken back leaves them in
their order, exactly unless it is the one by which its emoji led. -/
theorem bar_steady_iff (past : Run) (now : DateTime) {messageId : Int}
    (fits : fitsWord messageId = true) :
    let db := past.after .empty
    let rows := toMessage db messageId
    let call := fun write : Write => Command.run Catalog.declared now (.write write) db
    ∃ bar, Bar db messageId bar ∧
      (∀ userId emoji time,
        let added := call (.addReaction messageId userId emoji time)
        let row : ReactionRow := ⟨messageId, userId, emoji, (time.getD now).wall⟩
        ∃ later, Bar added.2 messageId later ∧
          (Steady bar later ↔ ¬(added.1 = .ok (.flag true) ∧ Leads rows row)) ∧
          ((∀ other ∈ rows, other.createdAt.rank < row.createdAt.rank) → Steady bar later)) ∧
      ∀ userId emoji, ∃ later,
        Bar (call (.removeReaction messageId userId emoji)).2 messageId later ∧
          (Steady bar later ↔ ∀ row ∈ rows, row.userId = userId → row.emoji = emoji →
            ¬Leads (rows.filter fun other => other ≠ row) row) := by
  intro db rows call
  refine ⟨_, bar_shown db fits, fun userId emoji time => ?_, fun userId emoji => ?_⟩
  · intro added row
    have steady := steady_add (rfl : call (.addReaction messageId userId emoji time) = added)
    refine ⟨_, bar_shown added.2 fits, steady, fun latest => steady.mpr fun both => ?_⟩
    exact latest_spares latest both.2
  · exact ⟨_, bar_shown _ fits, steady_remove (reachable_after past) now⟩

def minutesOn (minutes : Nat) : DateTime :=
  { noon with wall := { noon.wall with minute := minutes } }

def favoured : Run := [
  .createUser ⟨1, "ada", "Ada", none, "", noon⟩,
  .createUser ⟨2, "bob", "Bob", none, "", noon⟩,
  .createUser ⟨3, "cyd", "Cyd", none, "", noon⟩,
  .createMessage ⟨40, 30, 1, "hello", noon, none⟩,
  .addReaction 40 1 "star" none,
  .addReaction 40 2 "heart" (some (minutesOn 1)),
  .addReaction 40 3 "star" (some (minutesOn 2))].map (Write.event noon)

theorem favoured_rows : toMessage (favoured.after .empty) 40 =
    [⟨40, 1, "star", noon.wall⟩, ⟨40, 2, "heart", (minutesOn 1).wall⟩,
      ⟨40, 3, "star", (minutesOn 2).wall⟩] := by
  decide +kernel

theorem favoured_steady :
    let db := favoured.after .empty
    let call := fun write : Write => Command.run Catalog.declared noon (.write write) db
    fitsWord 40 = true ∧ ∃ bar, Bar db 40 bar ∧
      (∃ later, Bar (call (.addReaction 40 3 "heart" (some (minutesOn 3)))).2 40 later ∧
        Steady bar later) ∧
      ∃ later, Bar (call (.removeReaction 40 3 "star")).2 40 later ∧ Steady bar later := by
  intro db call
  have fits : fitsWord 40 = true := by decide
  obtain ⟨bar, shown, adds, removes⟩ := bar_steady_iff favoured noon fits
  obtain ⟨added, shownAdded, -, latest⟩ := adds 3 "heart" (some (minutesOn 3))
  obtain ⟨left, shownLeft, steady⟩ := removes 3 "star"
  refine ⟨fits, bar, shown, ⟨added, shownAdded, latest ?_⟩, left, shownLeft, steady.mpr ?_⟩
  · rw [favoured_rows]
    decide +kernel
  · rw [favoured_rows]
    intro row member user
    simp only [List.mem_cons, List.not_mem_nil, or_false] at member
    rcases member with rfl | rfl | rfl
    · cases user
    · cases user
    · exact fun _ => latest_spares (by decide +kernel)

/-- The first star is taken back, and the heart moves ahead of the star that is left. -/
theorem first_star_taken_back :
    let db := favoured.after .empty
    let call := Command.run Catalog.declared noon (.write (.removeReaction 40 1 "star")) db
    ∃ bar later, Bar db 40 bar ∧ Bar call.2 40 later ∧ ["star", "heart"].Sublist bar ∧
      ["heart", "star"].Sublist later ∧ ¬Steady bar later := by
  intro db call
  have fits : fitsWord 40 = true := by decide
  have left : toMessage call.2 40 =
      [⟨40, 2, "heart", (minutesOn 1).wall⟩, ⟨40, 3, "star", (minutesOn 2).wall⟩] := by
    decide +kernel
  have before : Precedes (toMessage db 40) "star" "heart" := by
    rw [favoured_rows]
    exact ⟨_, _, ⟨⟨_, .head _, rfl, rfl⟩, by decide +kernel⟩,
      ⟨⟨_, .tail _ (.head _), rfl, rfl⟩, by decide +kernel⟩, Or.inl (by decide +kernel)⟩
  have after : Precedes (toMessage call.2 40) "heart" "star" := by
    rw [left]
    exact ⟨_, _, ⟨⟨_, .head _, rfl, rfl⟩, by decide +kernel⟩,
      ⟨⟨_, .tail _ (.head _), rfl, rfl⟩, by decide +kernel⟩, Or.inl (by decide +kernel)⟩
  have first := pair_emojisOf.mpr before
  have second := pair_emojisOf.mpr after
  refine ⟨_, _, bar_shown db fits, bar_shown call.2 fits, first, second, fun steady => ?_⟩
  have heart := second.subset List.mem_cons_self
  have star := second.subset (List.mem_cons_of_mem _ List.mem_cons_self)
  have still := (steady _ (first.subset List.mem_cons_self) star _
    (first.subset (List.mem_cons_of_mem _ List.mem_cons_self)) heart).mp first
  exact (precedes_total heart star (by decide)).mp (pair_emojisOf.mp still) after

end Guildhall.Reactions
