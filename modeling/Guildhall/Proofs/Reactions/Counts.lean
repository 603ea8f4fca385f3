import Guildhall.Proofs.Store.Listing
import Mathlib.Algebra.BigOperators.Ring.Finset
import Mathlib.Data.String.Basic

/-!
Counts of the reactions to a message. Each emoji that is in use is listed once, in the order of the
first use that is there, with as many uses as it has users; and the users of an emoji stand in the
order of their reactions, so that a shorter list begins a longer one.
-/

namespace Guildhall.Reactions

section FirstUse

variable {rows others : List ReactionRow} {emoji first second third : String} {time : Nat}

/-- The first use of an emoji among the reactions is at this time. -/
structure FirstUse (rows : List ReactionRow) (emoji : String) (time : Nat) : Prop where
  attained : ∃ row ∈ rows, row.emoji = emoji ∧ row.createdAt.rank = time
  least : ∀ row ∈ rows, row.emoji = emoji → time ≤ row.createdAt.rank

def Precedes (rows : List ReactionRow) (first second : String) : Prop :=
  ∃ s t, FirstUse rows first s ∧ FirstUse rows second t ∧ (s < t ∨ s = t ∧ first < second)

theorem firstUse_alike
    (alike : ∀ row : ReactionRow, row.emoji = emoji → (row ∈ rows ↔ row ∈ others)) :
    FirstUse rows emoji time ↔ FirstUse others emoji time := by
  have transfer : ∀ {rows others : List ReactionRow},
      (∀ row : ReactionRow, row.emoji = emoji → (row ∈ rows ↔ row ∈ others)) →
      FirstUse rows emoji time → FirstUse others emoji time := by
    intro rows others alike use
    obtain ⟨⟨row, member, named, timed⟩, least⟩ := use
    exact ⟨⟨row, (alike row named).mp member, named, timed⟩,
      fun other there same => least other ((alike other same).mpr there) same⟩
  exact ⟨transfer alike, transfer fun row named => (alike row named).symm⟩

theorem firstUse_exists (used : ∃ row ∈ rows, row.emoji = emoji) :
    ∃ time, FirstUse rows emoji time := by
  obtain ⟨row, member, named⟩ := used
  let uses := rows.filter fun row => row.emoji = emoji
  have among : ∀ other ∈ rows, other.emoji = emoji → other ∈ uses := fun other there same =>
    List.mem_filter.mpr ⟨there, decide_eq_true same⟩
  let time : ReactionRow → Nat := fun row => row.createdAt.rank
  let soonest := uses.minOn time (List.ne_nil_of_mem (among row member named))
  obtain ⟨stored, same⟩ := List.mem_filter.mp (List.minOn_mem : soonest ∈ uses)
  exact ⟨time soonest, ⟨soonest, stored, of_decide_eq_true same, rfl⟩, fun other there same =>
    List.apply_minOn_le_of_mem (among other there same)⟩

theorem firstUse_unique {s t : Nat} (one : FirstUse rows emoji s) (other : FirstUse rows emoji t) :
    s = t := by
  obtain ⟨row, member, named, rfl⟩ := one.attained
  obtain ⟨same, there, also, rfl⟩ := other.attained
  exact Nat.le_antisymm (one.least same there also) (other.least row member named)

theorem precedes_alike
    (alike : ∀ row : ReactionRow, row.emoji = first ∨ row.emoji = second →
      (row ∈ rows ↔ row ∈ others)) : Precedes rows first second ↔ Precedes others first second := by
  have left : ∀ time, FirstUse rows first time ↔ FirstUse others first time := fun _ =>
    firstUse_alike fun row named => alike row (Or.inl named)
  have right : ∀ time, FirstUse rows second time ↔ FirstUse others second time := fun _ =>
    firstUse_alike fun row named => alike row (Or.inr named)
  simp only [Precedes, left, right]

theorem precedes_irrefl : ¬Precedes rows emoji emoji := by
  rintro ⟨s, t, one, other, before | ⟨-, before⟩⟩
  · have same := firstUse_unique one other
    omega
  · exact String.lt_irrefl emoji before

theorem emojiOrder_isLE {a b : ReactionRow} : (emojiOrder a b).isLE = true ↔
    a.createdAt.rank < b.createdAt.rank ∨
      a.createdAt.rank = b.createdAt.rank ∧ a.emoji ≤ b.emoji := by
  have emojis : (compareOn ReactionRow.emoji a b).isLE = true ↔ a.emoji ≤ b.emoji := by
    rw [Ordering.isLE_iff_ne_gt]
    exact compare_le_iff_le
  exact isLE_byTime.trans (or_congr_right (and_congr_right' emojis))

theorem soonest_precedes {row : ReactionRow} {rest : List ReactionRow}
    (soonest : ∀ other ∈ rest, (emojiOrder row other).isLE = true)
    (used : ∃ other ∈ rest, other.emoji = emoji) (differs : emoji ≠ row.emoji) :
    Precedes (row :: rest) row.emoji emoji := by
  have own : FirstUse (row :: rest) row.emoji row.createdAt.rank := by
    refine ⟨⟨row, List.mem_cons_self, rfl, rfl⟩, fun other member _ => ?_⟩
    rcases List.mem_cons.mp member with rfl | there
    · exact Nat.le_refl _
    · rcases emojiOrder_isLE.mp (soonest other there) with before | ⟨same, -⟩
      · exact before.le
      · exact same.le
  obtain ⟨other, there, named⟩ := used
  obtain ⟨time, first⟩ :=
    @firstUse_exists (row :: rest) emoji ⟨other, List.mem_cons_of_mem row there, named⟩
  refine ⟨_, time, own, first, ?_⟩
  obtain ⟨found, member, rfl, rfl⟩ := first.attained
  rcases List.mem_cons.mp member with rfl | there
  · exact absurd rfl differs
  · exact (emojiOrder_isLE.mp (soonest found there)).imp_right fun both =>
      ⟨both.1, Std.lt_of_le_of_ne both.2 differs.symm⟩

/-- Of reactions in their order, the emoji come in the order of their first uses. -/
theorem eraseDups_precedes (sorted : List ReactionRow)
    (ordered : sorted.Pairwise fun a b => (emojiOrder a b).isLE = true) :
    (sorted.map ReactionRow.emoji).eraseDups.Pairwise (Precedes sorted) := by
  match sorted with
  | [] => exact List.Pairwise.nil
  | row :: rest =>
      obtain ⟨soonest, later⟩ := List.pairwise_cons.mp ordered
      -- Duplicates are erased in the tail, so the recursion is on the reactions with other emoji,
      -- whose first uses are the same with and without the rest.
      let others := rest.filter fun other => !other.emoji == row.emoji
      have shorter : others.length < (row :: rest).length :=
        Nat.lt_succ_of_le (List.length_filter_le _ rest)
      have rests := eraseDups_precedes others (later.sublist List.filter_sublist)
      have tail : ((rest.map ReactionRow.emoji).filter fun emoji => !emoji == row.emoji) =
          others.map ReactionRow.emoji := List.filter_map
      have apart : ∀ emoji ∈ (others.map ReactionRow.emoji).eraseDups,
          (∃ other ∈ rest, other.emoji = emoji) ∧ emoji ≠ row.emoji := by
        intro emoji member
        obtain ⟨other, there, rfl⟩ := List.mem_map.mp (List.mem_eraseDups.mp member)
        obtain ⟨stored, differs⟩ := List.mem_filter.mp there
        exact ⟨⟨other, stored, rfl⟩, by simpa using differs⟩
      rw [List.map_cons, List.eraseDups_cons, tail]
      refine List.pairwise_cons.mpr ⟨fun emoji member => ?_, rests.imp_of_mem ?_⟩
      · exact soonest_precedes soonest (apart emoji member).1 (apart emoji member).2
      · intro a b first second before
        refine (precedes_alike fun other named => ?_).mp before
        have differs : other.emoji ≠ row.emoji := by
          rcases named with rfl | rfl
          · exact (apart _ first).2
          · exact (apart _ second).2
        have other_ne : other ≠ row := fun same => differs (congrArg ReactionRow.emoji same)
        simp [others, differs, other_ne]
termination_by sorted.length
decreasing_by exact shorter

theorem mem_emojisOf : emoji ∈ emojisOf rows ↔ ∃ row ∈ rows, row.emoji = emoji := by
  simp [emojisOf, (sortBy_perm emojiOrder rows).mem_iff]

instance : Std.TransCmp emojiOrder :=
  inferInstanceAs (Std.TransCmp (compareLex (compareOn _) (compareOn _)))

theorem emojisOf_ordered (rows : List ReactionRow) :
    (emojisOf rows).Pairwise (Precedes rows) := by
  refine (eraseDups_precedes _ (sortBy_isLE emojiOrder rows)).imp fun before => ?_
  exact (precedes_alike fun row _ => (sortBy_perm emojiOrder rows).mem_iff).mp before

theorem emojisOf_nodup (rows : List ReactionRow) : (emojisOf rows).Nodup := by
  refine (emojisOf_ordered rows).imp ?_
  rintro a b before rfl
  exact precedes_irrefl before

end FirstUse

section Counting

variable {rows : List ReactionRow}

theorem sum_uses (rows : List ReactionRow) : ((emojisOf rows).map fun emoji =>
    (rows.filter fun row => row.emoji = emoji).length).sum = rows.length := by
  have listed : (emojisOf rows).Perm (rows.map ReactionRow.emoji).dedup :=
    (List.perm_ext_iff_of_nodup (emojisOf_nodup rows) (List.nodup_dedup _)).mpr fun emoji => by
      rw [mem_emojisOf, List.mem_dedup, List.mem_map]
  have counted : ∀ emoji, (rows.filter fun row => row.emoji = emoji).length =
      (rows.map ReactionRow.emoji).count emoji := by
    intro emoji
    rw [List.count, List.countP_map, List.countP_eq_length_filter]
    rfl
  calc ((emojisOf rows).map fun emoji => (rows.filter fun row => row.emoji = emoji).length).sum
      = ((rows.map ReactionRow.emoji).dedup.map fun emoji =>
          (rows.map ReactionRow.emoji).count emoji).sum := by
        simp only [counted]
        exact (listed.map _).sum_eq
    _ = (rows.map ReactionRow.emoji).length := List.sum_map_count_dedup_eq_length _
    _ = rows.length := List.length_map _

end Counting

section Users

variable {db : Database} {messageId userId limit : Int} {emoji : String}

def reactors (db : Database) (messageId : Int) (emoji : String) : List ReactionRow :=
  sortBy order (db.reactions.filter fun row => row.messageId = messageId && row.emoji = emoji)

def Before (a b : ReactionRow) : Prop :=
  a.createdAt.rank < b.createdAt.rank ∨
    a.createdAt.rank = b.createdAt.rank ∧ a.userId < b.userId

theorem mem_reactors {row : ReactionRow} : row ∈ reactors db messageId emoji ↔
    row ∈ db.reactions ∧ row.messageId = messageId ∧ row.emoji = emoji := by
  simp [reactors, (sortBy_perm order _).mem_iff]

theorem order_isLE {a b : ReactionRow} (before : (order a b).isLE = true) :
    a.createdAt.rank < b.createdAt.rank ∨
      a.createdAt.rank = b.createdAt.rank ∧ a.userId ≤ b.userId := by
  refine (isLE_byTime.mp before).imp_right (And.imp_right fun rest => ?_)
  rw [compareLex, Ordering.isLE_then_iff_and] at rest
  exact Int.isLE_compare.mp rest.1

theorem reactors_nodup (consistent : db.Consistent) :
    ((reactors db messageId emoji).map ReactionRow.userId).Nodup := by
  refine ((sortBy_perm order _).map ReactionRow.userId).nodup_iff.mpr ?_
  refine nodup_part consistent.reactionKeys _ fun a b first second same => ?_
  simp only [Bool.and_eq_true, decide_eq_true_eq] at first second
  rw [first.1, first.2, second.1, second.2, same]

theorem reactors_ordered (consistent : db.Consistent) :
    (reactors db messageId emoji).Pairwise Before :=
  strictly_byTime ((sortBy_isLE order _).imp order_isLE) (reactors_nodup consistent)

theorem answers_users (message : fitsWord messageId = true) (positive : 1 ≤ limit)
    (wide : fitsWord limit = true) : (Question.usersOfReaction messageId emoji limit).Answers db
      (.ids (((reactors db messageId emoji).take limit.toNat).map ReactionRow.userId)) := by
  apply answers_of_query
  change (usersOf messageId emoji limit db).map Answer.ids = _
  rw [usersOf, limited, if_neg (by omega), ask_fits (by simp [message, wide])]
  rfl

theorem users_begin {small large : Int} {few many : List Int} (message : fitsWord messageId = true)
    (positive : 1 ≤ small) (below : small ≤ large) (wide : fitsWord large = true)
    (first : (Question.usersOfReaction messageId emoji small).Answers db (.ids few))
    (second : (Question.usersOfReaction messageId emoji large).Answers db (.ids many)) :
    few <+: many := by
  have narrow : fitsWord small = true := by
    have above := (fitsWord_iff.mp wide).2
    have bound := wordBound_pos
    exact fitsWord_iff.mpr ⟨by omega, by omega⟩
  cases answers_unique first (answers_users message positive narrow)
  cases answers_unique second (answers_users message (positive.trans below) wide)
  exact (List.take_prefix_take_left (by omega)).map ReactionRow.userId

end Users

/-- The count says how often the emoji is used on the message, which is how many users of it are
shown where the limit admits them all, and whether the user is one of them. -/
structure Tallied (db : Database) (messageId userId : Int) (count : ReactionCount) : Prop where
  uses : count.count = (db.reactions.filter fun row =>
    row.messageId = messageId && row.emoji = count.emoji).length
  users : ∀ limit, fitsWord limit = true → count.count ≤ limit → ∃ users : List Int,
    (Question.usersOfReaction messageId count.emoji limit).Answers db (.ids users) ∧
      users.length = count.count ∧ (count.me = true ↔ userId ∈ users)

structure IsReactors (db : Database) (messageId : Int) (emoji : String)
    (reactors : List ReactionRow) : Prop where
  members : ∀ row, row ∈ reactors ↔
    row ∈ db.reactions ∧ row.messageId = messageId ∧ row.emoji = emoji
  ordered : reactors.Pairwise Before
  distinct : (reactors.map ReactionRow.userId).Nodup
  shown : ∀ limit, 1 ≤ limit → fitsWord limit = true →
    (Question.usersOfReaction messageId emoji limit).Answers db
      (.ids ((reactors.take limit.toNat).map ReactionRow.userId))

section Agreement

variable {db : Database} {messageId userId : Int} {emoji : String}

theorem isReactors (consistent : db.Consistent) (message : fitsWord messageId = true) :
    IsReactors db messageId emoji (reactors db messageId emoji) where
  members _ := mem_reactors
  ordered := reactors_ordered consistent
  distinct := reactors_nodup consistent
  shown _ := answers_users message

theorem tallied (message : fitsWord messageId = true)
    (used : ∃ row ∈ db.reactions.filter fun row => row.messageId = messageId, row.emoji = emoji) :
    Tallied db messageId userId
      (countOf userId (db.reactions.filter fun row => row.messageId = messageId) emoji) := by
  have uses : (db.reactions.filter fun row => row.messageId = messageId).filter
      (fun row => row.emoji = emoji) =
        db.reactions.filter fun row => row.messageId = messageId && row.emoji = emoji := by
    simp [List.filter_filter, Bool.and_comm]
  have counted := congrArg (fun uses => (uses.length : Int)) uses
  have length : ((reactors db messageId emoji).length : Int) =
      (countOf userId (db.reactions.filter fun row => row.messageId = messageId) emoji).count :=
    (congrArg Nat.cast (sortBy_perm order _).length_eq).trans counted.symm
  have inUse : 0 < (reactors db messageId emoji).length := by
    obtain ⟨row, member, named⟩ := used
    obtain ⟨stored, here⟩ := List.mem_filter.mp member
    exact List.length_pos_of_mem (mem_reactors.mpr ⟨stored, of_decide_eq_true here, named⟩)
  have told : (countOf userId (db.reactions.filter fun row => row.messageId = messageId) emoji).me =
      true ↔ userId ∈ (reactors db messageId emoji).map ReactionRow.userId := by
    simp [countOf, mem_reactors, and_assoc, and_left_comm]
  refine ⟨counted, fun limit wide most => ?_⟩
  have whole : (reactors db messageId emoji).take limit.toNat = reactors db messageId emoji :=
    List.take_of_length_le (by omega)
  have answer := @answers_users db messageId limit emoji message (by omega) wide
  rw [whole] at answer
  exact ⟨_, answer, by rw [List.length_map, length], told⟩

end Agreement

/-- Each emoji in use on a message is listed once, by the time of its first use that is there and by
itself where that is equal, with the number of its uses and of its users, and with whether the user
is one of them; together the uses are the reactions to the message. The users of an emoji are shown
in the order of their reactions, so that those of a lower limit come first. -/
theorem counts_exact (run : Run) {messageId userId : Int}
    (fits : [messageId, userId].all fitsWord = true) :
    let db := run.after .empty
    let rows := db.reactions.filter fun row => row.messageId = messageId
    (∃ (counts : List ReactionCount) (reactions : List Reaction),
      (Question.reactionCounts messageId userId).Answers db
        (.entities (counts.map .reactionCount)) ∧
      (Question.reactionsOfMessage messageId).Answers db (.entities (reactions.map .reaction)) ∧
      (counts.map ReactionCount.emoji).Nodup ∧
      (∀ emoji, emoji ∈ counts.map ReactionCount.emoji ↔ ∃ row ∈ rows, row.emoji = emoji) ∧
      counts.Pairwise (fun a b => Precedes rows a.emoji b.emoji) ∧
      (∀ count ∈ counts, Tallied db messageId userId count) ∧
      (counts.map ReactionCount.count).sum = reactions.length) ∧
    ∀ emoji, (∃ reactors, IsReactors db messageId emoji reactors) ∧
      ∀ small large few many, 1 ≤ small → small ≤ large → fitsWord large = true →
        (Question.usersOfReaction messageId emoji small).Answers db (.ids few) →
        (Question.usersOfReaction messageId emoji large).Answers db (.ids many) → few <+: many := by
  intro db rows
  have consistent := consistent_of_sound (reachable_sound (reachable_after run))
  have message : fitsWord messageId = true := List.all_eq_true.mp fits messageId (by simp)
  have emojis : ((emojisOf rows).map (countOf userId rows)).map ReactionCount.emoji =
      emojisOf rows := by
    rw [List.map_map]
    exact List.map_id _
  have sum : (((emojisOf rows).map (countOf userId rows)).map ReactionCount.count).sum =
      ((sortBy order rows).map ReactionRow.reaction).length := by
    rw [List.length_map, (sortBy_perm order rows).length_eq, ← sum_uses rows, Nat.cast_list_sum,
      List.map_map, List.map_map]
    rfl
  refine ⟨⟨(emojisOf rows).map (countOf userId rows), (sortBy order rows).map ReactionRow.reaction,
    answers_list rfl fits rfl, answers_list rfl (by simp [message]) rfl, ?_, ?_, ?_, ?_, sum⟩, ?_⟩
  · rw [emojis]
    exact emojisOf_nodup rows
  · intro emoji
    rw [emojis]
    exact mem_emojisOf
  · exact List.pairwise_map.mpr (emojisOf_ordered rows)
  · intro count listed
    obtain ⟨emoji, member, rfl⟩ := List.mem_map.mp listed
    exact tallied message (mem_emojisOf.mp member)
  · intro emoji
    exact ⟨⟨_, isReactors consistent message⟩, fun small large few many => users_begin message⟩

def lively : Run := [
  .createUser ⟨1, "ada", "Ada", none, "", noon⟩,
  .createUser ⟨2, "bob", "Bob", none, "", noon⟩,
  .createUser ⟨3, "cyd", "Cyd", none, "", noon⟩,
  .createMessage ⟨40, 30, 1, "hello", noon, none⟩,
  .addReaction 40 2 "star" none,
  .addReaction 40 3 "heart" none,
  .addReaction 40 1 "star" none,
  .addReaction 40 1 "star" none].map (Write.event noon)

theorem lively_counts :
    let db := lively.after .empty
    [40, 2].all fitsWord = true ∧ ∃ (counts : List ReactionCount) (reactions : List Reaction),
      (Question.reactionCounts 40 2).Answers db (.entities (counts.map .reactionCount)) ∧
      (Question.reactionsOfMessage 40).Answers db (.entities (reactions.map .reaction)) ∧
      (counts.map ReactionCount.count).sum = reactions.length ∧
      ∃ count ∈ counts, count.emoji = "star" ∧ count.count = 2 ∧ ∃ few many,
        (Question.usersOfReaction 40 "star" 1).Answers db (.ids few) ∧
        (Question.usersOfReaction 40 "star" 5).Answers db (.ids many) ∧
        many.length = 2 ∧ (count.me = true ↔ 2 ∈ many) ∧ few <+: many := by
  intro db
  have fits : [40, 2].all fitsWord = true := by decide
  have stored : db.reactions = [⟨40, 2, "star", noon.wall⟩, ⟨40, 3, "heart", noon.wall⟩,
      ⟨40, 1, "star", noon.wall⟩] := by decide +kernel
  obtain ⟨⟨counts, reactions, counted, listed, -, emojis, -, tallies, sum⟩, users⟩ :=
    counts_exact lively fits
  have used : "star" ∈ counts.map ReactionCount.emoji := by
    refine (emojis "star").mpr ⟨⟨40, 2, "star", noon.wall⟩, List.mem_filter.mpr ⟨?_, rfl⟩, rfl⟩
    exact stored ▸ List.mem_cons_self
  obtain ⟨count, member, named⟩ := List.mem_map.mp used
  obtain ⟨uses, shown⟩ := tallies count member
  have two : count.count = 2 := by
    rw [uses, named]
    change (((db.reactions.filter _).length : Nat) : Int) = 2
    rw [stored]
    decide
  obtain ⟨many, all, length, told⟩ := shown 5 (by decide) (by omega)
  obtain ⟨⟨reactors, isReactors⟩, begins⟩ := users "star"
  have one := isReactors.shown 1 (by decide) (by decide)
  rw [named] at all
  have first := begins 1 5 _ many (by decide) (by decide) (by decide) one all
  exact ⟨fits, counts, reactions, counted, listed, sum, count, member, named, two, _, many, one,
    all, by omega, told, first⟩

end Guildhall.Reactions
