import Guildhall.Proofs.Store.Consistency
import Guildhall.Proofs.Store.Question
import Guildhall.Proofs.Store.Word

/-!
One page of a channel's history: the newest messages before the cursor, at most as many as the limit
says, each once, with none left out between them.
-/

namespace Guildhall.Messages

def Shows (db : Database) (channelId : Int) (message : MessageWithAuthor) : Prop :=
  ∃ row ∈ db.messages, row.channelId = channelId ∧
    ∃ author ∈ db.users, author.id = row.authorId ∧ message = row.withAuthor author

/-- Without a cursor every message is asked for. -/
def Before (cursor : Option Int) (id : Int) : Prop := ∀ bound ∈ cursor, id < bound

structure IsPage (db : Database) (channelId : Int) (cursor : Option Int) (limit : Int)
    (page : List MessageWithAuthor) : Prop where
  short : (page.length : Int) ≤ limit
  descending : page.Pairwise fun a b => b.id < a.id
  shown : ∀ message ∈ page, Shows db channelId message ∧ Before cursor message.id
  complete : ∀ message, Shows db channelId message → Before cursor message.id →
    message ∈ page ∨ page ≠ [] ∧ ∀ other ∈ page, message.id < other.id

theorem mem_withAuthors {db : Database} {rows : List MessageRow} {message : MessageWithAuthor} :
    message ∈ withAuthors db rows ↔
      ∃ row ∈ rows, ∃ author ∈ db.users, author.id = row.authorId ∧
        message = row.withAuthor author := by
  simp only [withAuthors, List.mem_flatMap, List.mem_map, List.mem_filter, decide_eq_true_eq]
  constructor
  · rintro ⟨row, member, author, ⟨present, written⟩, rfl⟩
    exact ⟨row, member, author, present, written, rfl⟩
  · rintro ⟨row, member, author, present, written, rfl⟩
    exact ⟨row, member, author, ⟨present, written⟩, rfl⟩

/-- A message has exactly one author, so that the join with the users neither drops nor repeats
it. -/
theorem author_alone {db : Database} (sound : db.Sound Catalog.declared) {row : MessageRow}
    (member : row ∈ db.messages) :
    ∃ author, db.users.filter (fun author => author.id = row.authorId) = [author] := by
  have consistent := consistent_of_sound sound
  obtain ⟨author, -, alone⟩ := consistent.user_alone (consistent.messageAuthor row member)
  exact ⟨author, alone⟩

theorem ids_withAuthors {db : Database} (sound : db.Sound Catalog.declared)
    {rows : List MessageRow} (stored : rows ⊆ db.messages) :
    (withAuthors db rows).map (fun message => message.id) = rows.map MessageRow.id := by
  induction rows with
  | nil => rfl
  | cons row rest ih =>
      obtain ⟨head, tail⟩ := List.cons_subset.mp stored
      obtain ⟨author, alone⟩ := author_alone sound head
      have split : withAuthors db (row :: rest) = row.withAuthor author :: withAuthors db rest := by
        simp [withAuthors, alone]
      rw [split, List.map_cons, List.map_cons, ih tail]
      rfl

def newest (chosen : MessageRow → Bool) (db : Database) : List MessageWithAuthor :=
  withAuthors db (sortBy order (db.messages.filter chosen))

theorem mem_newest {chosen : MessageRow → Bool} {db : Database} {message : MessageWithAuthor} :
    message ∈ newest chosen db ↔ ∃ row ∈ db.messages, chosen row = true ∧
      ∃ author ∈ db.users, author.id = row.authorId ∧ message = row.withAuthor author := by
  simp only [newest, mem_withAuthors, (sortBy_perm _ _).mem_iff, List.mem_filter, and_assoc]

theorem descending_newest {db : Database} (sound : db.Sound Catalog.declared)
    (chosen : MessageRow → Bool) : (newest chosen db).Pairwise fun a b => b.id < a.id := by
  have stored : sortBy order (db.messages.filter chosen) ⊆ db.messages := fun row member =>
    List.mem_of_mem_filter ((sortBy_perm _ _).mem_iff.mp member)
  have distinct : ((db.messages.filter chosen).map MessageRow.id).Nodup :=
    (consistent_of_sound sound).messageIds.sublist (List.filter_sublist.map _)
  have rows : ((sortBy order (db.messages.filter chosen)).map MessageRow.id).Pairwise
      fun a b => b < a := List.pairwise_map.mpr (strictly_descending distinct)
  rw [← ids_withAuthors sound stored] at rows
  exact List.pairwise_map.mp rows

/-- What is left out of the first messages is older than each of them. -/
theorem take_newest {messages : List MessageWithAuthor} {message : MessageWithAuthor}
    (descending : messages.Pairwise fun a b => b.id < a.id) (member : message ∈ messages)
    (count : Nat) : message ∈ messages.take count ∨
      (messages.take count).length = count ∧
        ∀ other ∈ messages.take count, message.id < other.id := by
  rw [← List.take_append_drop count messages] at member descending
  rcases List.mem_append.mp member with taken | dropped
  · exact Or.inl taken
  · refine Or.inr ⟨List.length_take_of_le ?_, fun other taken =>
      (List.pairwise_append.mp descending).2.2 other taken message dropped⟩
    have more := List.length_pos_of_mem dropped
    rw [List.length_drop] at more
    omega

def candidates (channelId : Int) (cursor : Option Int) (db : Database) : List MessageRow :=
  db.messages.filter fun row => row.channelId = channelId && cursor.all (fun id => row.id < id)

def older (channelId : Int) (cursor : Option Int) (db : Database) : List MessageWithAuthor :=
  withAuthors db (sortBy order (candidates channelId cursor db))

theorem mem_older {channelId : Int} {cursor : Option Int} {db : Database}
    {message : MessageWithAuthor} :
    message ∈ older channelId cursor db ↔
      Shows db channelId message ∧ Before cursor message.id := by
  have early : ∀ row : MessageRow, cursor.all (fun id => row.id < id) = true ↔
      Before cursor row.id := by
    cases cursor <;> simp [Before]
  refine mem_newest.trans ?_
  simp only [Bool.and_eq_true, decide_eq_true_eq, early]
  constructor
  · rintro ⟨row, stored, ⟨placed, early⟩, author, present, written, rfl⟩
    exact ⟨⟨row, stored, placed, author, present, written, rfl⟩, early⟩
  · rintro ⟨⟨row, stored, placed, author, present, written, rfl⟩, early⟩
    exact ⟨row, stored, ⟨placed, early⟩, author, present, written, rfl⟩

theorem descending_older {db : Database} (sound : db.Sound Catalog.declared) (channelId : Int)
    (cursor : Option Int) :
    (older channelId cursor db).Pairwise fun a b => b.id < a.id := descending_newest sound _

theorem ofChannel_page {db : Database} (sound : db.Sound Catalog.declared) {channelId limit : Int}
    {cursor : Option Int} (channelFits : fitsWord channelId = true)
    (limitFits : fitsWord limit = true) (cursorFits : ∀ id ∈ cursor, fitsWord id = true)
    (positive : 1 ≤ limit) :
    ∃ page, ofChannel channelId cursor limit db = .ok page ∧
      IsPage db channelId cursor limit page := by
  have fits : ∀ rule ∈ [fitting ([channelId, limit] ++ cursor.toList)], rule.holds = true := by
    simpa [fitting, channelFits, limitFits] using cursorFits
  refine ⟨(older channelId cursor db).take limit.toNat, ?_, ?_, ?_, ?_, ?_⟩
  · rw [ofChannel, limited, if_neg (by omega)]
    exact demand_ok.mpr ⟨fits, rfl⟩
  · have most := List.length_take_le limit.toNat (older channelId cursor db)
    omega
  · exact (descending_older sound channelId cursor).sublist (List.take_sublist _ _)
  · intro message member
    exact mem_older.mp (List.mem_of_mem_take member)
  · intro message shown early
    refine (take_newest (descending_older sound channelId cursor) (mem_older.mpr ⟨shown, early⟩)
      limit.toNat).imp_right fun full => ⟨List.ne_nil_of_length_pos ?_, full.2⟩
    rw [full.1]
    omega

end Guildhall.Messages
