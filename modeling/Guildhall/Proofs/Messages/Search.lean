import Guildhall.Proofs.Messages.Page
import Guildhall.Proofs.Store.Retrieval
import Guildhall.Proofs.Text.Search

/-!
Search in the messages of a guild: the newest messages that have the text in them, are by the author
and from between the times, at most as many as the limit says, each once, with none left out.
-/

namespace Guildhall.Messages.Search

open Calendar

structure Meets (search : Search) (db : Database) (row : MessageRow) : Prop where
  placed : ∃ channel ∈ db.channels, channel.id = row.channelId ∧ channel.guildId = search.guildId
  contains : Text.Contains search.query row.content
  written : ∀ id ∈ search.authorId, row.authorId = id
  early : ∀ time ∈ search.before, row.createdAt.rank < time.wall.rank
  late : ∀ time ∈ search.after, time.wall.rank < row.createdAt.rank

def Finds (search : Search) (db : Database) (message : MessageWithAuthor) : Prop :=
  ∃ row ∈ db.messages, search.Meets db row ∧
    ∃ author ∈ db.users, author.id = row.authorId ∧ message = row.withAuthor author

/-- The newest messages that are found, as many as the limit admits. -/
structure IsResult (search : Search) (db : Database) (limit : Int)
    (page : List MessageWithAuthor) : Prop where
  short : (page.length : Int) ≤ limit
  descending : page.Pairwise fun a b => b.id < a.id
  found : ∀ message ∈ page, search.Finds db message
  complete : ∀ message, search.Finds db message →
    message ∈ page ∨ (page.length : Int) = limit ∧ ∀ other ∈ page, message.id < other.id

variable {search : Search} {db : Database} {limit : Int}

theorem hits_iff {row : MessageRow} (legible : Text.nul ∉ search.query.toList) :
    search.hits db row = true ↔ search.Meets db row := by
  have inGuild : search.inGuild db row = true ↔
      ∃ channel ∈ db.channels, channel.id = row.channelId ∧ channel.guildId = search.guildId := by
    simp [inGuild]
  have byAuthor : search.byAuthor row = true ↔ ∀ id ∈ search.authorId, row.authorId = id := by
    simp only [Search.byAuthor, Option.all_eq_true, decide_eq_true_eq, Option.mem_def]
  have inTime : search.inTime row = true ↔
      (∀ time ∈ search.before, row.createdAt.rank < time.wall.rank) ∧
        ∀ time ∈ search.after, time.wall.rank < row.createdAt.rank := by
    simp only [Search.inTime, Bool.and_eq_true, Option.all_eq_true, decide_eq_true_eq,
      Option.mem_def]
  simp only [hits, Bool.and_eq_true, inGuild, Text.found_iff legible, byAuthor, inTime]
  constructor
  · rintro ⟨⟨⟨placed, contains⟩, written⟩, early, late⟩
    exact ⟨placed, contains, written, early, late⟩
  · rintro ⟨placed, contains, written, early, late⟩
    exact ⟨⟨⟨placed, contains⟩, written⟩, early, late⟩

theorem mem_hits {message : MessageWithAuthor} (legible : Text.nul ∉ search.query.toList) :
    message ∈ newest (search.hits db) db ↔ search.Finds db message := by
  simp only [mem_newest, hits_iff legible, Finds]

theorem isResult (sound : db.Sound Catalog.declared) (legible : Text.nul ∉ search.query.toList)
    (positive : 1 ≤ limit) :
    search.IsResult db limit ((newest (search.hits db) db).take limit.toNat) := by
  have sorted := descending_newest sound (search.hits db)
  have most := List.length_take_le limit.toNat (newest (search.hits db) db)
  refine ⟨by omega, sorted.sublist (List.take_sublist _ _), fun message member => ?_,
    fun message found => ?_⟩
  · exact (mem_hits legible).mp (List.mem_of_mem_take member)
  · refine (take_newest sorted ((mem_hits legible).mpr found) limit.toNat).imp_right fun full =>
      ⟨?_, full.2⟩
    rw [full.1]
    omega

/-- A search for a text without null characters, whose pattern is not too long, is answered with the
newest messages of the guild that have the text in them as it is written, up to the case of letters,
are by the author and from between the times. -/
theorem search_exact (past : Run) (search : Search) {limit : Int}
    (fits : (limit :: search.integers).all fitsWord = true) (positive : 1 ≤ limit)
    (legible : Text.nul ∉ search.query.toList)
    (bounded : Text.patternSize search.query ≤ Text.patternLimit) :
    let db := past.after .empty
    ∃ page, (Question.search search limit).Answers db (.entities (page.map .message)) ∧
      search.IsResult db limit page := by
  intro db
  refine ⟨_, ?_, isResult (reachable_sound (reachable_after past)) legible positive⟩
  have answer : search.run limit db = .ok ((newest (search.hits db) db).take limit.toNat) := by
    rw [Search.run, limited, if_neg (by omega), askRead_fits fits,
      if_neg fun long => absurd long.1 (Nat.not_lt.mpr bounded)]
    rfl
  apply answers_of_query
  change Question.many .message (search.run limit) db = _
  rw [Question.many, answer]
  rfl

def marked : Run := [
  .createUser ⟨1, "ada", "Ada", none, "", noon⟩,
  .createGuild ⟨10, "guild", none, 1, noon⟩,
  .createChannel ⟨30, 10, "talk", .text, 0, none, none⟩,
  .createMessage ⟨41, 30, 1, "it is 100%_\\ sure", noon, none⟩,
  .createMessage ⟨42, 30, 1, "it is 100 to 1 sure", noon, none⟩].map (Write.event noon)

theorem marked_found :
    let db := marked.after .empty
    let search : Search := ⟨10, "%_\\ S", some 1, none, some ⟨⟨2026, 2, 28, 0, 0, 0, 0⟩, none⟩⟩
    (1 :: search.integers).all fitsWord = true ∧ (1 : Int) ≤ 1 ∧
    Text.nul ∉ search.query.toList ∧ Text.patternSize search.query ≤ Text.patternLimit ∧
    ∃ page : List MessageWithAuthor, (Question.search search 1).Answers db
      (.entities (page.map .message)) ∧ page.map (fun message => message.id) = [41] := by
  intro db search
  have fits : (1 :: search.integers).all fitsWord = true := by decide
  have legible : Text.nul ∉ search.query.toList := by decide
  have bounded : Text.patternSize search.query ≤ Text.patternLimit := by decide +kernel
  let sure : MessageRow := ⟨41, 30, 1, "it is 100%_\\ sure", noon.wall, none⟩
  have hits : db.messages.filter (search.hits db) = [sure] := by decide +kernel
  have only : ∀ message, search.Finds db message → message.id = 41 := by
    rintro message ⟨row, stored, meets, author, -, -, rfl⟩
    have hit := List.mem_filter.mpr ⟨stored, (hits_iff legible).mpr meets⟩
    rw [hits, List.mem_singleton] at hit
    exact congrArg MessageRow.id hit
  obtain ⟨stored, hit⟩ := List.mem_filter.mp (hits ▸ List.mem_singleton_self sure)
  obtain ⟨author, alone⟩ := author_alone (reachable_sound (reachable_after marked)) stored
  obtain ⟨present, written⟩ := List.mem_filter.mp (alone ▸ List.mem_singleton_self author)
  have found : search.Finds db (sure.withAuthor author) :=
    ⟨sure, stored, (hits_iff legible).mp hit, author, present, of_decide_eq_true written, rfl⟩
  obtain ⟨page, answers, result⟩ := search_exact marked search fits (by decide) legible bounded
  refine ⟨fits, by decide, legible, bounded, page, answers, ?_⟩
  match page, result with
  | [], result => simpa using result.complete _ found
  | [message], result =>
      simpa using only message (result.found message (List.mem_singleton_self message))
  | _ :: _ :: rest, result =>
      have short := result.short
      simp only [List.length_cons] at short
      omega

end Guildhall.Messages.Search
