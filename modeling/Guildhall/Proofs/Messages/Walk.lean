import Guildhall.Proofs.Messages.Page

/-!
Reading a channel's history page by page, each page before the last identifier of the one before
it, while others act between any two pages.
-/

namespace Guildhall.Messages

def moment (past : Run) (meanwhile : Nat → Run) : Nat → Database
  | 0 => past.after .empty
  | i + 1 => (meanwhile i).after (moment past meanwhile i)

/-- The pages that are read from a moment and a cursor on, up to an empty one. -/
inductive Walk (channelId limit : Int) (moments : Nat → Database) :
    Nat → Option Int → List (List MessageWithAuthor) → Prop where
  | done {i : Nat} {cursor : Option Int}
      (empty : ofChannel channelId cursor limit (moments i) = .ok []) :
      Walk channelId limit moments i cursor []
  | page {i : Nat} {cursor : Option Int} {page : List MessageWithAuthor}
      {last : MessageWithAuthor} {rest : List (List MessageWithAuthor)}
      (read : ofChannel channelId cursor limit (moments i) = .ok page)
      (ends : page.getLast? = some last)
      (next : Walk channelId limit moments (i + 1) (some last.id) rest) :
      Walk channelId limit moments i cursor (page :: rest)

theorem reachable_moment (past : Run) (meanwhile : Nat → Run) (i : Nat) :
    Reachable (moment past meanwhile i) := by
  induction i with
  | zero => exact reachable_after past
  | succ i ih => exact reachable_later ih ⟨meanwhile i, rfl⟩

theorem last_least {page : List MessageWithAuthor} {last : MessageWithAuthor}
    (descending : page.Pairwise fun a b => b.id < a.id) (ends : page.getLast? = some last) :
    ∀ message ∈ page, last.id ≤ message.id := by
  obtain ⟨init, rfl⟩ := List.getLast?_eq_some_iff.mp ends
  intro message member
  rcases List.mem_append.mp member with early | final
  · have lower := (List.pairwise_append.mp descending).2.2 message early last
      (List.mem_singleton_self last)
    omega
  · obtain rfl := List.mem_singleton.mp final
    exact Int.le_refl _

/-- What the pages from a moment and a cursor on hold. A message may change from moment to moment as
long as it keeps its identifier. -/
structure Segment (channelId limit : Int) (moments : Nat → Database) (i : Nat)
    (cursor : Option Int) (pages : List (List MessageWithAuthor)) : Prop where
  short : ∀ page ∈ pages, (page.length : Int) ≤ limit
  descending : pages.flatten.Pairwise fun a b => b.id < a.id
  early : ∀ message ∈ pages.flatten, Before cursor message.id
  shown : ∀ message ∈ pages.flatten, ∃ j, Shows (moments j) channelId message
  complete : ∀ (id : Int) (Version : MessageWithAuthor → Prop), Before cursor id →
    (∀ j ≤ pages.length, ∃ message, Version message ∧ message.id = id ∧
      Shows (moments (i + j)) channelId message) →
    ∃ message ∈ pages.flatten, Version message ∧ message.id = id

variable {channelId limit : Int} {moments : Nat → Database} {i : Nat} {cursor : Option Int}
  {page : List MessageWithAuthor} {last : MessageWithAuthor}
  {pages rest : List (List MessageWithAuthor)}

theorem segment_done (empty : IsPage (moments i) channelId cursor limit []) :
    Segment channelId limit moments i cursor [] := by
  refine ⟨by simp, List.Pairwise.nil, by simp, by simp, ?_⟩
  intro id Version early stays
  obtain ⟨message, -, rfl, shown⟩ := stays 0 (Nat.zero_le _)
  rcases empty.complete message shown early with member | later
  · cases member
  · exact absurd rfl later.1

theorem segment_page (read : IsPage (moments i) channelId cursor limit page)
    (ends : page.getLast? = some last)
    (next : Segment channelId limit moments (i + 1) (some last.id) rest) :
    Segment channelId limit moments i cursor (page :: rest) := by
  have least := last_least read.descending ends
  have final := List.mem_of_getLast? ends
  have below : ∀ message ∈ rest.flatten, message.id < last.id := fun message member =>
    next.early message member last.id rfl
  refine ⟨?_, ?_, ?_, ?_, ?_⟩
  · exact List.forall_mem_cons.mpr ⟨read.short, next.short⟩
  · rw [List.flatten_cons]
    refine List.pairwise_append.mpr ⟨read.descending, next.descending, ?_⟩
    intro a first b second
    have lower := least a first
    have upper := below b second
    omega
  · intro message member bound named
    have ahead := (read.shown last final).2 bound named
    rcases List.mem_append.mp (List.flatten_cons ▸ member) with here | later
    · exact (read.shown message here).2 bound named
    · have lower := below message later
      omega
  · intro message member
    rcases List.mem_append.mp (List.flatten_cons ▸ member) with here | later
    · exact ⟨i, (read.shown message here).1⟩
    · exact next.shown message later
  · intro id Version early stays
    obtain ⟨message, version, rfl, shown⟩ := stays 0 (Nat.zero_le _)
    rcases read.complete message shown early with member | later
    · exact ⟨message, List.mem_append_left _ member, version, rfl⟩
    -- A message that is not on the page, but should be shown, is below the last one on it, and is
    -- left for the pages to come.
    · have beyond : Before (some last.id) message.id := by
        rintro bound ⟨⟩
        exact later.2 last final
      have stay : ∀ j ≤ rest.length, ∃ other, Version other ∧ other.id = message.id ∧
          Shows (moments (i + 1 + j)) channelId other := by
        intro j within
        rw [Nat.add_right_comm, Nat.add_assoc]
        exact stays (j + 1) (by simpa using within)
      obtain ⟨other, member, found⟩ := next.complete message.id Version beyond stay
      exact ⟨other, List.mem_append_right _ member, found⟩

theorem shown_fits {db : Database} (reachable : Reachable db) {message : MessageWithAuthor}
    (shown : Shows db channelId message) : fitsWord message.id = true := by
  obtain ⟨row, stored, -, author, -, -, rfl⟩ := shown
  exact reachable_fits reachable .messages row stored row.id List.mem_cons_self

section Reading

variable (reachable : ∀ i, Reachable (moments i)) (channelFits : fitsWord channelId = true)
  (limitFits : fitsWord limit = true) (positive : 1 ≤ limit)

include reachable channelFits limitFits positive

theorem read_page (cursorFits : ∀ id ∈ cursor, fitsWord id = true)
    (read : ofChannel channelId cursor limit (moments i) = .ok page) :
    IsPage (moments i) channelId cursor limit page := by
  obtain ⟨answer, answered, isPage⟩ := ofChannel_page (reachable_sound (reachable i)) channelFits
    limitFits cursorFits positive
  rw [read] at answered
  cases answered
  exact isPage

theorem walk_segment (walk : Walk channelId limit moments i cursor pages)
    (cursorFits : ∀ id ∈ cursor, fitsWord id = true) :
    Segment channelId limit moments i cursor pages := by
  induction walk with
  | done empty =>
      exact segment_done (read_page reachable channelFits limitFits positive cursorFits empty)
  | @page i cursor page last rest read ends next ih =>
      have isPage := read_page reachable channelFits limitFits positive cursorFits read
      refine segment_page isPage ends (ih ?_)
      rintro id ⟨⟩
      exact shown_fits (reachable i) (isPage.shown last (List.mem_of_getLast? ends)).1

/-- A page is empty, or the next cursor is before the one that it was read with. -/
theorem walk_step (cursorFits : ∀ id ∈ cursor, fitsWord id = true) (i : Nat) :
    Walk channelId limit moments i cursor [] ∨
      ∃ page last, ofChannel channelId cursor limit (moments i) = .ok page ∧
        page.getLast? = some last ∧ fitsWord last.id = true ∧ Before cursor last.id := by
  obtain ⟨page, read, isPage⟩ := ofChannel_page (reachable_sound (reachable i)) channelFits
    limitFits cursorFits positive
  cases ends : page.getLast? with
  | none =>
      obtain rfl := List.getLast?_eq_none_iff.mp ends
      exact Or.inl (.done read)
  | some last =>
      have shown := isPage.shown last (List.mem_of_getLast? ends)
      exact Or.inr ⟨page, last, read, ends, shown_fits (reachable i) shown.1, shown.2⟩

/-- Identifiers are words, so that cursors cannot fall for ever. -/
theorem walk_below (room : Nat) {id : Int} (fits : fitsWord id = true)
    (within : id + wordBound < room) (i : Nat) :
    ∃ pages, Walk channelId limit moments i (some id) pages := by
  induction room generalizing id i with
  | zero =>
      have low := (fitsWord_iff.mp fits).1
      omega
  | succ room ih =>
      have cursorFits : ∀ bound ∈ some id, fitsWord bound = true := by
        rintro bound ⟨⟩
        exact fits
      rcases walk_step reachable channelFits limitFits positive cursorFits i with
        ended | ⟨page, last, read, ends, lastFits, before⟩
      · exact ⟨[], ended⟩
      · have lower := before id rfl
        obtain ⟨rest, next⟩ := ih lastFits (by omega) (i + 1)
        exact ⟨page :: rest, .page read ends next⟩

theorem walk_ends : ∃ pages, Walk channelId limit moments 0 none pages := by
  have cursorFits : ∀ bound ∈ (none : Option Int), fitsWord bound = true := by simp
  rcases walk_step reachable channelFits limitFits positive cursorFits 0 with
    ended | ⟨page, last, read, ends, lastFits, -⟩
  · exact ⟨[], ended⟩
  · have high := (fitsWord_iff.mp lastFits).2
    have bounded : last.id + wordBound < (2 * wordBound).toNat := by
      simp only [wordBound] at high ⊢
      omega
    obtain ⟨rest, next⟩ := walk_below reachable channelFits limitFits positive _ lastFits
      bounded 1
    exact ⟨page :: rest, .page read ends next⟩

end Reading

theorem shows_row {db : Database} (sound : db.Sound Catalog.declared) {row : MessageRow}
    (stored : row ∈ db.messages) :
    ∃ message, message.id = row.id ∧ Shows db row.channelId message := by
  obtain ⟨author, present, written⟩ := (consistent_of_sound sound).messageAuthor row stored
  exact ⟨row.withAuthor author, rfl, row, stored, rfl, author, present, written, rfl⟩

structure IsHistory (db : Database) (channelId : Int) (messages : List MessageWithAuthor) :
    Prop where
  descending : messages.Pairwise fun a b => b.id < a.id
  shown : ∀ message, message ∈ messages ↔ Shows db channelId message

def Stands (db : Database) (channelId id : Int) : Prop :=
  ∃ row ∈ db.messages, row.id = id ∧ row.channelId = channelId

theorem once_of_stands (reachable : ∀ i, Reachable (moments i))
    (segment : Segment channelId limit moments 0 none pages) {id : Int}
    (stands : ∀ i ≤ pages.length, Stands (moments i) channelId id) :
    (pages.flatten.map fun message => message.id).count id = 1 := by
  have stays : ∀ j ≤ pages.length, ∃ message : MessageWithAuthor, True ∧ message.id = id ∧
      Shows (moments (0 + j)) channelId message := by
    intro j within
    rw [Nat.zero_add]
    obtain ⟨row, stored, rfl, rfl⟩ := stands j within
    obtain ⟨message, same, shown⟩ := shows_row (reachable_sound (reachable j)) stored
    exact ⟨message, trivial, same, shown⟩
  obtain ⟨message, member, -, same⟩ := segment.complete id (fun _ => True) (by simp [Before]) stays
  have nodup : (pages.flatten.map fun message => message.id).Nodup :=
    List.pairwise_map.mpr (segment.descending.imp fun lower same => by omega)
  exact List.count_eq_one_of_mem nodup (same ▸ List.mem_map_of_mem member)

theorem history_of_rest {db : Database} (rest : ∀ i, moments i = db)
    (segment : Segment channelId limit moments 0 none pages) :
    IsHistory db channelId pages.flatten := by
  refine ⟨segment.descending, fun message => ⟨fun member => ?_, fun shown => ?_⟩⟩
  · obtain ⟨j, shown⟩ := segment.shown message member
    rwa [rest] at shown
  · obtain ⟨other, member, rfl, -⟩ := segment.complete message.id (· = message)
      (by simp [Before]) fun j _ => ⟨message, rfl, rfl, by rwa [rest]⟩
    exact member

/-- A walk ends, whatever others do meanwhile. Its pages keep to the limit, nothing comes twice, a
message that stays in the channel comes once, and without others the pages are the history. -/
theorem walk_reads_history (past : Run) (meanwhile : Nat → Run) {channelId limit : Int}
    (channelFits : fitsWord channelId = true) (limitFits : fitsWord limit = true)
    (positive : 1 ≤ limit) :
    (∃ pages, Walk channelId limit (moment past meanwhile) 0 none pages) ∧
    ∀ pages, Walk channelId limit (moment past meanwhile) 0 none pages →
      (∀ page ∈ pages, (page.length : Int) ≤ limit) ∧
      (pages.flatten.Pairwise fun a b => b.id < a.id) ∧
      (∀ id, (∀ i ≤ pages.length, Stands (moment past meanwhile i) channelId id) →
        (pages.flatten.map fun message => message.id).count id = 1) ∧
      ((∀ i, meanwhile i = []) → IsHistory (past.after .empty) channelId pages.flatten) := by
  have reachable := reachable_moment past meanwhile
  refine ⟨walk_ends reachable channelFits limitFits positive, fun pages walk => ?_⟩
  have segment := walk_segment reachable channelFits limitFits positive walk (by simp)
  refine ⟨segment.short, segment.descending, ?_, ?_⟩
  · intro id stands
    exact once_of_stands reachable segment stands
  · intro alone
    refine history_of_rest (fun i => ?_) segment
    induction i with
    | zero => rfl
    | succ i ih => rw [moment, alone i, after_nil, ih]

def busy : Run := [
  .createUser ⟨1, "ada", "Ada", none, "", noon⟩,
  .createMessage ⟨1, 7, 1, "one", noon, none⟩,
  .createMessage ⟨2, 7, 1, "two", noon, none⟩,
  .createMessage ⟨3, 7, 1, "three", noon, none⟩].map (Write.event noon)

theorem busy_walk :
    let meanwhile : Nat → Run := fun _ => [Write.event noon (.deleteMessage 2)]
    fitsWord 7 = true ∧ fitsWord 1 = true ∧
    (∃ pages, Walk 7 1 (moment busy meanwhile) 0 none pages ∧
      (pages.flatten.map fun message => message.id).count 1 = 1) ∧
    ∃ pages, Walk 7 1 (moment busy fun _ => []) 0 none pages ∧
      IsHistory (busy.after .empty) 7 pages.flatten := by
  intro meanwhile
  have still : Run.after [Write.event noon (.deleteMessage 2)] (moment busy meanwhile 1) =
      moment busy meanwhile 1 := by decide +kernel
  have settled : ∀ i, moment busy meanwhile (i + 1) = moment busy meanwhile 1 := by
    intro i
    induction i with
    | zero => rfl
    | succ i ih => rw [moment, ih, still]
  have first : ∀ i, Stands (moment busy meanwhile i) 7 1 := by
    intro i
    refine ⟨⟨1, 7, 1, "one", noon.wall, none⟩, ?_, rfl, rfl⟩
    cases i with
    | zero => decide +kernel
    | succ i =>
        rw [settled]
        decide +kernel
  have channelFits : fitsWord 7 = true := by decide
  have limitFits : fitsWord 1 = true := by decide
  refine ⟨channelFits, limitFits, ?_, ?_⟩
  · obtain ⟨⟨pages, walk⟩, each⟩ :=
      walk_reads_history busy meanwhile channelFits limitFits (Int.le_refl 1)
    exact ⟨pages, walk, (each pages walk).2.2.1 1 fun i _ => first i⟩
  · obtain ⟨⟨pages, walk⟩, each⟩ :=
      walk_reads_history busy (fun _ => []) channelFits limitFits (Int.le_refl 1)
    exact ⟨pages, walk, (each pages walk).2.2.2 fun _ => rfl⟩

end Guildhall.Messages
