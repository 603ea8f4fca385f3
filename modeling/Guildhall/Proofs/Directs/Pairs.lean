import Guildhall.Proofs.Directs.Change
import Mathlib.Data.List.Induction

/-!
When two users share at most one channel between two users. The name of the pair keeps a channel
unique as long as its recipients are the pair. A third user who joins such a channel is not part of
its name: from then on the pairs that he makes are not watched over.
-/

namespace Guildhall.Directs

structure Shares (db : Database) (channel : DirectChannelRow) (a b : Int) : Prop where
  stored : channel ∈ db.directChannels
  pair : channel.kind = DirectKind.pair.code
  first : Holds db channel.id a
  second : Holds db channel.id b

/-- Two users share at most one channel between two users. -/
def LonePairs (db : Database) : Prop :=
  ∀ a b, a ≠ b → ∀ first second, Shares db first a b → Shares db second a b → first = second

/-- The event puts a user into a channel between two users that he was not in. -/
structure Widens (event : Event) (db : Database) (channel : DirectChannelRow) (userId : Int) :
    Prop where
  write : event.write? = some (.addRecipient channel.id userId)
  stored : channel ∈ db.directChannels
  pair : channel.kind = DirectKind.pair.code
  absent : ¬Holds db channel.id userId
  present : Holds (event.apply db) channel.id userId

/-- Some user was put into a channel between two users that had the identifier. -/
def Widened (past : Run) (channelId : Int) : Prop :=
  ∃ before event after channel userId, past = before ++ event :: after ∧
    channel.id = channelId ∧ Widens event (Run.after before .empty) channel userId

/-- The two ways in which users come to share a second channel. -/
inductive Clash (past : Run) (event : Event) : Prop where
  /-- A user is put into a channel with a peer with whom he shares another one. -/
  | joins {channel other : DirectChannelRow} {userId peer : Int}
      (widens : Widens event (past.after .empty) channel userId)
      (meets : Holds (past.after .empty) channel.id peer)
      (shares : Shares (past.after .empty) other userId peer)
  /-- A channel is opened for two users who share one that somebody was put into. -/
  | opens {channel other : DirectChannelRow} {a b : Int} (apart : a ≠ b)
      (fresh : ∀ row ∈ (past.after .empty).directChannels, row.id ≠ channel.id)
      (opened : Shares (event.apply (past.after .empty)) channel a b)
      (shares : Shares (past.after .empty) other a b)
      (widened : Widened past other.id)

/-- A channel that carries the name of its pair, or has lost it along with a recipient. -/
def Faithful (db : Database) (channel : DirectChannelRow) : Prop :=
  (∃ a b, channel.pairKey = some (pairKey a b) ∧
    ∀ userId, Holds db channel.id userId → userId = a ∨ userId = b) ∨
  (channel.pairKey = none ∧ ∃ a, ∀ userId, Holds db channel.id userId → userId = a)

theorem pairKey_comm (a b : Int) : pairKey a b = pairKey b a := by
  rw [pairKey, pairKey, Int.min_comm, Int.max_comm]

/-- The name of two users is the name of any pair that they are in. -/
theorem pairKey_within {a b c d : Int} (apart : a ≠ b) (first : a = c ∨ a = d)
    (second : b = c ∨ b = d) : pairKey a b = pairKey c d := by
  rcases first with rfl | rfl <;> rcases second with rfl | rfl
  · exact absurd rfl apart
  · rfl
  · exact pairKey_comm _ _
  · exact absurd rfl apart

section Changes

variable {db left : Database} {channelId userId : Int}

theorem holds_opened {draft : Draft} {key : Option String} (created : Created draft key db left) :
    Holds left channelId userId ↔
      Holds db channelId userId ∨ channelId = draft.id ∧ userId ∈ draft.recipients := by
  simp only [Holds, created.recipients, List.mem_append, List.mem_map, RecipientRow.mk.injEq]
  constructor
  · rintro (old | ⟨user, member, rfl, rfl⟩)
    · exact Or.inl old
    · exact Or.inr ⟨rfl, member⟩
  · rintro (old | ⟨rfl, member⟩)
    · exact Or.inl old
    · exact Or.inr ⟨userId, member, rfl, rfl⟩

theorem Created.steady {draft : Draft} {key : Option String} (created : Created draft key db left)
    {row : DirectChannelRow} (old : row ∈ db.directChannels) (holds : Holds left row.id userId) :
    Holds db row.id userId :=
  ((holds_opened created).mp holds).resolve_right fun new => created.fresh row old new.1

theorem holds_joined {joinedId joiner : Int} (joined : Joined joinedId joiner db left) :
    Holds left channelId userId ↔
      Holds db channelId userId ∨ channelId = joinedId ∧ userId = joiner := by
  simp [Holds, joined.recipients]

theorem holds_fresh (sound : db.Sound Catalog.declared)
    (fresh : ∀ row ∈ db.directChannels, row.id ≠ channelId) : ¬Holds db channelId userId := by
  intro holds
  obtain ⟨channel, stored, same⟩ := (consistent_of_sound sound).recipientChannel _ holds
  exact fresh channel stored same

theorem same_of_id (sound : db.Sound Catalog.declared) {first second : DirectChannelRow}
    (storedFirst : first ∈ db.directChannels) (storedSecond : second ∈ db.directChannels)
    (same : first.id = second.id) : first = second :=
  List.inj_on_of_nodup_map (consistent_of_sound sound).directIds storedFirst storedSecond same

structure Grown (db left : Database) : Prop where
  channels : db.directChannels ⊆ left.directChannels
  recipients : db.recipients ⊆ left.recipients

theorem Created.grown {draft : Draft} {key : Option String} (created : Created draft key db left) :
    Grown db left := by
  refine ⟨?_, ?_⟩
  · rw [created.channels]
    exact List.subset_append_left _ _
  · rw [created.recipients]
    exact List.subset_append_left _ _

theorem Joined.grown {joinedId joiner : Int} (joined : Joined joinedId joiner db left) :
    Grown db left := by
  refine ⟨fun row member => ?_, ?_⟩
  · rwa [joined.channels]
  · rw [joined.recipients]
    exact List.subset_append_left _ _

theorem shares_grown {channel : DirectChannelRow} {a b : Int} (grown : Grown db left)
    (shares : Shares db channel a b) : Shares left channel a b :=
  ⟨grown.channels shares.stored, shares.pair, grown.recipients shares.first,
    grown.recipients shares.second⟩

theorem shares_opened {draft : Draft} {key : Option String} {channel : DirectChannelRow}
    {a b : Int} (created : Created draft key db left) (shares : Shares left channel a b) :
    Shares db channel a b ∨ channel = draft.row key := by
  have stored := shares.stored
  rw [created.channels, List.mem_append, List.mem_singleton] at stored
  refine stored.imp_left fun old => ?_
  exact ⟨old, shares.pair, created.steady old shares.first, created.steady old shares.second⟩

theorem shares_joined {joinedId joiner : Int} {channel : DirectChannelRow} {a b : Int}
    (joined : Joined joinedId joiner db left) (shares : Shares left channel a b)
    (elsewhere : channel.id ≠ joinedId) : Shares db channel a b := by
  have was : ∀ {userId : Int}, Holds left channel.id userId → Holds db channel.id userId := by
    intro userId holds
    exact ((holds_joined joined).mp holds).resolve_right fun new => elsewhere new.1
  exact ⟨joined.channels ▸ shares.stored, shares.pair, was shares.first, was shares.second⟩

theorem pair_named {draft : Draft} {key : Option String} (named : draft.pairKey? = .ok key)
    (pair : draft.kind = DirectKind.pair.code) :
    ∃ a b, draft.recipients = [a, b] ∧ key = some (pairKey a b) := by
  have naming := naming draft
  rw [named] at naming
  cases naming with
  | group group => exact absurd pair group
  | pair _ two writable => exact ⟨_, _, two, rfl⟩

end Changes

theorem faithful_fewer {db left : Database} {old row : DirectChannelRow} (id : old.id = row.id)
    (key : old.pairKey = row.pairKey)
    (recipients : ∀ userId, Holds left row.id userId → Holds db row.id userId)
    (faithful : Faithful db old) : Faithful left row := by
  rw [Faithful, id, key] at faithful
  rcases faithful with ⟨a, b, named, within⟩ | ⟨nameless, a, alone⟩
  · exact Or.inl ⟨a, b, named, fun userId holds => within userId (recipients userId holds)⟩
  · exact Or.inr ⟨nameless, a, fun userId holds => alone userId (recipients userId holds)⟩

/-- The recipient who leaves takes the name along and leaves one recipient at most. -/
theorem faithful_removed {db left : Database} {userId : Int} {old row : DirectChannelRow}
    (removed : Removed old.id userId db left) (id : old.id = row.id) (nameless : row.pairKey = none)
    (faithful : Faithful db old) : Faithful left row := by
  have before : ∀ user, Holds left row.id user → Holds db old.id user ∧ user ≠ userId := by
    intro user holds
    rw [← id] at holds
    refine ⟨removed.recipients holds, ?_⟩
    rintro rfl
    exact removed.absent holds
  refine Or.inr ⟨nameless, ?_⟩
  rcases faithful with ⟨a, b, -, within⟩ | ⟨-, a, alone⟩
  · rcases within userId removed.present with rfl | rfl
    · refine ⟨b, fun user holds => ?_⟩
      exact (within user (before user holds).1).resolve_left (before user holds).2
    · refine ⟨a, fun user holds => ?_⟩
      exact (within user (before user holds).1).resolve_right (before user holds).2
  · exact ⟨a, fun user holds => alone user (before user holds).1⟩

theorem faithful_opened {db left : Database} {draft : Draft} {key : Option String}
    (sound : db.Sound Catalog.declared) (created : Created draft key db left)
    (pair : draft.kind = DirectKind.pair.code) : Faithful left (draft.row key) := by
  obtain ⟨a, b, recipients, rfl⟩ := pair_named created.named pair
  refine Or.inl ⟨a, b, rfl, fun userId holds => ?_⟩
  rcases (holds_opened created).mp holds with old | ⟨-, member⟩
  · exact absurd old (holds_fresh sound created.fresh)
  · simpa [recipients] using member

theorem widened_before {past : Run} {channelId : Int} (widened : Widened past channelId)
    (event : Event) : Widened (past ++ [event]) channelId := by
  obtain ⟨before, joining, after, channel, userId, rfl, same, widens⟩ := widened
  exact ⟨before, joining, after ++ [event], channel, userId, by simp, same, widens⟩

theorem widens_joined {event : Event} {db : Database} {channel : DirectChannelRow} {userId : Int}
    (write : event.write? = some (.addRecipient channel.id userId))
    (stored : channel ∈ db.directChannels) (pair : channel.kind = DirectKind.pair.code)
    (joined : Joined channel.id userId db (event.apply db)) : Widens event db channel userId :=
  ⟨write, stored, pair, joined.absent, (holds_joined joined).mpr (Or.inr ⟨rfl, rfl⟩)⟩

theorem faithful_past (past : Run) : ∀ row ∈ (past.after .empty).directChannels,
    row.kind = DirectKind.pair.code → ¬Widened past row.id →
      Faithful (past.after .empty) row := by
  induction past using List.reverseRecOn with
  | nil => simp [Database.empty]
  | append_singleton past event ih =>
      intro row stored pair narrow
      have sound := reachable_sound (reachable_after past)
      -- A widening is for good: a channel that is narrow now has been narrow all the time.
      have before : ¬Widened past row.id := fun widened => narrow (widened_before widened event)
      rw [after_snoc] at stored ⊢
      cases event_change event (Run.after past .empty) with
      | fewer fewer =>
          obtain ⟨old, present, id, kind, key⟩ := fewer.channels row stored
          refine faithful_fewer id key (fun userId holds => fewer.recipients holds) ?_
          exact ih old present (kind.trans pair) (id ▸ before)
      | @removed channelId userId removed =>
          obtain ⟨old, present, id, kind, key⟩ := removed.channels row stored
          have faithful := ih old present (kind.trans pair) (id ▸ before)
          by_cases same : old.id = channelId
          · subst same
            rw [if_pos ⟨rfl, kind.trans pair⟩] at key
            exact faithful_removed removed id key faithful
          · rw [if_neg fun both => same both.1] at key
            exact faithful_fewer id key.symm (fun userId holds => removed.recipients holds) faithful
      | @opened draft key created =>
          rw [created.channels, List.mem_append, List.mem_singleton] at stored
          rcases stored with old | rfl
          · refine faithful_fewer rfl rfl ?_ (ih row old pair before)
            exact fun userId holds => created.steady old holds
          · exact faithful_opened sound created pair
      | @joined channelId userId write joined =>
          rw [joined.channels] at stored
          refine faithful_fewer rfl rfl ?_ (ih row stored pair before)
          intro user holds
          refine ((holds_joined joined).mp holds).resolve_right ?_
          rintro ⟨rfl, -⟩
          exact narrow ⟨past, event, [], row, userId, rfl, rfl,
            widens_joined write stored pair joined⟩

theorem shares_comm {db : Database} {channel : DirectChannelRow} {a b : Int}
    (shares : Shares db channel a b) : Shares db channel b a :=
  ⟨shares.stored, shares.pair, shares.second, shares.first⟩

theorem lonePairs_shrink {db left : Database} (sound : left.Sound Catalog.declared)
    (inherits : Inherits db left) (recipients : left.recipients ⊆ db.recipients)
    (lone : LonePairs db) : LonePairs left := by
  have back : ∀ {channel : DirectChannelRow} {a b : Int}, Shares left channel a b →
      ∃ old, old.id = channel.id ∧ Shares db old a b := by
    intro channel a b shares
    obtain ⟨old, present, id, kind⟩ := inherits channel shares.stored
    refine ⟨old, id, present, kind.trans shares.pair, ?_, ?_⟩
    · exact id ▸ recipients shares.first
    · exact id ▸ recipients shares.second
  intro a b apart first second sharesFirst sharesSecond
  obtain ⟨oldFirst, idFirst, beforeFirst⟩ := back sharesFirst
  obtain ⟨oldSecond, idSecond, beforeSecond⟩ := back sharesSecond
  have same := lone a b apart oldFirst oldSecond beforeFirst beforeSecond
  exact same_of_id sound sharesFirst.stored sharesSecond.stored
    (idFirst.symm.trans ((congrArg DirectChannelRow.id same).trans idSecond))

/-- A new channel shared by two users who share an old one: the old one is not faithful. -/
theorem widened_of_opened {past : Run} {event : Event} {draft : Draft} {key : Option String}
    {other : DirectChannelRow} {a b : Int} (apart : a ≠ b)
    (created : Created draft key (past.after .empty) (event.apply (past.after .empty)))
    (opened : Shares (event.apply (past.after .empty)) (draft.row key) a b)
    (shares : Shares (past.after .empty) other a b) : Widened past other.id := by
  by_contra narrow
  have sound := reachable_sound (reachable_after past)
  obtain ⟨c, d, recipients, rfl⟩ := pair_named created.named opened.pair
  have inside : ∀ userId, Holds (event.apply (past.after .empty)) draft.id userId →
      userId = c ∨ userId = d := by
    intro userId holds
    rcases (holds_opened created).mp holds with old | ⟨-, member⟩
    · exact absurd old (holds_fresh sound created.fresh)
    · simpa [recipients] using member
  have name := pairKey_within apart (inside a opened.first) (inside b opened.second)
  rcases faithful_past past other shares.stored shares.pair narrow with
    ⟨e, f, named, within⟩ | ⟨-, e, alone⟩
  · have same := pairKey_within apart (within a shares.first) (within b shares.second)
    rw [← same, name] at named
    exact created.unclaimed _ rfl other shares.stored named
  · exact apart ((alone a shares.first).trans (alone b shares.second).symm)

theorem clash_of_joined {past : Run} {event : Event} {channelId userId a b : Int}
    {channel other : DirectChannelRow} (lone : LonePairs (past.after .empty)) (apart : a ≠ b)
    (write : event.write? = some (.addRecipient channelId userId))
    (joined : Joined channelId userId (past.after .empty) (event.apply (past.after .empty)))
    (shares : Shares (event.apply (past.after .empty)) channel a b)
    (before : Shares (past.after .empty) other a b) (differ : channel ≠ other) :
    Clash past event := by
  have stored : channel ∈ (past.after .empty).directChannels := joined.channels ▸ shares.stored
  rcases (holds_joined joined).mp shares.first with oldFirst | ⟨rfl, rfl⟩
  · rcases (holds_joined joined).mp shares.second with oldSecond | ⟨rfl, rfl⟩
    · have both : Shares (past.after .empty) channel a b :=
        ⟨stored, shares.pair, oldFirst, oldSecond⟩
      exact absurd (lone a b apart channel other both before) differ
    · exact .joins (widens_joined write stored shares.pair joined) oldFirst (shares_comm before)
  · rcases (holds_joined joined).mp shares.second with oldSecond | ⟨-, same⟩
    · exact .joins (widens_joined write stored shares.pair joined) oldSecond before
    · exact absurd same.symm apart

/-- Wherever two users come to share a second channel there is a clash. -/
theorem clash_of_breach {past : Run} {event : Event} (lone : LonePairs (past.after .empty))
    (breach : ¬LonePairs (event.apply (past.after .empty))) : Clash past event := by
  have sound := sound_event event (reachable_sound (reachable_after past))
  cases event_change event (past.after .empty) with
  | fewer fewer =>
      exact absurd (lonePairs_shrink sound fewer.inherits fewer.recipients lone) breach
  | removed removed =>
      exact absurd (lonePairs_shrink sound removed.inherits removed.recipients lone) breach
  | @opened draft key created =>
      simp only [LonePairs, not_forall] at breach
      obtain ⟨a, b, apart, first, second, sharesFirst, sharesSecond, differ⟩ := breach
      -- One of the two channels must be the new one, and then the other one is older.
      rcases shares_opened created sharesFirst with oldFirst | rfl
      · rcases shares_opened created sharesSecond with oldSecond | rfl
        · exact absurd (lone a b apart first second oldFirst oldSecond) differ
        · exact .opens apart created.fresh sharesSecond oldFirst
            (widened_of_opened apart created sharesSecond oldFirst)
      · rcases shares_opened created sharesSecond with oldSecond | rfl
        · exact .opens apart created.fresh sharesFirst oldSecond
            (widened_of_opened apart created sharesFirst oldSecond)
        · exact absurd rfl differ
  | @joined channelId userId write joined =>
      simp only [LonePairs, not_forall] at breach
      obtain ⟨a, b, apart, first, second, sharesFirst, sharesSecond, differ⟩ := breach
      by_cases here : first.id = channelId
      · have there : second.id ≠ channelId := fun same =>
          differ (same_of_id sound sharesFirst.stored sharesSecond.stored (here.trans same.symm))
        exact clash_of_joined lone apart write joined sharesFirst
          (shares_joined joined sharesSecond there) differ
      · exact clash_of_joined lone apart write joined sharesSecond
          (shares_joined joined sharesFirst here) (Ne.symm differ)

theorem joined_of_widens {event : Event} {db : Database} {channel : DirectChannelRow}
    {userId : Int} (widens : Widens event db channel userId) :
    Joined channel.id userId db (event.apply db) := by
  have changed : event.apply db ≠ db := fun same => widens.absent (same ▸ widens.present)
  rcases event_tables event db with same | ⟨write, named, done⟩
  · exact absurd same changed
  · rw [widens.write] at named
    cases named
    exact (addRecipient_ok done).resolve_left changed

theorem breach_of_clash {past : Run} {event : Event} (clash : Clash past event) :
    ¬LonePairs (event.apply (past.after .empty)) := by
  intro lone
  cases clash with
  | @joins channel other userId peer widens meets shares =>
      have joined := joined_of_widens widens
      have grown := joined.grown
      have apart : userId ≠ peer := by
        rintro rfl
        exact widens.absent meets
      have same := lone userId peer apart channel other
        ⟨grown.channels widens.stored, widens.pair, widens.present, grown.recipients meets⟩
        (shares_grown grown shares)
      exact widens.absent (same ▸ shares.first)
  | @opens channel other a b apart fresh opened shares widened =>
      cases event_change event (past.after .empty) with
      | fewer fewer =>
          obtain ⟨old, present, id, -⟩ := fewer.inherits channel opened.stored
          exact fresh old present id
      | removed removed =>
          obtain ⟨old, present, id, -⟩ := removed.inherits channel opened.stored
          exact fresh old present id
      | joined write joined =>
          exact fresh channel (joined.channels ▸ opened.stored) rfl
      | opened created =>
          have same := lone a b apart channel other opened (shares_grown created.grown shares)
          exact fresh other shares.stored (congrArg DirectChannelRow.id same).symm

/-- Two users share at most one channel between two users all along a run exactly if it has no
clash. -/
theorem lonePairs_iff_no_clash (run : Run) :
    (∀ past : Run, past <+: run → LonePairs (past.after .empty)) ↔
      ∀ past event rest, run = past ++ event :: rest → ¬Clash past event := by
  constructor
  · intro lone past event rest split clash
    have within : past ++ [event] <+: run := ⟨rest, by simp [split]⟩
    have after := lone _ within
    rw [after_snoc] at after
    exact breach_of_clash clash after
  · intro peaceful past
    induction past using List.reverseRecOn with
    | nil =>
        intro _ a b _ first _ shares
        cases shares.stored
    | append_singleton past event ih =>
        rintro ⟨rest, split⟩
        have before := ih ⟨event :: rest, by simpa using split⟩
        have calm := peaceful past event rest (by simpa using split.symm)
        rw [after_snoc]
        by_contra breach
        exact calm (clash_of_breach before breach)

def crossing : Run := [
  .createUser ⟨1, "ada", "Ada", none, "", noon⟩,
  .createUser ⟨2, "bob", "Bob", none, "", noon⟩,
  .createUser ⟨3, "cyd", "Cyd", none, "", noon⟩,
  .createDirect 500 [1, 2] DirectKind.pair.code none none,
  .createDirect 501 [1, 3] DirectKind.pair.code none none,
  .addRecipient 501 2].map (Write.event noon)

/-- After that the first two users share two channels. -/
theorem crossing_shares_two : ¬LonePairs (crossing.after .empty) := by
  intro lone
  have left : crossing.after .empty =
      { users := [⟨1, "ada", "Ada", none, "", noon.wall⟩, ⟨2, "bob", "Bob", none, "", noon.wall⟩,
          ⟨3, "cyd", "Cyd", none, "", noon.wall⟩]
        directChannels := [⟨500, 1, none, some "1:2", noon.wall⟩,
          ⟨501, 1, none, some "1:3", noon.wall⟩]
        recipients := [⟨500, 1⟩, ⟨500, 2⟩, ⟨501, 1⟩, ⟨501, 3⟩, ⟨501, 2⟩] } := by
    decide +kernel
  rw [left] at lone
  have same := lone 1 2 (by decide) ⟨500, 1, none, some "1:2", noon.wall⟩
    ⟨501, 1, none, some "1:3", noon.wall⟩ ⟨by simp, rfl, by simp [Holds], by simp [Holds]⟩
    ⟨by simp, rfl, by simp [Holds], by simp [Holds]⟩
  cases same

end Guildhall.Directs
