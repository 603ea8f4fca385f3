import Guildhall.Proofs.Directs.Lookup
import Guildhall.Proofs.Store.History

/-!
Who is in the channel that a search for two users answers. It is a channel between two users, and
both of them are in it; somebody else is in it too exactly if a third user was put into it while two
were there, and it has not been down to two since.
-/

namespace Guildhall.Directs

open Calendar

/-- A channel between two users in which there is somebody besides any two. -/
def Crowded (channelId : Int) (db : Database) : Prop :=
  ∃ row ∈ db.directChannels, row.id = channelId ∧ row.kind = DirectKind.pair.code ∧
    ∀ a b, ∃ userId, Holds db channelId userId ∧ userId ≠ a ∧ userId ≠ b

/-- The event puts a third user into a channel between two users. -/
def Intrudes (channelId : Int) (event : Event) (db : Database) : Prop :=
  ∃ channel userId a b, channel.id = channelId ∧ Widens event db channel userId ∧
    a ≠ b ∧ Holds db channelId a ∧ Holds db channelId b

section Steps

variable {db left : Database} {channelId : Int}

theorem within_of_not_crowded {row : DirectChannelRow} (stored : row ∈ db.directChannels)
    (pair : row.kind = DirectKind.pair.code) (calm : ¬Crowded row.id db) :
    ∃ a b, ∀ userId, Holds db row.id userId → userId = a ∨ userId = b := by
  by_contra more
  push Not at more
  exact calm ⟨row, stored, rfl, pair, more⟩

theorem crowded_shrink (inherits : Inherits db left)
    (recipients : left.recipients ⊆ db.recipients) (crowded : Crowded channelId left) :
    Crowded channelId db := by
  obtain ⟨row, stored, rfl, pair, third⟩ := crowded
  obtain ⟨old, present, id, kind⟩ := inherits row stored
  refine ⟨old, present, id, kind.trans pair, fun a b => ?_⟩
  obtain ⟨userId, holds, notFirst, notSecond⟩ := third a b
  exact ⟨userId, recipients holds, notFirst, notSecond⟩

theorem crowded_opened {draft : Draft} {key : Option String} (sound : db.Sound Catalog.declared)
    (created : Created draft key db left) (crowded : Crowded channelId left) :
    Crowded channelId db := by
  obtain ⟨row, stored, rfl, pair, third⟩ := crowded
  rw [created.channels, List.mem_append, List.mem_singleton] at stored
  rcases stored with old | rfl
  · refine ⟨row, old, rfl, pair, fun a b => ?_⟩
    obtain ⟨userId, holds, notFirst, notSecond⟩ := third a b
    exact ⟨userId, created.steady old holds, notFirst, notSecond⟩
  · obtain ⟨a, b, recipients, -⟩ := pair_named created.named pair
    obtain ⟨userId, holds, notFirst, notSecond⟩ := third a b
    rcases (holds_opened created).mp holds with before | ⟨-, member⟩
    · exact absurd before (holds_fresh sound created.fresh)
    · rw [recipients] at member
      simp [notFirst, notSecond] at member

theorem crowded_joined {event : Event} {joinedId joiner : Int}
    (write : event.write? = some (.addRecipient joinedId joiner))
    (joined : Joined joinedId joiner db (event.apply db))
    (crowded : Crowded channelId (event.apply db)) :
    Crowded channelId db ∨ Intrudes channelId event db := by
  obtain ⟨row, stored, rfl, pair, third⟩ := crowded
  rw [joined.channels] at stored
  by_contra neither
  have calm : ¬Crowded row.id db := fun before => neither (Or.inl before)
  obtain ⟨a, b, within⟩ := within_of_not_crowded stored pair calm
  -- Besides the joiner and either of the two, only the other one can be there.
  have met : ∀ one other, (∀ userId, Holds db row.id userId → userId = one ∨ userId = other) →
      row.id = joinedId ∧ Holds db row.id other ∧ other ≠ one := by
    intro one other within
    obtain ⟨userId, holds, notOne, notJoiner⟩ := third one joiner
    have before : Holds db row.id userId := ((holds_joined joined).mp holds).resolve_right
      fun new => notJoiner new.2
    obtain rfl := (within userId before).resolve_left notOne
    refine ⟨?_, before, notOne⟩
    obtain ⟨newcomer, holds, notOne, notOther⟩ := third one userId
    rcases (holds_joined joined).mp holds with before | ⟨here, -⟩
    · exact absurd (within newcomer before) (by simp [notOne, notOther])
    · exact here
  obtain ⟨here, holdsSecond, apart⟩ := met a b within
  obtain ⟨-, holdsFirst, -⟩ := met b a fun userId holds => (within userId holds).symm
  subst here
  exact neither (Or.inr ⟨row, joiner, a, b, rfl, widens_joined write stored pair joined, apart.symm,
    holdsFirst, holdsSecond⟩)

end Steps

/-- A channel between two users is crowded exactly if a third user was put into it and it has been
crowded ever since. -/
theorem crowded_iff_since (past : Run) (channelId : Int) :
    Crowded channelId (past.after .empty) ↔
      Since past (Intrudes channelId) (Crowded channelId) := by
  refine since_iff ?_ ?_ past
  · rintro ⟨row, stored, -⟩
    cases stored
  · intro event db reachable crowded
    cases event_change event db with
    | fewer fewer => exact Or.inl (crowded_shrink fewer.inherits fewer.recipients crowded)
    | removed removed => exact Or.inl (crowded_shrink removed.inherits removed.recipients crowded)
    | opened created => exact Or.inl (crowded_opened (reachable_sound reachable) created crowded)
    | joined write joined => exact crowded_joined write joined crowded

/-- In a channel that is not crowded two users are alone. -/
theorem alone_iff_not_crowded {db : Database} {row : DirectChannelRow} {a b : Int} (apart : a ≠ b)
    (shares : Shares db row a b) :
    (∀ userId, Holds db row.id userId ↔ userId = a ∨ userId = b) ↔ ¬Crowded row.id db := by
  constructor
  · rintro alone ⟨-, -, -, -, third⟩
    obtain ⟨userId, holds, notFirst, notSecond⟩ := third a b
    rcases (alone userId).mp holds with same | same
    · exact notFirst same
    · exact notSecond same
  · intro calm userId
    constructor
    · intro holds
      obtain ⟨c, d, within⟩ := within_of_not_crowded shares.stored shares.pair calm
      have first := within a shares.first
      have second := within b shares.second
      have third := within userId holds
      omega
    · rintro (rfl | rfl)
      · exact shares.first
      · exact shares.second

theorem perm_pair_iff {ids : List Int} {a b : Int} (distinct : ids.Nodup) (apart : a ≠ b) :
    ids.Perm [a, b] ↔ ∀ userId, userId ∈ ids ↔ userId = a ∨ userId = b := by
  rw [List.perm_ext_iff_of_nodup distinct (by simp [apart])]
  simp

/-- A search answers a channel between two users that both are in. They are alone in it exactly if
no third user was put into it who has kept company there ever since. -/
theorem private_iff_no_intruder (past : Run) (now : DateTime) (a b id : Int)
    (channel : DirectChannel)
    (answered : (Command.run Catalog.declared now (.findOrCreateDirect a b id)
      (past.after .empty)).1 = .ok (.entity (some (.direct channel)))) :
    channel.kind = .pair ∧ a ∈ channel.recipients.map User.id ∧
      b ∈ channel.recipients.map User.id ∧
      ((channel.recipients.map User.id).Perm [a, b] ↔
        ¬Since past (Intrudes channel.id) (Crowded channel.id)) := by
  have sound := reachable_sound (reachable_after past)
  have apart : a ≠ b := by
    rintro rfl
    simp [Command.run, Finder.start] at answered
  have ending := findOrCreate_ending id now sound apart
  rw [answered] at ending
  rw [← crowded_iff_since]
  cases ending with
  | @found row oldest =>
      have shares := oldest.shares
      refine ⟨rfl, (mem_recipientsOf sound).mpr shares.first,
        (mem_recipientsOf sound).mpr shares.second, ?_⟩
      calc ((shown (past.after .empty) row).recipients.map User.id).Perm [a, b]
        _ ↔ ∀ userId, userId ∈ (recipientsOf (past.after .empty) row.id).map User.id ↔
            userId = a ∨ userId = b := perm_pair_iff (nodup_recipientsOf sound row.id) apart
        _ ↔ ∀ userId, Holds (past.after .empty) row.id userId ↔ userId = a ∨ userId = b := by
          simp only [mem_recipientsOf sound]
        _ ↔ ¬Crowded row.id (past.after .empty) := alone_iff_not_crowded apart shares
  | @opened left alone later created =>
      have members : ∀ userId, userId ∈ (recipientsOf left id).map User.id ↔
          userId = a ∨ userId = b := by
        intro userId
        rw [mem_recipientsOf later, holds_opening sound created]
      -- The channel is new, so there was nobody to be put into it before.
      have calm : ¬Crowded id (past.after .empty) := by
        rintro ⟨row, stored, same, -⟩
        exact created.fresh row stored same
      refine ⟨rfl, (members a).mpr (Or.inl rfl), (members b).mpr (Or.inr rfl), ?_⟩
      exact iff_of_true ((perm_pair_iff (nodup_recipientsOf later id) apart).mpr members) calm

def joinedByThird : Run := [
  .createUser ⟨1, "ada", "Ada", none, "", noon⟩,
  .createUser ⟨2, "bob", "Bob", none, "", noon⟩,
  .createUser ⟨3, "cyd", "Cyd", none, "", noon⟩,
  .createDirect 500 [1, 2] DirectKind.pair.code none none,
  .addRecipient 500 3].map (Write.event noon)

theorem third_leaves :
    let past := joinedByThird ++ [Write.event noon (.removeRecipient 500 3)]
    ∃ channel : DirectChannel,
      (Command.run Catalog.declared noon (.findOrCreateDirect 2 1 600) (past.after .empty)).1 =
        .ok (.entity (some (.direct channel))) ∧
      ¬Since past (Intrudes channel.id) (Crowded channel.id) ∧
      (channel.recipients.map User.id).Perm [2, 1] := by
  intro past
  have sound := reachable_sound (reachable_after past)
  have channels : (past.after .empty).directChannels = [⟨500, 1, none, none, noon.wall⟩] := by
    decide +kernel
  have recipients : (past.after .empty).recipients = [⟨500, 1⟩, ⟨500, 2⟩] := by decide +kernel
  have shares : Shares (past.after .empty) ⟨500, 1, none, none, noon.wall⟩ 2 1 :=
    ⟨by simp [channels], rfl, by simp [Holds, recipients], by simp [Holds, recipients]⟩
  have answered := findOrCreate_only 600 noon sound (by decide) (by decide) channels shares
  have calm : ¬Crowded 500 (past.after .empty) := by
    rintro ⟨-, -, -, -, third⟩
    obtain ⟨userId, holds, notFirst, notSecond⟩ := third 1 2
    simp [Holds, recipients, notFirst, notSecond] at holds
  have quiet : ¬Since past (Intrudes 500) (Crowded 500) := mt (crowded_iff_since past 500).mpr calm
  obtain ⟨-, -, -, alone⟩ := private_iff_no_intruder past noon 2 1 600 _ answered
  exact ⟨_, answered, quiet, alone.mpr quiet⟩

/-- Before that they are answered a channel that the third user is in. -/
theorem third_listens :
    ∃ channel : DirectChannel,
      (Command.run Catalog.declared noon (.findOrCreateDirect 1 2 600)
        (joinedByThird.after .empty)).1 = .ok (.entity (some (.direct channel))) ∧
      ¬(channel.recipients.map User.id).Perm [1, 2] := by
  have sound := reachable_sound (reachable_after joinedByThird)
  have channels : (joinedByThird.after .empty).directChannels =
      [⟨500, 1, none, some "1:2", noon.wall⟩] := by decide +kernel
  have recipients : (joinedByThird.after .empty).recipients = [⟨500, 1⟩, ⟨500, 2⟩, ⟨500, 3⟩] := by
    decide +kernel
  have shares : Shares (joinedByThird.after .empty) ⟨500, 1, none, some "1:2", noon.wall⟩ 1 2 :=
    ⟨by simp [channels], rfl, by simp [Holds, recipients], by simp [Holds, recipients]⟩
  have answered := findOrCreate_only 600 noon sound (by decide) (by decide) channels shares
  refine ⟨_, answered, fun alone => ?_⟩
  have listens : 3 ∈ (recipientsOf (joinedByThird.after .empty) 500).map User.id :=
    (mem_recipientsOf sound).mpr (by simp [Holds, recipients])
  simpa using alone.subset listens

end Guildhall.Directs
