import Guildhall.Proofs.Directs.Departure
import Guildhall.Proofs.Directs.Lookup
import Guildhall.Proofs.Store.History

/-!
When two users can get a channel of their own. The name of the pair outlives the account of one of
them: as long as it does, and they share no other channel, a search for one ends in a conflict.
-/

namespace Guildhall.Directs

open Calendar

/-- A channel has the name of the two users, but not both are in it. -/
def Orphaned (a b : Int) (db : Database) : Prop :=
  ∃ row ∈ db.directChannels, row.pairKey = some (pairKey a b) ∧
    ¬(Holds db row.id a ∧ Holds db row.id b)

/-- The event deletes the account of one of two users who are in the channel with their name. -/
def Deserts (a b : Int) (event : Event) (db : Database) : Prop :=
  ∃ userId, (userId = a ∨ userId = b) ∧ event.write? = some (.deleteUser userId) ∧
    ∃ row ∈ db.directChannels, row.pairKey = some (pairKey a b) ∧
      Holds db row.id a ∧ Holds db row.id b

/-- Whoever leaves a channel that keeps its name has lost his account. -/
theorem account_of_named {event : Event} {db : Database} {row : DirectChannelRow} {userId : Int}
    {name : String} (keyed : Keyed (event.apply db))
    (stored : row ∈ (event.apply db).directChannels) (named : row.pairKey = some name)
    (held : Holds db row.id userId) (lost : ¬Holds (event.apply db) row.id userId) :
    event.write? = some (.deleteUser userId) := by
  cases leaves_of_lost held lost with
  | account write => exact write
  | channel gone => exact absurd rfl (gone row stored)
  | removal nameless =>
      rw [nameless row stored rfl (keyed row stored name named)] at named
      cases named

theorem orphaned_step {a b : Int} (event : Event) (db : Database) (reachable : Reachable db)
    (orphaned : Orphaned a b (event.apply db)) : Orphaned a b db ∨ Deserts a b event db := by
  have keyed := keyed_event event db (reachable_keyed reachable)
  obtain ⟨row, stored, named, parted⟩ := orphaned
  rcases row_before stored with ⟨old, present, id, -, key⟩ | ⟨draft, key, created, rfl⟩
  · have oldNamed := key _ named
    by_cases before : Holds db old.id a ∧ Holds db old.id b
    · rw [id] at before
      have desert : ∀ userId, userId = a ∨ userId = b → Holds db row.id userId →
          ¬Holds (event.apply db) row.id userId → Deserts a b event db := by
        intro userId one held lost
        exact ⟨userId, one, account_of_named keyed stored named held lost, old, present, oldNamed,
          id ▸ before⟩
      by_cases first : Holds (event.apply db) row.id a
      · have second : ¬Holds (event.apply db) row.id b := fun second => parted ⟨first, second⟩
        exact Or.inr (desert b (Or.inr rfl) before.2 second)
      · exact Or.inr (desert a (Or.inl rfl) before.1 first)
    · exact Or.inl ⟨old, present, oldNamed, before⟩
  · -- Whoever the name of a new channel names is in it.
    have pair : draft.kind = DirectKind.pair.code := keyed _ stored _ named
    obtain ⟨c, d, recipients, same⟩ := pair_named created.named pair
    obtain rfl : key = some (pairKey a b) := named
    have both := pairKey_eq_iff.mp (Option.some.inj same)
    have member : ∀ userId, userId = c ∨ userId = d → Holds (event.apply db) draft.id userId := by
      intro userId one
      exact (holds_opened created).mpr (Or.inr ⟨rfl, by simpa [recipients] using one⟩)
    refine absurd ⟨member a ?_, member b ?_⟩ parted
    · exact both.imp And.left And.left
    · exact (both.imp And.right And.right).symm

theorem orphaned_iff_since (past : Run) (a b : Int) :
    Orphaned a b (past.after .empty) ↔ Since past (Deserts a b) (Orphaned a b) := by
  refine since_iff ?_ orphaned_step past
  rintro ⟨row, stored, -⟩
  cases stored

/-- Two users who exist are answered a channel exactly if they share one, or if the name of their
pair has not been left over from a deleted account. -/
theorem answered_iff_no_orphan (past : Run) (now : DateTime) (a b id : Int) (apart : a ≠ b)
    (first : ∃ user ∈ (past.after .empty).users, user.id = a)
    (second : ∃ user ∈ (past.after .empty).users, user.id = b) (fits : fitsWord id = true)
    (unused : ∀ row ∈ (past.after .empty).directChannels, row.id ≠ id) :
    (∃ channel, (Command.run Catalog.declared now (.findOrCreateDirect a b id)
      (past.after .empty)).1 = .ok (.entity (some (.direct channel)))) ↔
      (∃ row, Shares (past.after .empty) row a b) ∨
        ¬Since past (Deserts a b) (Orphaned a b) := by
  have reachable := reachable_after past
  have sound := reachable_sound reachable
  have words : fitsWord a = true ∧ fitsWord b = true := by
    obtain ⟨one, presentOne, rfl⟩ := first
    obtain ⟨other, presentOther, rfl⟩ := second
    have users := reachable_fits reachable .users
    exact ⟨users one presentOne one.id List.mem_cons_self,
      users other presentOther other.id List.mem_cons_self⟩
  have ending := findOrCreate_ending id now sound apart
  rw [← orphaned_iff_since]
  generalize (Command.run Catalog.declared now (.findOrCreateDirect a b id)
    (past.after .empty)).1 = outcome at ending
  cases ending with
  | large large => exact absurd words large
  | @found row oldest => exact iff_of_true ⟨_, rfl⟩ (Or.inl ⟨row, oldest.shares⟩)
  | @opened left alone later created =>
      refine iff_of_true ⟨_, rfl⟩ (Or.inr ?_)
      rintro ⟨row, stored, named, -⟩
      exact created.unclaimed _ rfl row stored named
  | obstructed alone obstacle =>
      -- Of all obstacles only the taken name is left: both users are there, and the identifier is
      -- free.
      refine iff_of_false (by simp) ?_
      rintro (⟨row, shares⟩ | free)
      · exact alone row shares
      · cases obstacle with
        | large large => exact large ⟨words.1, words.2, fits⟩
        | idTaken conflict taken =>
            obtain ⟨row, stored, same⟩ := taken
            exact unused row stored same
        | nameTaken conflict taken =>
            obtain ⟨row, stored, named⟩ := taken
            refine free ⟨row, stored, named, fun holds => ?_⟩
            have pair := reachable_keyed reachable row stored _ named
            exact alone row ⟨stored, pair, holds.1, holds.2⟩
        | unknown unknown =>
            rcases unknown with nobody | nobody
            · obtain ⟨user, present, same⟩ := first
              exact nobody user present same
            · obtain ⟨user, present, same⟩ := second
              exact nobody user present same

def renewed : Run := [
  .createUser ⟨1, "ada", "Ada", none, "", noon⟩,
  .createUser ⟨2, "bob", "Bob", none, "", noon⟩,
  .createDirect 500 [1, 2] DirectKind.pair.code none none,
  .deleteUser 2,
  .createUser ⟨2, "bob", "Bob", none, "", noon⟩].map (Write.event noon)

theorem renewed_answered :
    let past := renewed ++ [Write.event noon (.deleteDirect 500)]
    (1 : Int) ≠ 2 ∧ (∃ user ∈ (past.after .empty).users, user.id = 1) ∧
    (∃ user ∈ (past.after .empty).users, user.id = 2) ∧ fitsWord 600 = true ∧
    (∀ row ∈ (past.after .empty).directChannels, row.id ≠ 600) ∧
    ¬Since past (Deserts 1 2) (Orphaned 1 2) ∧
    ∃ channel, (Command.run Catalog.declared noon (.findOrCreateDirect 1 2 600)
      (past.after .empty)).1 = .ok (.entity (some (.direct channel))) := by
  intro past
  have apart : (1 : Int) ≠ 2 := by decide
  have first : ∃ user ∈ (past.after .empty).users, user.id = 1 := by decide +kernel
  have second : ∃ user ∈ (past.after .empty).users, user.id = 2 := by decide +kernel
  have fits : fitsWord 600 = true := by decide
  have channels : (past.after .empty).directChannels = [] := by decide +kernel
  have unused : ∀ row ∈ (past.after .empty).directChannels, row.id ≠ 600 := by simp [channels]
  have free : ¬Since past (Deserts 1 2) (Orphaned 1 2) := by
    rw [← orphaned_iff_since]
    rintro ⟨row, stored, -⟩
    simp [channels] at stored
  exact ⟨apart, first, second, fits, unused, free,
    (answered_iff_no_orphan past noon 1 2 600 apart first second fits unused).mpr (Or.inr free)⟩

/-- Before that both exist and the identifier is free, but the search ends in a conflict. -/
theorem renewed_locked_out :
    (∃ user ∈ (renewed.after .empty).users, user.id = 1) ∧
    (∃ user ∈ (renewed.after .empty).users, user.id = 2) ∧
    (∀ row ∈ (renewed.after .empty).directChannels, row.id ≠ 600) ∧
    (Command.run Catalog.declared noon (.findOrCreateDirect 1 2 600) (renewed.after .empty)).1 =
      .error (.store (.duplicate "dm_channels.pair_key")) := by
  refine ⟨?_, ?_, ?_, ?_⟩ <;> decide +kernel

end Guildhall.Directs
