import Guildhall.Proofs.Demo.Script
import Guildhall.Proofs.Snowflake.Issue
import Mathlib.Data.Finset.Order
import Mathlib.Data.Finset.Dedup

/-!
The community that is written to begin with, piece by piece, and how its writing ends: with all of
it, or with the pieces before the first one that is blocked. Every piece is a transaction of its
own, so nothing takes these back.
-/

namespace Guildhall

open Calendar Snowflake

namespace Demo

structure Ids where
  owner : Int
  guest : Int
  guild : Int
  general : Int
  random : Int
  everyone : Int
  welcome : Int
  thanks : Int
  hint : Int

namespace Ids

def list (ids : Ids) : List Int :=
  [ids.owner, ids.guest, ids.guild, ids.general, ids.random, ids.everyone, ids.welcome, ids.thanks,
    ids.hint]

def report (ids : Ids) : List (String × Int) :=
  [("alice", ids.owner), ("bob", ids.guest), ("guild", ids.guild), ("general", ids.general),
    ("random", ids.random), ("everyone", ids.everyone)]

/-- Two users, their guild with two channels and a role, the two as members who hold it, and three
messages. -/
def pieces (now : DateTime) (ids : Ids) : List Piece := [
  .creation (.user ⟨ids.owner, "alice", "Alice", none, placeholderHash, now⟩),
  .creation (.user ⟨ids.guest, "bob", "Bob", none, placeholderHash, now⟩),
  .creation (.guild ⟨ids.guild, "Retrocast Demo", none, ids.owner, now⟩),
  .creation (.channel ⟨ids.general, ids.guild, "general", .text, 0, none, none⟩),
  .creation (.channel ⟨ids.random, ids.guild, "random", .text, 1, none, none⟩),
  .creation (.role ⟨ids.everyone, ids.guild, "@everyone", 0, everyonePermissions, 0, true⟩),
  .creation (.member ⟨ids.guild, ids.owner, none, now, []⟩),
  .grant ⟨ids.guild, ids.owner, ids.everyone⟩,
  .creation (.member ⟨ids.guild, ids.guest, none, now, []⟩),
  .grant ⟨ids.guild, ids.guest, ids.everyone⟩,
  .creation (.message ⟨ids.welcome, ids.general, ids.owner, "Welcome to the demo guild!", now,
    none⟩),
  .creation (.message ⟨ids.thanks, ids.general, ids.guest, "Thanks, glad to be here.", now, none⟩),
  .creation (.message ⟨ids.hint, ids.general, ids.owner, "Say hi in #random too.", now, none⟩)]

end Ids

theorem writes_steps (now : DateTime) (ids : Ids) :
    writes now steps [] ids.list = (ids.pieces now).map Piece.write := rfl

theorem report_drawn (ids : Ids) :
    Drawn.report ((slots steps).zip ids.list).reverse = ids.report := rfl

section Order

open Piece

variable {before : List Piece}

theorem follows_creation {it : Creation} (free : ¬it.Clashes (before.foldl enter .empty))
    (answered : ¬it.Lacks (before.foldl enter .empty)) : Follows before (.creation it) where
  free := mt (it.taken_creation _).mp free
  answered := mt (it.dangling_creation _).mp answered
  joined _ other := by cases other

theorem follows_grant {hold : MemberRoleRow} (member : Member)
    (free : ∀ other ∈ (before.foldl enter .empty).memberRoles, other.userId ≠ hold.userId)
    (role : (before.foldl enter .empty).HasRole hold.roleId)
    (present : (before.foldl enter .empty).HasMember hold.guildId hold.userId)
    (joined : creation (.member member) ∈ before) (guild : member.guildId = hold.guildId)
    (user : member.userId = hold.userId) : Follows before (.grant hold) where
  free := by
    rintro ⟨columns, key, other, stored, shared⟩
    obtain rfl := List.mem_singleton.mp key
    have same : hold.userId = other.userId := by
      have identical := sameKey_identity.mp shared
      simp only [Table.identity, List.cons.injEq, Cell.int.injEq] at identical
      exact identical.2.1
    exact free other stored same.symm
  answered := by
    have lacks : Dangling Catalog.declared .memberRoles hold (before.foldl enter .empty) ↔
        ¬(before.foldl enter .empty).HasRole hold.roleId ∨
          ¬(before.foldl enter .empty).HasMember hold.guildId hold.userId :=
      dangling_two rfl (answered_id rfl fun _ => rfl) Entry.answered_memberOf
    refine mt ((dangling_with (by rintro ⟨⟩)).trans lacks).mp ?_
    exact not_or.mpr ⟨not_not.mpr role, not_not.mpr present⟩
  joined := by
    rintro _ ⟨⟩
    exact ⟨member, joined, guild, user⟩

/-- Identifiers need to differ only where they go into the same table. -/
theorem ordered_pieces (now : DateTime) {ids : Ids} (increasing : ids.list.Pairwise (· < ·)) :
    Ordered [] (ids.pieces now) := by
  obtain ⟨owner, guest, guild, general, random, everyone, welcome, thanks, hint⟩ := ids
  simp only [Ids.list, List.pairwise_cons, List.forall_mem_cons] at increasing
  have users : owner ≠ guest := by omega
  have channels : general ≠ random := by omega
  have messages : welcome ≠ thanks ∧ welcome ≠ hint ∧ thanks ≠ hint := by omega
  refine ⟨follows_creation ?_ ?_, follows_creation ?_ ?_, follows_creation ?_ ?_,
    follows_creation ?_ ?_, follows_creation ?_ ?_, follows_creation ?_ ?_,
    follows_creation ?_ ?_, follows_grant ⟨guild, owner, none, now, []⟩ ?_ ?_ ?_ ?_ rfl rfl,
    follows_creation ?_ ?_, follows_grant ⟨guild, guest, none, now, []⟩ ?_ ?_ ?_ ?_ rfl rfl,
    follows_creation ?_ ?_, follows_creation ?_ ?_, follows_creation ?_ ?_, trivial⟩
  all_goals simp [enter, Piece.row, Creation.row, User.row, Guild.row, Channel.row, Member.row,
    Message.row, Database.with, Database.put, Database.rows, Database.empty, Creation.Clashes,
    Creation.Lacks, Database.HasUser, Database.HasGuild, Database.HasChannel, Database.HasRole,
    Database.HasMember, Database.HasMessage, users, channels, messages]

end Order

theorem ids_of_list {ids other : Ids} (same : ids.list = other.list) : ids = other := by
  obtain ⟨_, _, _, _, _, _, _, _, _⟩ := ids
  obtain ⟨_, _, _, _, _, _, _, _, _⟩ := other
  simpa [Ids.list] using same

theorem ids_of_length {issued : List Int} (nine : issued.length = 9) :
    ∃ ids : Ids, issued = ids.list := by
  match issued, nine with
  | [owner, guest, guild, general, random, everyone, welcome, thanks, hint], _ =>
    exact ⟨⟨owner, guest, guild, general, random, everyone, welcome, thanks, hint⟩, rfl⟩

/-- Whatever the generator issues can be thought to go on. -/
theorem exists_ids {few : List Int} (increasing : few.Pairwise (· < ·)) (short : few.length ≤ 9) :
    ∃ ids : Ids, few <+: ids.list ∧ ids.list.Pairwise (· < ·) := by
  obtain ⟨top, above⟩ := few.toFinset.exists_le
  let more := (List.range (9 - few.length)).map fun i : Nat => top + 1 + (i : Int)
  have long : (few ++ more).length = 9 := by simp [more, short]
  have sorted : (few ++ more).Pairwise (· < ·) := by
    refine List.pairwise_append.mpr ⟨increasing, ?_, ?_⟩
    · refine List.pairwise_map.mpr (List.pairwise_lt_range.imp fun {i j} less => ?_)
      exact Int.add_lt_add_left (Int.ofNat_lt.mpr less) (top + 1)
    · intro id given other added
      obtain ⟨i, -, rfl⟩ := List.mem_map.mp added
      have : id ≤ top := above id (List.mem_toFinset.mpr given)
      change id < top + 1 + (i : Int)
      omega
  have begins : few <+: few ++ more := List.prefix_append few more
  obtain ⟨ids, all⟩ := ids_of_length long
  exact ⟨ids, all ▸ begins, all ▸ sorted⟩

/-- How seeding ends where the owner is missing, and what it leaves in the tables: all pieces, or
those before the first that is blocked. A clock that stands still keeps it waiting. -/
inductive Seeded (now : DateTime) (issued : List Int) (ids : Ids) (db : Database) :
    Except Stop (Option Drawn) → Database → Prop
  | complete {drawn : Drawn} (all : issued = ids.list)
      (free : ∀ piece ∈ ids.pieces now, ¬piece.Blocked db) (reported : drawn.report = ids.report) :
      Seeded now issued ids db (.ok (some drawn)) ((ids.pieces now).foldl Piece.enter db)
  | stopped {done rest : List Piece} {piece : Piece} {failure : Failure}
      (split : ids.pieces now = done ++ piece :: rest) (free : ∀ other ∈ done, ¬other.Blocked db)
      (blocked : piece.Blocked db) (stops : piece.Stops failure) :
      Seeded now issued ids db (.error (.store failure)) (done.foldl Piece.enter db)
  | waiting {done rest : List Piece} (short : issued.length < ids.list.length)
      (split : ids.pieces now = done ++ rest) (free : ∀ other ∈ done, ¬other.Blocked db) :
      Seeded now issued ids db (.error .clock) (done.foldl Piece.enter db)

/-- All pieces are written and reported, or the tables are as they were. -/
inductive AllOrNothing (now : DateTime) (ids : Ids) (db : Database) :
    Except Stop (Option Drawn) → Database → Prop
  | all {drawn : Drawn} (reported : drawn.report = ids.report) :
      AllOrNothing now ids db (.ok (some drawn)) ((ids.pieces now).foldl Piece.enter db)
  | skipped : AllOrNothing now ids db (.ok none) db
  | refused {fault : StoreError} : AllOrNothing now ids db (.error (.store (.store fault))) db

section Account

variable {now : DateTime} {ids : Ids} {db : Database}

def Ids.account (now : DateTime) (ids : Ids) : Piece :=
  .creation (.user ⟨ids.owner, "alice", "Alice", none, placeholderHash, now⟩)

theorem account_fits : (ids.account now).Fits ↔ fitsWord ids.owner = true := by
  simp [Piece.Fits, Ids.account, Piece.row, Creation.row, User.row, Table.cells, UserRow.cells,
    Cells.integers, Cell.ofText?]

theorem account_blocked (absent : ∀ user ∈ db.users, user.username ≠ "alice") :
    (ids.account now).Blocked db ↔
      ¬fitsWord ids.owner = true ∨ ∃ user ∈ db.users, user.id = ids.owner := by
  let account : User := ⟨ids.owner, "alice", "Alice", none, placeholderHash, now⟩
  have clashes : (Creation.user account).Clashes db ↔ ∃ user ∈ db.users, user.id = ids.owner :=
    ⟨fun ⟨user, stored, shared⟩ => ⟨user, stored, shared.resolve_right (absent user stored)⟩,
      fun ⟨user, stored, same⟩ => ⟨user, stored, Or.inl same⟩⟩
  exact or_congr (not_congr account_fits) clashes

theorem entered_ne {rest : List Piece} : (ids.account now :: rest).foldl Piece.enter db ≠ db := by
  intro same
  have added : ((ids.account now :: rest).foldl Piece.enter db).rows .users =
      db.rows .users ++ ((Piece.enter .empty (ids.account now)).rows .users ++
        (rest.foldl Piece.enter .empty).rows .users) := by
    rw [Piece.rows_entered, List.foldl_cons, Piece.rows_entered rest (Piece.enter _ _)]
  rw [same] at added
  exact List.cons_ne_nil _ _ (List.self_eq_append_right.mp added)

theorem allOrNothing_iff {issued : List Int} {outcome : Except Stop (Option Drawn)}
    {left : Database} (absent : ∀ user ∈ db.users, user.username ≠ "alice")
    (all : issued = ids.list) (seeded : Seeded now issued ids db outcome left) :
    AllOrNothing now ids db outcome left ↔ (∀ piece ∈ ids.pieces now, ¬piece.Blocked db) ∨
      fitsWord ids.owner = true ∧ ∃ user ∈ db.users, user.id = ids.owner := by
  have among : ids.account now ∈ ids.pieces now := List.mem_cons_self
  cases seeded with
  | complete _ free reported => exact iff_of_true (.all reported) (Or.inl free)
  | waiting short _ _ => exact absurd (all ▸ short) (Nat.lt_irrefl _)
  | @stopped done rest piece failure split free blocked stops =>
      have stuck : ¬∀ piece ∈ ids.pieces now, ¬piece.Blocked db := fun open? =>
        open? piece (split ▸ List.mem_append_right _ List.mem_cons_self) blocked
      cases done with
      | nil =>
          obtain rfl : ids.account now = piece := (List.cons.inj split).1
          cases stops with
          | overlong large =>
              refine iff_of_false (by rintro ⟨⟩) (not_or.mpr ⟨stuck, fun owned => ?_⟩)
              exact large (account_fits.mpr owned.1)
          | taken fits =>
              have held := account_fits.mp fits
              have taken := (account_blocked absent).mp blocked
              exact iff_of_true .refused (Or.inr ⟨held, taken.resolve_left (not_not.mpr held)⟩)
      | cons first done =>
          obtain rfl : ids.account now = first := (List.cons.inj split).1
          -- The account has gone in and stays, so the tables are not what they were.
          refine iff_of_false (fun whole => ?_) (not_or.mpr ⟨stuck, fun owned => ?_⟩)
          · generalize kept : (ids.account now :: done).foldl Piece.enter db = left at whole
            cases whole
            exact entered_ne kept
          · exact free _ List.mem_cons_self ((account_blocked absent).mpr (Or.inr owned.2))

end Account

theorem writes_begin (now : DateTime) {issued : List Int} {ids : Ids}
    (begins : issued <+: ids.list) :
    ∃ pieces, pieces <+: ids.pieces now ∧ writes now steps [] issued = pieces.map Piece.write := by
  have cut := writes_prefix now steps [] begins
  rw [writes_steps, List.prefix_iff_eq_take, ← List.map_take] at cut
  exact ⟨_, List.take_prefix _ _, cut⟩

theorem run_userByName (now : DateTime) (name : String) (origin : Origin) (db : Database)
    (versioned : Bool) :
    Storage.run now (.question (.userByName name)) ⟨some ⟨origin, db⟩, versioned⟩ =
      (.ok (.entity (((db.users.find? fun row => row.username = name).map UserRow.user).map .user)),
        ⟨some ⟨origin, db⟩, versioned⟩) := rfl

section Start

variable (now : DateTime) (origin : Origin) (versioned : Bool) {db : Database}
  (generator : Generator) (readings : List Int)

theorem populate_present (present : ∃ user ∈ db.users, user.username = ownerName) :
    populate now generator readings ⟨some ⟨origin, db⟩, versioned⟩ =
      (.ok none, ⟨⟨some ⟨origin, db⟩, versioned⟩, generator, readings, [], []⟩) := by
  obtain ⟨user, found⟩ : ∃ user, db.users.find? (fun row => row.username = ownerName) = some user :=
    Option.isSome_iff_exists.mp (List.find?_isSome.mpr (by simpa using present))
  rw [populate, run_userByName, found]
  rfl

theorem populate_absent (absent : ∀ user ∈ db.users, user.username ≠ ownerName) :
    let start : Progress := ⟨⟨some ⟨origin, db⟩, versioned⟩, generator, readings, [], []⟩
    let ended := takeAll now steps start
    populate now generator readings ⟨some ⟨origin, db⟩, versioned⟩ =
      (ended.1.map fun _ => some ended.2.drawn, ended.2) := by
  intro start ended
  have missing : db.users.find? (fun row => row.username = ownerName) = none :=
    List.find?_eq_none.mpr (by simpa using absent)
  rw [populate, run_userByName, missing]
  rfl

/-- The script of the community, from its first step on. -/
theorem takeAll_seeds (sound : db.Sound Catalog.declared) {ids : Ids}
    (begins : generator.issue 9 readings <+: ids.list) (increasing : ids.list.Pairwise (· < ·)) :
    let start : Progress := ⟨⟨some ⟨origin, db⟩, versioned⟩, generator, readings, [], []⟩
    let ended := takeAll now steps start
    ∃ left, ended.2.storage = ⟨some ⟨origin, left⟩, versioned⟩ ∧
      Seeded now (generator.issue 9 readings) ids db
        (ended.1.map fun _ => some ended.2.drawn) left := by
  intro start ended
  obtain ⟨pieces, ⟨rest, whole⟩, attempted⟩ := writes_begin now begins
  have ordered : Piece.Ordered [] pieces :=
    Piece.ordered_append (whole ▸ ordered_pieces now increasing)
  have assembled := perform_assembles now sound ordered
  obtain ⟨stored, outcome⟩ : ended.2.storage = ⟨some ⟨origin, (perform now
      (writes now steps [] (generator.issue 9 readings)) db).2⟩, versioned⟩ ∧
      ended.1 = verdict ((generator.issue 9 readings).length < 9) (perform now
        (writes now steps [] (generator.issue 9 readings)) db).1 :=
    takeAll_performs now origin versioned steps rfl
  rw [attempted] at stored outcome
  refine ⟨_, stored, ?_⟩
  generalize perform now (pieces.map Piece.write) db = performed at assembled outcome ⊢
  obtain ⟨result, left⟩ := performed
  dsimp only at assembled outcome ⊢
  cases assembled with
  | stopped split free blocked stops =>
      rw [outcome]
      have among := whole.symm.trans (congrArg (· ++ rest) split)
      rw [List.append_assoc, List.cons_append] at among
      exact .stopped among free blocked stops
  | complete free =>
      -- All pieces that were tried went in, but without readings there are fewer than the
      -- script has.
      by_cases short : (generator.issue 9 readings).length < 9
      · rw [outcome, verdict, if_pos short]
        exact .waiting short whole.symm free
      · rw [verdict, if_neg short] at outcome
        have all : generator.issue 9 readings = ids.list :=
          begins.eq_of_length_le (Nat.not_lt.mp short)
        have drawn : ended.2.drawn =
            ((slots steps).zip (generator.issue 9 readings)).reverse ++ [] :=
          takeAll_drawn now steps outcome
        rw [all, writes_steps] at attempted
        have prefixed : pieces <+: ids.pieces now := ⟨rest, whole⟩
        have same : pieces = ids.pieces now :=
          prefixed.eq_of_length (by simpa using (congrArg List.length attempted).symm)
        rw [all, List.append_nil] at drawn
        rw [outcome, drawn]
        subst same
        exact .complete all free (report_drawn ids)

end Start

/-- Seeding writes nothing where the owner is there. Elsewhere it writes the community piece by
piece, up to the first that is blocked: those before it stay, and identifiers that a clock keeps
back may be any. So with all identifiers it is all or nothing only where nothing is blocked, or
where a stored user has the owner's identifier. -/
theorem seeding_exact (past : Run) (origin : Origin) (versioned : Bool) (now : DateTime)
    (generator : Generator) (readings : List Int) :
    let storage (db : Database) : Storage := ⟨some ⟨origin, db⟩, versioned⟩
    let db := past.after .empty
    let issued := generator.issue 9 readings
    let ended := populate now generator readings (storage db)
    ((∃ user ∈ db.users, user.username = "alice") →
      ended.1 = .ok none ∧ ended.2.storage = storage db) ∧
    ((∀ user ∈ db.users, user.username ≠ "alice") →
      ∃ (ids : Ids) (left : Database), issued <+: ids.list ∧ ids.list.Pairwise (· < ·) ∧
        Seeded now issued ids db ended.1 left ∧ ended.2.storage = storage left) ∧
    ∀ ids : Ids, issued = ids.list → ∃ left, ended.2.storage = storage left ∧
      (AllOrNothing now ids db ended.1 left ↔ (∃ user ∈ db.users, user.username = "alice") ∨
        (∀ piece ∈ ids.pieces now, ¬piece.Blocked db) ∨
          fitsWord ids.owner = true ∧ ∃ user ∈ db.users, user.id = ids.owner) := by
  intro storage db issued ended
  have skips : (∃ user ∈ db.users, user.username = "alice") →
      ended.1 = .ok none ∧ ended.2.storage = storage db := by
    intro present
    have skipped : ended = _ := populate_present now origin versioned generator readings present
    rw [skipped]
    exact ⟨rfl, rfl⟩
  have seeds : (∀ user ∈ db.users, user.username ≠ "alice") →
      ∃ (ids : Ids) (left : Database), issued <+: ids.list ∧ ids.list.Pairwise (· < ·) ∧
        Seeded now issued ids db ended.1 left ∧ ended.2.storage = storage left := by
    intro absent
    obtain ⟨ids, begins, increasing⟩ :=
      exists_ids (issue_increasing 9 generator readings) (issue_length_le 9 generator readings)
    have sound : db.Sound Catalog.declared := reachable_sound (reachable_after past)
    obtain ⟨left, stored, seeded⟩ :=
      takeAll_seeds now origin versioned generator readings sound begins increasing
    have started : ended = _ := populate_absent now origin versioned generator readings absent
    rw [started]
    exact ⟨ids, left, begins, increasing, seeded, stored⟩
  refine ⟨skips, seeds, fun ids all => ?_⟩
  by_cases present : ∃ user ∈ db.users, user.username = "alice"
  · obtain ⟨none, kept⟩ := skips present
    exact ⟨db, kept, iff_of_true (none ▸ .skipped) (Or.inl present)⟩
  · have absent : ∀ user ∈ db.users, user.username ≠ "alice" := by simpa using present
    obtain ⟨others, left, begins, -, seeded, stored⟩ := seeds absent
    obtain rfl : others = ids :=
      ids_of_list (begins.eq_of_length (by rw [all]; rfl) ▸ all)
    exact ⟨left, stored, (allOrNothing_iff absent all seeded).trans
      (or_iff_right present).symm⟩

theorem community_skipped_or_whole :
    let storage (db : Database) : Storage := ⟨some ⟨.declared, db⟩, false⟩
    let generator : Generator := .fresh ⟨⟨0, by decide⟩, ⟨0, by decide⟩⟩
    let readings : List Int := List.replicate 9 7
    let known : Run := [Write.event noon (.createUser ⟨2, "alice", "Alice", none, "x", noon⟩)]
    let skipped := populate noon generator readings (storage (known.after .empty))
    let new : Run := []
    let written := populate noon generator readings (storage (new.after .empty))
    ((∃ user ∈ (known.after .empty).users, user.username = "alice") ∧
      skipped.1 = .ok none ∧ skipped.2.storage = storage (known.after .empty)) ∧
    (∀ user ∈ (new.after .empty).users, user.username ≠ "alice") ∧
    ∃ ids : Ids, generator.issue 9 readings = ids.list ∧
      written.2.storage = storage ((ids.pieces noon).foldl Piece.enter (new.after .empty)) ∧
      ∃ left, written.2.storage = storage left ∧
        AllOrNothing noon ids (new.after .empty) written.1 left := by
  intro storage generator readings known skipped new written
  have present : ∃ user ∈ (known.after .empty).users, user.username = "alice" :=
    ⟨_, List.mem_cons_self, rfl⟩
  have absent : ∀ user ∈ (new.after .empty).users, user.username ≠ "alice" :=
    List.forall_mem_nil _
  refine ⟨⟨present, ?_⟩, absent, ?_⟩
  · exact (seeding_exact known .declared false noon generator readings).1 present
  · have law := (seeding_exact new .declared false noon generator readings).2
    obtain ⟨ids, left, -, -, seeded, stored⟩ := law.1 absent
    have whole : written.1.isOk = true := by decide +kernel
    change Seeded _ _ _ _ written.1 _ at seeded
    obtain ⟨all, free, kept⟩ : generator.issue 9 readings = ids.list ∧
        (∀ piece ∈ ids.pieces noon, ¬piece.Blocked (new.after .empty)) ∧
        left = (ids.pieces noon).foldl Piece.enter (new.after .empty) := by
      generalize written.1 = outcome at whole seeded
      cases seeded with
      | complete all free _ => exact ⟨all, free, rfl⟩
      | _ => cases whole
    obtain ⟨same, stays, settled⟩ := law.2 ids all
    rw [kept] at stored
    refine ⟨ids, all, ?_, same, ?_, settled.mpr (Or.inr (Or.inl free))⟩
    · dsimp only [written, storage] at stored ⊢
      exact stored
    · dsimp only [written, storage] at stays ⊢
      exact stays

/-- Where the guest's name is taken the owner's account goes in and nothing else, and from then on
seeding takes the community for written. -/
theorem owner_left_alone :
    let storage (db : Database) : Storage := ⟨some ⟨.declared, db⟩, false⟩
    let past : Run := [Write.event noon (.createUser ⟨2, "bob", "Bob", none, "x", noon⟩)]
    let db := past.after .empty
    let generator : Generator := .fresh ⟨⟨0, by decide⟩, ⟨0, by decide⟩⟩
    let readings : List Int := List.replicate 9 7
    let ended := populate noon generator readings (storage db)
    ended.1 = .error (.store (.store (.duplicate "users.username"))) ∧
      ended.2.storage = storage { db with
        users := db.users ++ [⟨29360128, "alice", "Alice", none, "!", noon.wall⟩] } ∧
      ended.2.storage ≠ storage db ∧
      (populate noon generator readings ended.2.storage).1 = .ok none := by
  decide +kernel

end Demo

end Guildhall
