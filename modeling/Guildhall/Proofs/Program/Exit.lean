import Guildhall.Program.Job
import Guildhall.Proofs.Demo.Community
import Guildhall.Proofs.Snowflake.Layout

/-!
The exit codes of a run on a local storage. Setting up the tables always ends with one, and so does
seeding, unless the numbers of the node are out of range or the clock has come to a time whose
identifiers no table can hold.
-/

namespace Guildhall

open Calendar Snowflake

/-- The storage holds the tables, or none as long as they are empty. -/
def Storage.StandsAt (storage : Storage) (db : Database) : Prop :=
  (storage.tables = none ∧ db = .empty) ∨ ∃ origin, storage.tables = some ⟨origin, db⟩

theorem Storage.setUp_standsAt {storage : Storage} {db : Database} (stands : storage.StandsAt db) :
    ∃ origin, storage.setUp = ⟨some ⟨origin, db⟩, storage.versioned⟩ := by
  obtain ⟨tables, versioned⟩ := storage
  rcases stands with ⟨rfl, rfl⟩ | ⟨origin, rfl⟩
  · exact ⟨.declared, rfl⟩
  · exact ⟨origin, rfl⟩

namespace Demo

/-- Something that no table can hold is to be written before a stored row is in the way. -/
def Overruns (now : DateTime) (ids : Ids) (db : Database) : Prop :=
  ∃ done piece rest, ids.pieces now = done ++ piece :: rest ∧
    (∀ other ∈ done, ¬other.Blocked db) ∧ ¬piece.Fits

theorem fits_pieces (now : DateTime) {ids : Ids} (fits : ∀ id ∈ ids.list, fitsWord id = true) :
    ∀ piece ∈ ids.pieces now, piece.Fits := by
  obtain ⟨owner, guest, guild, general, random, everyone, welcome, thanks, hint⟩ := ids
  simp only [Ids.list, List.forall_mem_cons] at fits
  have fixed : fitsWord 0 = true ∧ fitsWord 1 = true ∧ fitsWord everyonePermissions = true := by
    decide
  simp only [Ids.pieces, List.forall_mem_cons]
  refine ⟨?_, ?_, ?_, ?_, ?_, ?_, ?_, ?_, ?_, ?_, ?_, ?_, ?_⟩
  all_goals simp [Piece.Fits, Piece.row, Creation.row, Table.cells, User.row, UserRow.cells,
    Guild.row, GuildRow.cells, Channel.row, ChannelRow.cells, Role.cells, Member.row,
    MemberRow.cells, MemberRoleRow.cells, Message.row, MessageRow.cells, Cells.integers,
    Cell.ofInt?, Cell.ofText?, Cell.ofTime?, ChannelKind.code, fits, fixed]

section Absent

variable (now : DateTime) (origin : Origin) (versioned : Bool) {db : Database}
  {generator : Generator} {readings : List Int} {ids : Ids}

theorem populate_seeds (sound : db.Sound Catalog.declared)
    (absent : ∀ user ∈ db.users, user.username ≠ ownerName)
    (issued : generator.issue 9 readings = ids.list) :
    ∃ left, Seeded now (generator.issue 9 readings) ids db
      (populate now generator readings ⟨some ⟨origin, db⟩, versioned⟩).1 left := by
  have increasing : ids.list.Pairwise (· < ·) := issued ▸ issue_increasing 9 generator readings
  obtain ⟨left, -, seeded⟩ := takeAll_seeds now origin versioned generator readings sound
    (issued ▸ List.prefix_rfl) increasing
  rw [populate_absent now origin versioned generator readings absent]
  exact ⟨left, seeded⟩

theorem populate_overruns (sound : db.Sound Catalog.declared)
    (absent : ∀ user ∈ db.users, user.username ≠ ownerName)
    (issued : generator.issue 9 readings = ids.list) (overruns : Overruns now ids db) :
    (populate now generator readings ⟨some ⟨origin, db⟩, versioned⟩).1 =
      .error (.store .tooLarge) := by
  obtain ⟨first, piece, others, parts, bare, overlong⟩ := overruns
  have stuck : piece.Blocked db := Piece.blocked_of_overlong overlong
  obtain ⟨left, seeded⟩ := populate_seeds now origin versioned sound absent issued
  generalize (populate now generator readings ⟨some ⟨origin, db⟩, versioned⟩).1 = ended at seeded ⊢
  cases seeded with
  | complete all free reported =>
      exact absurd stuck (free piece (parts ▸ List.mem_append_right _ List.mem_cons_self))
  | stopped split free blocked stops =>
      obtain ⟨rfl, rfl⟩ := Piece.first_blocked (parts.symm.trans split) bare free stuck blocked
      cases stops with
      | overlong _ => rfl
      | taken fits => exact absurd fits overlong
  | waiting short _ _ => exact absurd (issued ▸ short) (Nat.lt_irrefl _)

theorem populate_settles (sound : db.Sound Catalog.declared)
    (absent : ∀ user ∈ db.users, user.username ≠ ownerName)
    (issued : generator.issue 9 readings = ids.list) (settled : ¬Overruns now ids db) :
    let ended := (populate now generator readings ⟨some ⟨origin, db⟩, versioned⟩).1
    (∃ drawn, ended = .ok (some drawn)) ∨
      ∃ columns, ended = .error (.store (.store (.duplicate columns))) := by
  intro ended
  obtain ⟨left, seeded⟩ := populate_seeds now origin versioned sound absent issued
  change Seeded _ _ _ _ ended left at seeded
  generalize ended = outcome at seeded ⊢
  cases seeded with
  | complete all free reported => exact Or.inl ⟨_, rfl⟩
  | stopped split free blocked stops =>
      cases stops with
      | overlong large => exact absurd ⟨_, _, _, split, free, large⟩ settled
      | taken fits => exact Or.inr ⟨_, rfl⟩
  | waiting short split free => exact absurd (issued ▸ short) (Nat.lt_irrefl _)

end Absent

end Demo

namespace Program

def Ending.IsCode (ending : Ending) : Prop := ∃ code ≤ 1, ending = .exit code

/-- What keeps seeding from an exit code: the numbers of the node are out of range, or there is no
owner yet and something that no table can hold is written first. -/
inductive Misfires (settings : Settings) (now : DateTime) (readings : List Int) (db : Database) :
    Prop where
  | node (outside : ¬((0 ≤ settings.workerId ∧ settings.workerId ≤ 31) ∧
      0 ≤ settings.processId ∧ settings.processId ≤ 31))
  | clock {node : Node} {ids : Demo.Ids}
      (made : Node.ofInts settings.workerId settings.processId = .ok node)
      (absent : ∀ user ∈ db.users, user.username ≠ "alice")
      (issued : (Generator.fresh node).issue 9 readings = ids.list)
      (overruns : Demo.Overruns now ids db)

section Seeding

variable {job : Job} {now : DateTime} {readings : List Int} {storage : Storage} {node : Node}

def endingOf : Except Demo.Stop (Option Demo.Drawn) → Ending
  | .ok _ => .exit 0
  | .error (.store (.store _)) => .exit 1
  | .error (.store failure) => .escape (.failure failure)
  | .error .clock => .escape .clock

theorem ending_seed (made : Node.ofInts job.settings.workerId job.settings.processId = .ok node) :
    (job.seed now readings storage).ending =
      endingOf (Demo.populate now (.fresh node) readings storage).1 := by
  simp only [Job.seed, made, Demo.seed]
  generalize Demo.populate now (.fresh node) readings storage = ended
  obtain ⟨outcome, progress⟩ := ended
  match outcome with
  | .ok none => rfl
  | .ok (some _) => rfl
  | .error (.store failure) => cases failure <;> rfl
  | .error .clock => rfl

/-- With nine readings the clock keeps nobody waiting. -/
theorem seed_isCode_iff (origin : Origin) (versioned : Bool) {db : Database}
    (sound : db.Sound Catalog.declared) (enough : 9 ≤ readings.length) :
    (job.seed now readings ⟨some ⟨origin, db⟩, versioned⟩).ending.IsCode ↔
      ¬Misfires job.settings now readings db := by
  cases made : Node.ofInts job.settings.workerId job.settings.processId with
  | error fault =>
      have outside : Misfires job.settings now readings db := .node fun inside => by
        obtain ⟨node, other, -⟩ := ofInts_ok inside.1 inside.2
        cases made.symm.trans other
      refine ⟨?_, fun fires => absurd outside fires⟩
      rintro ⟨code, -, ended⟩
      rw [Job.seed, made] at ended
      cases ended
  | ok node =>
      have inside := ofInts_range made
      rw [ending_seed made]
      -- Where the owner is there no identifier is drawn, so that the clock does not matter.
      by_cases absent : ∀ user ∈ db.users, user.username ≠ Demo.ownerName
      · obtain ⟨ids, issued⟩ : ∃ ids : Demo.Ids,
            (Generator.fresh node).issue 9 readings = ids.list :=
          Demo.ids_of_length (issue_length 9 enough (show 0 + 9 < sequenceCount by decide))
        by_cases overruns : Demo.Overruns now ids db
        · rw [Demo.populate_overruns now origin versioned sound absent issued overruns]
          refine ⟨?_, fun fires => absurd (.clock made absent issued overruns) fires⟩
          rintro ⟨code, -, ended⟩
          cases ended
        · refine ⟨fun _ => ?_, fun _ => ?_⟩
          · rintro (outside | ⟨also, -, others, elsewhere⟩)
            · exact outside inside
            · obtain rfl := Except.ok.inj (made.symm.trans also)
              obtain rfl := Demo.ids_of_list (issued.symm.trans others)
              exact overruns elsewhere
          · rcases Demo.populate_settles now origin versioned sound absent issued overruns with
              ⟨drawn, ended⟩ | ⟨columns, ended⟩
            · exact ⟨0, Nat.zero_le 1, by rw [ended, endingOf]⟩
            · exact ⟨1, Nat.le_refl 1, by rw [ended, endingOf]⟩
      · simp only [not_forall, not_not] at absent
        obtain ⟨user, stored, named⟩ := absent
        rw [Demo.populate_present now origin versioned _ readings ⟨user, stored, named⟩]
        refine ⟨fun _ => ?_, fun _ => ⟨0, Nat.zero_le 1, rfl⟩⟩
        rintro (outside | ⟨-, absent, -, -⟩)
        · exact outside inside
        · exact absent user stored named

theorem perform_isCode_iff (origin : Origin) (versioned : Bool) {db : Database}
    (sound : db.Sound Catalog.declared) (enough : 9 ≤ readings.length) :
    (job.perform now readings ⟨some ⟨origin, db⟩, versioned⟩).ending.IsCode ↔
      ¬(job.work = .seed ∧ Misfires job.settings now readings db) := by
  unfold Job.perform
  cases job.work with
  | setUp => exact iff_of_true ⟨0, Nat.zero_le 1, rfl⟩ (by simp)
  | seed => simpa using seed_isCode_iff origin versioned sound enough

/-- As long as the clock reads no time beyond 41 bits only the node can be at fault. -/
theorem not_misfires {settings : Settings} {db : Database}
    (inside : (0 ≤ settings.workerId ∧ settings.workerId ≤ 31) ∧
      0 ≤ settings.processId ∧ settings.processId ≤ 31)
    (early : ∀ reading ∈ readings, reading < 2 ^ 41) : ¬Misfires settings now readings db := by
  rintro (outside | @⟨node, ids, -, -, issued, done, piece, rest, split, -, overlong⟩)
  · exact outside inside
  · have fits : ∀ id ∈ ids.list, fitsWord id = true := fun id member =>
      (issued_fits early (issued ▸ member)).1
    refine overlong (Demo.fits_pieces now fits piece ?_)
    rw [split]
    exact List.mem_append_right _ List.mem_cons_self

end Seeding

/-- The connection leads to the storage at the place. What a driver makes of the options of an
address is left aside: there are none. -/
structure Leads (connection : Connection) (place : Place) (storage : Storage) : Prop where
  plain : connection.address.options = []
  found : (locationOf connection).storage place = .ok storage

/-- The tables of a local storage, in whatever state, are set up with an exit code. Seeding ends
with one exactly if the numbers of the node are in range and nothing that no table can hold comes to
be written. The first is all that it takes as long as the clock reads no time beyond 41 bits. -/
theorem exits_iff {env : Environment} {files : Files} {settings : Settings}
    {connection : Connection} {place : Place} {storage : Storage} {past : Run} (work : Work)
    (now : DateTime) {readings : List Int}
    (loaded : Settings.load env files none = .ok settings)
    (opened : Connection.open? settings = .ok connection)
    (usable : Leads connection place storage)
    (stands : storage.StandsAt (past.after .empty)) (enough : 9 ≤ readings.length) :
    ∃ job, start env files [work.name] = .job job ∧
      let ending := (job.run now readings (job.location.storage place)).1.ending
      (ending.IsCode ↔ ¬(work = .seed ∧ Misfires settings now readings (past.after .empty))) ∧
      ((∀ reading ∈ readings, reading < 2 ^ 41) → (ending.IsCode ↔ work = .setUp ∨
        (0 ≤ settings.workerId ∧ settings.workerId ≤ 31) ∧
          0 ≤ settings.processId ∧ settings.processId ≤ 31)) := by
  let job : Job := ⟨work, settings, connection⟩
  have started : start env files [work.name] = .job job := by
    have request : Reading.of [work.name] = .request ⟨none, .perform work⟩ := by
      cases work <;> decide +kernel
    simp only [start, request, begin, loaded, opened, job]
  have found : job.location.storage place = .ok storage := usable.found
  obtain ⟨origin, ready⟩ := Storage.setUp_standsAt stands
  have sound : (past.after .empty).Sound Catalog.declared :=
    reachable_sound (reachable_after past)
  refine ⟨job, started, ?_⟩
  have codes : (job.run now readings (.ok storage)).1.ending.IsCode ↔
      ¬(work = .seed ∧ Misfires settings now readings (past.after .empty)) := by
    change (job.perform now readings storage.setUp).ending.IsCode ↔ _
    rw [ready]
    exact perform_isCode_iff origin storage.versioned sound enough
  rw [found]
  refine ⟨codes, fun early => codes.trans ⟨fun spared => ?_, ?_⟩⟩
  · cases work with
    | setUp => exact Or.inl rfl
    | seed => exact Or.inr (not_not.mp fun outside => spared ⟨rfl, .node outside⟩)
  · rintro (rfl | inside) ⟨seeds, fires⟩
    · cases seeds
    · exact not_misfires inside early fires

theorem odd_settings_exit :
    let env : Environment := fun name =>
      if name = "DATABASE_URL" then some "sqlite:///guild.db"
      else if name = "DB_POOL_SIZE" then some "-3"
      else if name = "LOG_LEVEL" then some "loud"
      else if name = "SNOWFLAKE_WORKER_ID" then some "31"
      else none
    let files : Files := fun _ => .absent
    let settings : Settings :=
      { Settings.ofUrl "sqlite:///guild.db" with poolSize := -3, workerId := 31 }
    let connection : Connection :=
      ⟨.sqlite, ⟨"sqlite", none, none, none, none, some "guild.db", []⟩, false, .references⟩
    let past : Run := []
    let readings : List Int := [-5, 7, 3, 3, 3, 3, 3, 3, 2199023255551]
    Settings.load env files none = .ok settings ∧ Connection.open? settings = .ok connection ∧
      Leads connection .absent .blank ∧ Storage.blank.StandsAt (past.after .empty) ∧
      9 ≤ readings.length ∧
      ∃ job, start env files ["seed"] = .job job ∧
        (job.run noon readings (job.location.storage .absent)).1.ending.IsCode := by
  intro env files settings connection past readings
  have loaded : Settings.load env files none = .ok settings := by decide +kernel
  have opened : Connection.open? settings = .ok connection := by decide +kernel
  have usable : Leads connection .absent .blank := ⟨rfl, rfl⟩
  have stands : Storage.blank.StandsAt (past.after .empty) := Or.inl ⟨rfl, rfl⟩
  have enough : 9 ≤ readings.length := by decide
  have early : ∀ reading ∈ readings, reading < 2 ^ 41 := by decide
  obtain ⟨job, started, -, codes⟩ := exits_iff .seed noon loaded opened usable stands enough
  refine ⟨loaded, opened, usable, stands, enough, job, started, (codes early).mpr (Or.inr ?_)⟩
  decide

/-- A number that no node has is taken for a setting, and ends the program when it is put to use. -/
theorem worker_beyond_range_escapes :
    let env : Environment := fun name =>
      if name = "DATABASE_URL" then some "sqlite://"
      else if name = "SNOWFLAKE_WORKER_ID" then some "32"
      else none
    let files : Files := fun _ => .absent
    let settings : Settings := { Settings.ofUrl "sqlite://" with workerId := 32 }
    let connection : Connection :=
      ⟨.sqlite, ⟨"sqlite", none, none, none, none, none, []⟩, false, .references⟩
    let job : Job := ⟨.seed, settings, connection⟩
    Settings.load env files none = .ok settings ∧ start env files ["seed"] = .job job ∧
      (job.run noon (List.replicate 9 7) (job.location.storage .absent)).1.ending =
        .escape (.node .workerOutOfRange) := by
  decide +kernel

end Program

end Guildhall
