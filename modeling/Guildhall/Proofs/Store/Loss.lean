import Guildhall.Proofs.Store.Removal

/-!
Which rows a removal takes along, table by table: users and guilds go by themselves only, channels
and roles also with their guild, and what hangs on these with any of them.
-/

namespace Guildhall

namespace Removal

def naming : (table : Table) → table.Row → Option Removal
  | .users, row => some (user row.id)
  | .guilds, row => some (guild row.id)
  | .members, row => some (member row.guildId row.userId)
  | .roles, row => some (role row.id)
  | .channels, row => some (channel row.id)
  | .messages, row => some (message row.id)
  | _, _ => none

/-- The row goes with the row that the removal names. -/
def Takes (removal : Removal) (db : Database) (table : Table) (row : table.Row) : Prop :=
  Falls Catalog.declared db removal.table removal.chosen table row

section Rows

variable {removal : Removal} {db : Database}

theorem chosen_of_naming {table : Table} {row : table.Row}
    (names : naming table row = some removal) :
    ∃ same : table = removal.table, removal.chosen (same ▸ row) = true := by
  cases table <;> cases names <;> exact ⟨rfl, by simp [chosen]⟩

theorem naming_of_chosen {row : removal.table.Row} (picked : removal.chosen row = true) :
    naming removal.table row = some removal := by
  cases removal <;> simp_all [chosen, naming]

/-- A row goes because it is named, or because it refers to a row that goes. -/
theorem takes_iff {table : Table} {row : table.Row} :
    removal.Takes db table row ↔ row ∈ db.rows table ∧
      (naming table row = some removal ∨
        ∃ reference ∈ (Catalog.declared table).references, reference.onDelete = .cascade ∧
          ∃ target, reference.Names table row target ∧
            removal.Takes db reference.target target) := by
  constructor
  · intro takes
    cases takes with
    | chosen stored picked => exact ⟨stored, Or.inl (naming_of_chosen picked)⟩
    | dragged stored declared cascades names falls =>
        exact ⟨stored, Or.inr ⟨_, declared, cascades, _, names, falls⟩⟩
  · rintro ⟨stored, named | ⟨reference, declared, cascades, target, names, takes⟩⟩
    · obtain ⟨rfl, picked⟩ := chosen_of_naming named
      exact .chosen stored picked
    · exact .dragged stored declared cascades names takes

theorem dragged_iff {table target : Table} {column : String} {row : table.Row} {source : Int}
    (id : target.Row → Int) (named : table.key? [column] row = some [.int source])
    (keyed : ∀ other, target.key? ["id"] other = some [.int (id other)]) :
    (∃ other, (Reference.to column target .cascade).Names table row other ∧
      removal.Takes db target other) ↔
        ∃ other, id other = source ∧ removal.Takes db target other := by
  refine exists_congr fun other => and_congr_left fun _ => ?_
  have names : (Reference.to column target .cascade).Names table row other ↔
      some source = some (id other) := names_to named (keyed other)
  rw [names, Option.some.injEq, eq_comm]

theorem takes_user {row : UserRow} :
    removal.Takes db .users row ↔ row ∈ db.users ∧ removal = user row.id := by
  rw [takes_iff]
  refine and_congr_right fun _ => (or_iff_left ?_).trans ?_
  · rintro ⟨reference, declared, -⟩
    cases declared
  · exact Option.some_inj.trans eq_comm

theorem takes_guild {row : GuildRow} :
    removal.Takes db .guilds row ↔ row ∈ db.guilds ∧ removal = guild row.id := by
  rw [takes_iff]
  refine and_congr_right fun _ => (or_iff_left ?_).trans ?_
  · rintro ⟨reference, declared, cascades, -⟩
    obtain rfl := List.mem_singleton.mp declared
    cases cascades
  · exact Option.some_inj.trans eq_comm

theorem exists_guild {source : Int} (known : ∃ row ∈ db.guilds, row.id = source) :
    (∃ row : GuildRow, row.id = source ∧ removal.Takes db .guilds row) ↔
      removal = guild source := by
  simp only [takes_guild]
  constructor
  · rintro ⟨row, rfl, -, same⟩
    exact same
  · rintro rfl
    obtain ⟨row, stored, rfl⟩ := known
    exact ⟨row, rfl, stored, rfl⟩

theorem exists_user {source : Int} (known : ∃ row ∈ db.users, row.id = source) :
    (∃ row : UserRow, row.id = source ∧ removal.Takes db .users row) ↔
      removal = user source := by
  simp only [takes_user]
  constructor
  · rintro ⟨row, rfl, -, same⟩
    exact same
  · rintro rfl
    obtain ⟨row, stored, rfl⟩ := known
    exact ⟨row, rfl, stored, rfl⟩

theorem takes_override {row : ChannelOverride} : removal.Takes db .channelOverrides row ↔
    row ∈ db.channelOverrides ∧
      ((∃ place : ChannelRow, place.id = row.channelId ∧ removal.Takes db .channels place) ∨
        ∃ role : Role, role.id = row.roleId ∧ removal.Takes db .roles role) := by
  rw [takes_iff]
  refine and_congr_right fun stored => (or_iff_right (by rintro ⟨⟩)).trans ?_
  rw [← @dragged_iff removal db .channelOverrides .channels "channel_id" row row.channelId
      ChannelRow.id rfl fun _ => rfl,
    ← @dragged_iff removal db .channelOverrides .roles "role_id" row row.roleId Role.id
      rfl fun _ => rfl]
  simp [Catalog.declared, Reference.to]

end Rows

section Declared

variable {removal : Removal} {db : Database} (consistent : db.Consistent)

include consistent

theorem takes_channel {row : ChannelRow} : removal.Takes db .channels row ↔
    row ∈ db.channels ∧ (removal = channel row.id ∨ removal = guild row.guildId) := by
  rw [takes_iff]
  refine and_congr_right fun stored => or_congr (Option.some_inj.trans eq_comm) ?_
  rw [← exists_guild (consistent.channelGuild row stored),
    ← @dragged_iff removal db .channels .guilds "guild_id" row row.guildId GuildRow.id rfl
      fun _ => rfl]
  simp [Catalog.declared, Reference.to]

theorem takes_role {row : Role} : removal.Takes db .roles row ↔
    row ∈ db.roles ∧ (removal = role row.id ∨ removal = guild row.guildId) := by
  rw [takes_iff]
  refine and_congr_right fun stored => or_congr (Option.some_inj.trans eq_comm) ?_
  rw [← exists_guild (consistent.roleGuild row stored),
    ← @dragged_iff removal db .roles .guilds "guild_id" row row.guildId GuildRow.id rfl
      fun _ => rfl]
  simp [Catalog.declared, Reference.to]

theorem takes_readState {row : ReadStateRow} : removal.Takes db .readStates row ↔
    row ∈ db.readStates ∧ removal = user row.userId := by
  rw [takes_iff]
  refine and_congr_right fun stored => (or_iff_right (by rintro ⟨⟩)).trans ?_
  rw [← exists_user (consistent.readStateUser row stored),
    ← @dragged_iff removal db .readStates .users "user_id" row row.userId UserRow.id rfl
      fun _ => rfl]
  simp [Catalog.declared, Reference.to]

theorem takes_voiceState {row : VoiceStateRow} : removal.Takes db .voiceStates row ↔
    row ∈ db.voiceStates ∧ (removal = guild row.guildId ∨ removal = user row.userId ∨
      ∃ place : ChannelRow, place.id = row.channelId ∧ removal.Takes db .channels place) := by
  rw [takes_iff]
  refine and_congr_right fun stored => (or_iff_right (by rintro ⟨⟩)).trans ?_
  rw [← exists_guild (consistent.voiceStateGuild row stored),
    ← exists_user (consistent.voiceStateUser row stored),
    ← @dragged_iff removal db .voiceStates .guilds "guild_id" row row.guildId GuildRow.id rfl
      fun _ => rfl,
    ← @dragged_iff removal db .voiceStates .users "user_id" row row.userId UserRow.id rfl
      fun _ => rfl,
    ← @dragged_iff removal db .voiceStates .channels "channel_id" row row.channelId ChannelRow.id
      rfl fun _ => rfl]
  simp [Catalog.declared, Reference.to]

end Declared

end Removal

end Guildhall
