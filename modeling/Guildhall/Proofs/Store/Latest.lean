import Guildhall.Proofs.Store.Keyed
import Guildhall.Proofs.Store.Retrieval

/-!
Voice states and overrides are what their history says. A voice state is where the user went last,
since the user first came; an override is what was last set, and nothing of what was set before.
-/

namespace Guildhall

namespace VoiceStates

/-- The voice state of a user in a guild: a user who moves on keeps the time of joining. -/
def register (guildId userId : Int) : Register VoiceState VoiceStateRow where
  rows db := db.voiceStates.filter (isOf guildId userId)
  Puts state event db := (state.guildId = guildId ∧ state.userId = userId) ∧
    event.Does (.upsertVoiceState state) db
  Ends event db := event.Does (.deleteVoiceState guildId userId) db ∨
    event.Does (.deleteUser userId) db ∨ event.Does (.deleteGuild guildId) db ∨
      ∃ row ∈ db.voiceStates.filter (isOf guildId userId), event.RemovesChannel row.channelId db
  fresh := VoiceState.row
  renew state row := { state.row with joinedAt := row.joinedAt }

section Register

variable {guildId userId : Int} {event : Event} {db : Database}

theorem isOf_iff {row : VoiceStateRow} :
    isOf guildId userId row = true ↔ row.guildId = guildId ∧ row.userId = userId := by
  simp [isOf]

theorem about_voiceStates {write : Write} (about : write.table = .voiceStates) :
    (∃ state, write = .upsertVoiceState state) ∨
      ∃ guildId userId, write = .deleteVoiceState guildId userId := by
  cases write <;> simp_all [Write.table]

theorem ends_iff {row : VoiceStateRow} (consistent : db.Consistent)
    (alone : (register guildId userId).rows db = [row]) :
    (register guildId userId).Ends event db ↔
      event.Does (.deleteVoiceState guildId userId) db ∨ event.Takes .voiceStates row db := by
  have present : row ∈ (register guildId userId).rows db := by simp [alone]
  obtain ⟨stored, picked⟩ := List.mem_filter.mp present
  obtain ⟨rfl, rfl⟩ := isOf_iff.mp picked
  have current : (∃ other ∈ (register row.guildId row.userId).rows db,
      event.RemovesChannel other.channelId db) ↔ event.RemovesChannel row.channelId db := by
    simp [alone]
  rw [takesVoiceState_iff consistent stored]
  exact or_congr_right (or_congr_right (or_congr_right current))

theorem keyed_register (guildId userId : Int) :
    @Register.Keyed VoiceState .voiceStates (register guildId userId) (isOf guildId userId)
      .upsertVoiceState (.deleteVoiceState guildId userId) where
  aloof := ⟨by decide, by decide, by decide⟩
  leaf := by decide
  rows_eq _ := rfl
  identity := ⟨[.int guildId, .int userId], fun row => by simp [isOf, Table.identity]⟩
  puts_iff := and_congr_left fun _ => by simp [register, isOf, VoiceState.row]
  put_injective _ _ same := Write.upsertVoiceState.inj same
  statement_put _ _ := rfl
  steady _ _ same := same
  statement_drop := ⟨_, fun _ => rfl⟩
  only write about := by
    rcases about_voiceStates about with ⟨state, rfl⟩ | ⟨guild, user, rfl⟩
    · exact Or.inl ⟨state, rfl⟩
    · by_cases key : guild = guildId ∧ user = userId
      · obtain ⟨rfl, rfl⟩ := key
        exact Or.inr (Or.inl rfl)
      · refine Or.inr (Or.inr ⟨_, _, fun _ => rfl, fun row named => ?_⟩)
        obtain ⟨rfl, rfl⟩ := isOf_iff.mp named
        exact Bool.eq_false_iff.mpr fun picked => key (isOf_iff.mp picked)
  ends_iff := ends_iff
  ends_apart := by
    rintro state event db ends puts
    rcases ends with does | does | does | ⟨row, -, does | ⟨place, -, -, does⟩⟩ <;>
      cases does_only puts.1 does
  renew_fresh _ := rfl
  renew_renew _ _ _ := rfl

theorem answers_voiceState (db : Database) (fits : [guildId, userId].all fitsWord = true) :
    (Question.voiceState guildId userId).Answers db (.entity
      (((register guildId userId).rows db).head?.map fun row => .voiceState row.state)) := by
  have answer : (Question.voiceState guildId userId).Answers db (.entity
      (((db.voiceStates.find? (isOf guildId userId)).map VoiceStateRow.state).map .voiceState)) :=
    answers_one rfl fits rfl
  rwa [Option.map_map, ← List.head?_filter] at answer

end Register

end VoiceStates

namespace Overrides

def isOf (channelId roleId : Int) (row : ChannelOverride) : Bool :=
  row.channelId = channelId && row.roleId = roleId

/-- What a channel allows and denies to a role: all bits are those that were set last. -/
def register (channelId roleId : Int) : Register ChannelOverride ChannelOverride where
  rows db := db.channelOverrides.filter (isOf channelId roleId)
  Puts override event db := (override.channelId = channelId ∧ override.roleId = roleId) ∧
    event.Does (.setOverride override) db
  Ends event db := event.Does (.deleteOverride channelId roleId) db ∨
    event.RemovesChannel channelId db ∨ event.RemovesRole roleId db
  fresh override := override
  renew override row := { row with allow := override.allow, deny := override.deny }

section Register

variable {channelId roleId : Int} {event : Event} {db : Database}

theorem isOf_iff {row : ChannelOverride} :
    isOf channelId roleId row = true ↔ row.channelId = channelId ∧ row.roleId = roleId := by
  simp [isOf]

theorem about_overrides {write : Write} (about : write.table = .channelOverrides) :
    (∃ override, write = .setOverride override) ∨
      ∃ channelId roleId, write = .deleteOverride channelId roleId := by
  cases write <;> simp_all [Write.table]

theorem ends_iff {row : ChannelOverride} (consistent : db.Consistent)
    (alone : (register channelId roleId).rows db = [row]) :
    (register channelId roleId).Ends event db ↔
      event.Does (.deleteOverride channelId roleId) db ∨
        event.Takes .channelOverrides row db := by
  have present : row ∈ (register channelId roleId).rows db := by simp [alone]
  obtain ⟨stored, picked⟩ := List.mem_filter.mp present
  obtain ⟨rfl, rfl⟩ := isOf_iff.mp picked
  rw [takesOverride_iff consistent stored]
  rfl

theorem keyed_register (channelId roleId : Int) :
    @Register.Keyed ChannelOverride .channelOverrides (register channelId roleId)
      (isOf channelId roleId) .setOverride (.deleteOverride channelId roleId) where
  aloof := ⟨by decide, by decide, by decide⟩
  leaf := by decide
  rows_eq _ := rfl
  identity := ⟨[.int channelId, .int roleId], fun row => by simp [isOf, Table.identity]⟩
  puts_iff := and_congr_left fun _ => isOf_iff.symm
  put_injective _ _ same := Write.setOverride.inj same
  statement_put _ _ := rfl
  steady _ _ _ := rfl
  statement_drop := ⟨_, fun _ => rfl⟩
  only write about := by
    rcases about_overrides about with ⟨override, rfl⟩ | ⟨channel, role, rfl⟩
    · exact Or.inl ⟨override, rfl⟩
    · by_cases key : channel = channelId ∧ role = roleId
      · obtain ⟨rfl, rfl⟩ := key
        exact Or.inr (Or.inl rfl)
      · refine Or.inr (Or.inr ⟨_, _, fun _ => rfl, fun row named => ?_⟩)
        obtain ⟨rfl, rfl⟩ := isOf_iff.mp named
        exact Bool.eq_false_iff.mpr fun picked => key (isOf_iff.mp picked)
  ends_iff := ends_iff
  ends_apart := by
    rintro override event db ends puts
    rcases ends with does | (does | ⟨place, -, -, does⟩) | does | ⟨role, -, -, does⟩ <;>
      cases does_only puts.1 does
  renew_fresh _ := rfl
  renew_renew _ _ _ := rfl

theorem row_iff (run : Run) {row : ChannelOverride} :
    row ∈ (register channelId roleId).rows (run.after .empty) ↔
      (∃ first, run.Stands ((register channelId roleId).Opens first)
        (register channelId roleId).Ends) ∧
      run.Stands ((register channelId roleId).Puts row) (register channelId roleId).PutsAny := by
  rw [Register.row_iff (keyed_register channelId roleId).lawful run]
  have joined : ∀ {first last}, run.Stands ((register channelId roleId).Opens first)
      (register channelId roleId).Ends → run.Stands ((register channelId roleId).Puts last)
        (register channelId roleId).PutsAny →
          (register channelId roleId).renew last first = last := by
    rintro first last ⟨-, -, -, -, ⟨-, opened, -⟩, -⟩ ⟨-, -, -, -, ⟨put, -⟩, -⟩
    simp [register, opened, ← put.1, ← put.2]
  constructor
  · rintro ⟨first, last, opened, put, rfl⟩
    refine ⟨⟨first, opened⟩, ?_⟩
    exact (joined opened put).symm ▸ put
  · rintro ⟨⟨first, opened⟩, put⟩
    exact ⟨first, row, opened, put, (joined opened put).symm⟩

theorem answers_overrides (run : Run) (fits : fitsWord channelId = true) :
    ∃ overrides : List ChannelOverride,
    (Question.overridesOfChannel channelId).Answers (run.after .empty)
      (.entities (overrides.map .override)) ∧
    ∀ roleId, overrides.filter (fun override => override.roleId = roleId) =
      (register channelId roleId).rows (run.after .empty) := by
  refine ⟨_, answers_list rfl (by simp [fits]) rfl, fun roleId => ?_⟩
  have short := Register.rows_short (keyed_register channelId roleId).lawful run
  let here := (run.after .empty).channelOverrides.filter fun row => row.channelId = channelId
  have listed := (sortBy_perm (compareOn ChannelOverride.roleId) here).filter
    fun override => override.roleId = roleId
  have kept : (here.filter fun override => override.roleId = roleId) =
      (register channelId roleId).rows (run.after .empty) := by
    rw [List.filter_filter]
    refine List.filter_congr fun row _ => ?_
    rw [isOf, Bool.and_comm]
  rw [kept] at listed
  match rows : (register channelId roleId).rows (run.after .empty) with
  | [] => exact List.perm_nil.mp (rows ▸ listed)
  | [row] => exact List.perm_singleton.mp (rows ▸ listed)
  | first :: second :: rest => simp [rows] at short

end Register

end Overrides

/-- A user has at most one voice state in a guild, which shows the last call about it but the time
of the first, and a role has at most one override in a channel, which shows the last call alone.
They go with what they hang on and by their own deletion, and not otherwise. -/
theorem latest_exact (run : Run) :
    let db := run.after .empty
    (∀ guildId userId, let state := VoiceStates.register guildId userId
      (state.rows db).length ≤ 1 ∧
      (∀ row, row ∈ state.rows db ↔ ∃ first last : VoiceState,
        run.Stands (state.Opens first) state.Ends ∧ run.Stands (state.Puts last) state.PutsAny ∧
          row = { last.row with joinedAt := first.joinedAt.wall }) ∧
      (state.rows db ≠ [] → ∀ event : Event,
        (state.rows (event.apply db) = [] ↔ state.Ends event db)) ∧
      ([guildId, userId].all fitsWord = true → (Question.voiceState guildId userId).Answers db
        (.entity ((state.rows db).head?.map fun row => .voiceState row.state)))) ∧
    (∀ channelId roleId, let override := Overrides.register channelId roleId
      (override.rows db).length ≤ 1 ∧
      (∀ row, row ∈ override.rows db ↔
        (∃ first, run.Stands (override.Opens first) override.Ends) ∧
          run.Stands (override.Puts row) override.PutsAny) ∧
      (override.rows db ≠ [] → ∀ event : Event,
        (override.rows (event.apply db) = [] ↔ override.Ends event db))) ∧
    ∀ channelId, fitsWord channelId = true → ∃ overrides : List ChannelOverride,
      (Question.overridesOfChannel channelId).Answers db (.entities (overrides.map .override)) ∧
        ∀ roleId, overrides.filter (fun override => override.roleId = roleId) =
          (Overrides.register channelId roleId).rows db := by
  refine ⟨fun guildId userId => ?_, fun channelId roleId => ?_, fun channelId fits => ?_⟩
  · have lawful := (VoiceStates.keyed_register guildId userId).lawful
    exact ⟨Register.rows_short lawful run, fun row => Register.row_iff lawful run,
      fun present event => Register.gone_iff lawful run event present,
      VoiceStates.answers_voiceState _⟩
  · have lawful := (Overrides.keyed_register channelId roleId).lawful
    exact ⟨Register.rows_short lawful run, fun row => Overrides.row_iff run,
      fun present event => Register.gone_iff lawful run event present⟩
  · exact Overrides.answers_overrides run fits

def restless : Run := settled ++ [
  Write.event noon (.upsertVoiceState ⟨10, 30, 2, "first", false, false, noon⟩),
  Write.event noon (.upsertVoiceState ⟨10, 31, 2, "second", true, false,
    ⟨⟨2026, 3, 1, 13, 0, 0, 0⟩, some 0⟩⟩),
  Write.event noon (.setOverride ⟨30, 20, 3, 4⟩)]

theorem restless_shown :
    (Question.voiceState 10 2).Answers (restless.after .empty) (.entity (some (.voiceState
      ⟨10, 31, 2, "second", true, false, noon.wall.naive⟩))) ∧
    ∃ first, restless.Stands ((Overrides.register 30 20).Opens first)
      (Overrides.register 30 20).Ends := by
  obtain ⟨voice, overrides, -⟩ := latest_exact restless
  constructor
  · have shown := (voice 10 2).2.2.2 (by decide)
    have rows : (VoiceStates.register 10 2).rows (restless.after .empty) =
        [⟨10, 2, 31, "second", true, false, noon.wall⟩] := by decide +kernel
    rwa [rows] at shown
  · have rows : (⟨30, 20, 3, 4⟩ : ChannelOverride) ∈
        (Overrides.register 30 20).rows (restless.after .empty) := by decide +kernel
    exact (((overrides 30 20).2.1 _).mp rows).1

end Guildhall
