import Guildhall.Proofs.Store.Creation

/-!
The calls that put a row in unless one of its key is there already, which then stays or takes the
new values. They meet no conflict: all that can be wrong is a row that they refer to.
-/

namespace Guildhall

open Calendar

/-- A call that gives way to a stored row of its key. -/
inductive Entry where
  | override (override : ChannelOverride)
  | voiceState (state : VoiceState)
  | readState (userId channelId lastMessageId : Int)
  | memberRole (guildId userId roleId : Int)
  | recipient (channelId userId : Int)
  | reaction (messageId userId : Int) (emoji : String) (createdAt : Option DateTime)

namespace Entry

def write : Entry → Write
  | override it => .setOverride it
  | voiceState it => .upsertVoiceState it
  | readState userId channelId lastMessageId => .upsertReadState userId channelId lastMessageId
  | memberRole guildId userId roleId => .addMemberRole guildId userId roleId
  | recipient channelId userId => .addRecipient channelId userId
  | reaction messageId userId emoji createdAt => .addReaction messageId userId emoji createdAt

/-- A row that it refers to is missing. The channel of a read state may be any. -/
def Lacks (db : Database) : Entry → Prop
  | override it => ¬db.HasChannel it.channelId ∨ ¬db.HasRole it.roleId
  | voiceState it => ¬db.HasGuild it.guildId ∨ ¬db.HasUser it.userId ∨ ¬db.HasChannel it.channelId
  | readState userId _ _ => ¬db.HasUser userId
  | memberRole guildId userId roleId => ¬db.HasRole roleId ∨ ¬db.HasMember guildId userId
  | recipient channelId userId => ¬db.HasDirect channelId ∨ ¬db.HasUser userId
  | reaction messageId userId _ _ => ¬db.HasMessage messageId ∨ ¬db.HasUser userId

theorem plain_declared {table : Table} (apart : table ≠ .channels)
    (uniques : (Catalog.declared table).uniques = []) : Catalog.declared.Plain table :=
  ⟨uniques, elsewhere_declared apart⟩

theorem answered_of_stored {table : Table} {row other : table.Row} {db : Database}
    (sound : db.Sound Catalog.declared) (apart : table ≠ .channels)
    (stored : other ∈ db.rows table)
    (keys : ∀ reference ∈ (Catalog.declared table).references,
      table.key? reference.columns row = table.key? reference.columns other) :
    ¬Dangling Catalog.declared table row db := by
  rw [dangling_congr (elsewhere_declared apart) keys fun _ _ => rfl]
  rintro ⟨reference, declared, unanswered⟩
  exact unanswered (sound.references table other stored reference declared)

section Outcomes

variable {db : Database}

theorem answered_memberOf {guildId userId roleId : Int} :
    Reference.Answered ⟨["guild_id", "user_id"], .members, ["guild_id", "user_id"], .cascade⟩
        .memberRoles ⟨guildId, userId, roleId⟩ db ↔ db.HasMember guildId userId := by
  refine (or_iff_right ?_).trans ?_
  · rintro ⟨⟩
  · rw [pointsInto_iff]
    constructor
    · rintro ⟨key, ⟨⟩, member, stored, named⟩
      cases named
      exact ⟨member, stored, rfl, rfl⟩
    · rintro ⟨member, stored, rfl, rfl⟩
      exact ⟨_, rfl, member, stored, rfl⟩

theorem settles_override (override : ChannelOverride)
    (fits : (Table.cells .channelOverrides override).integers.all fitsWord = true) :
    Settles (¬db.HasChannel override.channelId ∨ ¬db.HasRole override.roleId)
      (Overrides.set Catalog.declared override db) := by
  have lacks : Dangling Catalog.declared .channelOverrides override db ↔
      ¬db.HasChannel override.channelId ∨ ¬db.HasRole override.roleId :=
    dangling_two rfl (answered_id rfl fun _ => rfl) (answered_id rfl fun _ => rfl)
  rw [← lacks]
  refine settles_putRow (plain_declared (by rintro ⟨⟩) rfl) fits (fun _ _ => rfl) ?_
  rintro ⟨channelId, roleId, allow, deny⟩ same reference declared
  obtain ⟨rfl, rfl⟩ : override.channelId = channelId ∧ override.roleId = roleId := by
    simpa [Table.identity] using same
  rcases List.mem_cons.mp declared with rfl | declared
  · rfl
  · obtain rfl := List.mem_singleton.mp declared
    rfl

theorem settles_voiceState (state : VoiceState)
    (fits : (Table.cells .voiceStates state.row).integers.all fitsWord = true) :
    Settles (¬db.HasGuild state.guildId ∨ ¬db.HasUser state.userId ∨ ¬db.HasChannel state.channelId)
      (VoiceStates.upsert Catalog.declared state db) := by
  have lacks : Dangling Catalog.declared .voiceStates state.row db ↔
      ¬db.HasGuild state.guildId ∨ ¬db.HasUser state.userId ∨ ¬db.HasChannel state.channelId :=
    dangling_three rfl (answered_id rfl fun _ => rfl) (answered_id rfl fun _ => rfl)
      (answered_id rfl fun _ => rfl)
  rw [← lacks]
  refine settles_putRow (plain_declared (by rintro ⟨⟩) rfl) fits (fun _ same => same) ?_
  intro old _ reference declared
  rcases List.mem_cons.mp declared with rfl | declared
  · rfl
  · rcases List.mem_cons.mp declared with rfl | declared
    · rfl
    · obtain rfl := List.mem_singleton.mp declared
      rfl

end Outcomes

/-- An entry fails exactly where it lacks a row, and never for a key. -/
theorem settles_entry {db : Database} (sound : db.Sound Catalog.declared) (entry : Entry)
    (now : DateTime) (fits : entry.write.integers.all fitsWord = true) :
    Settles (entry.Lacks db) (entry.write.statement Catalog.declared now db) := by
  cases entry with
  | override it => exact settles_override it fits
  | voiceState it => exact settles_voiceState it fits
  | readState userId channelId lastMessageId =>
      have lacks : Dangling Catalog.declared .readStates
          ⟨userId, channelId, lastMessageId, 0, now.wall⟩ db ↔ ¬db.HasUser userId :=
        dangling_one rfl (answered_id rfl fun _ => rfl)
      rw [Lacks, ← lacks]
      exact settles_putRow (plain_declared (by rintro ⟨⟩) rfl) fits (fun _ same => same)
        fun _ _ _ _ => rfl
  | memberRole guildId userId roleId =>
      have lacks : Dangling Catalog.declared .memberRoles ⟨guildId, userId, roleId⟩ db ↔
          ¬db.HasRole roleId ∨ ¬db.HasMember guildId userId :=
        dangling_two rfl (answered_id rfl fun _ => rfl) answered_memberOf
      rw [Lacks, ← lacks]
      refine settles_ensureRow (plain_declared (by rintro ⟨⟩) rfl) fits ?_
      rintro ⟨guildId, userId, roleId⟩ stored ⟨⟩
      exact answered_of_stored sound (by rintro ⟨⟩) stored fun _ _ => rfl
  | recipient channelId userId =>
      have lacks : Dangling Catalog.declared .recipients ⟨channelId, userId⟩ db ↔
          ¬db.HasDirect channelId ∨ ¬db.HasUser userId :=
        dangling_two rfl (answered_id rfl fun _ => rfl) (answered_id rfl fun _ => rfl)
      rw [Lacks, ← lacks]
      refine settles_ensureRow (plain_declared (by rintro ⟨⟩) rfl) fits ?_
      rintro ⟨channelId, userId⟩ stored ⟨⟩
      exact answered_of_stored sound (by rintro ⟨⟩) stored fun _ _ => rfl
  | reaction messageId userId emoji createdAt =>
      have lacks : Dangling Catalog.declared .reactions
          ⟨messageId, userId, emoji, (createdAt.getD now).wall⟩ db ↔
          ¬db.HasMessage messageId ∨ ¬db.HasUser userId :=
        dangling_two rfl (answered_id rfl fun _ => rfl) (answered_id rfl fun _ => rfl)
      rw [Lacks, ← lacks]
      refine settles_ensureRow (plain_declared (by rintro ⟨⟩) rfl) fits ?_
      rintro ⟨messageId, userId, emoji, time⟩ stored ⟨⟩
      refine answered_of_stored sound (by rintro ⟨⟩) stored fun reference declared => ?_
      rcases List.mem_cons.mp declared with rfl | declared
      · rfl
      · obtain rfl := List.mem_singleton.mp declared
        rfl

end Entry

end Guildhall
