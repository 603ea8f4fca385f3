import Guildhall.Proofs.Store.Batch
import Guildhall.Proofs.Store.Entry
import Guildhall.Proofs.Invites.Expiry
import Mathlib.Data.List.Pairwise

/-!
What was just stored is read back whole: nothing is lost but the offsets of times, which come back
as the wall showed them, and the roles of a member, who has none yet.
-/

namespace Guildhall

open Calendar

def Question.Answers (asked : Question) (db : Database) (answer : Answer) : Prop :=
  ∀ now, Command.run Catalog.declared now (.question asked) db = (.ok answer, db)

def User.readBack (user : User) : User := { user with createdAt := user.createdAt.wall.naive }

def Guild.readBack (guild : Guild) : Guild := { guild with createdAt := guild.createdAt.wall.naive }

def Member.readBack (member : Member) : Member :=
  { member with joinedAt := member.joinedAt.wall.naive, roles := [] }

def Ban.readBack (ban : Ban) : Ban := { ban with createdAt := ban.createdAt.wall.naive }

def Message.readBack (message : Message) : Message :=
  { message with
    createdAt := message.createdAt.wall.naive
    editedAt := message.editedAt.map fun edited => edited.wall.naive }

def Message.signed (message : Message) (author : UserRow) : MessageWithAuthor :=
  { message.readBack with
    authorUsername := author.username
    authorDisplayName := author.displayName
    authorAvatarHash := author.avatarHash }

def VoiceState.readBack (state : VoiceState) : VoiceState :=
  { state with joinedAt := state.joinedAt.wall.naive }

/-- The entity stands at its place by the key in a list that is otherwise as before. -/
def Inserted {α : Type} (key : α → Int) (entity : α → Entity) (asked : Question) (value : α)
    (db left : Database) : Prop :=
  ∃ before after, (∀ other ∈ before, key other < key value) ∧
    (∀ other ∈ after, key value < key other) ∧
    asked.Answers db (.entities ((before ++ after).map entity)) ∧
    asked.Answers left (.entities ((before ++ value :: after).map entity))

def Creation.Found (db left : Database) : Creation → Prop
  | user it =>
    (Question.user it.id).Answers left (.entity (some (.user it.readBack))) ∧
      (Question.userByName it.username).Answers left (.entity (some (.user it.readBack)))
  | guild it => (Question.guild it.id).Answers left (.entity (some (.guild it.readBack)))
  | member it =>
    (Question.member it.guildId it.userId).Answers left (.entity (some (.member it.readBack)))
  | role it => (Question.role it.id).Answers left (.entity (some (.role it)))
  | ban it => (Question.ban it.guildId it.userId).Answers left (.entity (some (.ban it.readBack)))
  | invite it =>
    (Question.invite it.code).Answers left (.entity (some (.invite (Invites.readBack it))))
  | channel it => (Question.channel it.id).Answers left (.entity (some (.channel it)))
  | message it => ∃ author ∈ left.users, author.id = it.authorId ∧
    (Question.message it.id).Answers left (.entity (some (.message (it.signed author))))
  | attachment it =>
    Inserted Attachment.id .attachment (.attachmentsOfMessage it.messageId) it db left

section Lists

variable {α : Type} {key : α → Int} {rows : List α} {row : α}

theorem sortBy_concat (alone : ∀ a ∈ rows, ∀ b ∈ rows, key a = key b → a = b)
    (fresh : ∀ other ∈ rows, key other ≠ key row) :
    ∃ before after, (∀ other ∈ before, key other < key row) ∧
      (∀ other ∈ after, key row < key other) ∧
      sortBy (compareOn key) rows = before ++ after ∧
      sortBy (compareOn key) (rows ++ [row]) = before ++ row :: after := by
  have sorted := ascending_sortBy key (rows ++ [row])
  have perm := sortBy_perm (compareOn key) (rows ++ [row])
  have among : row ∈ sortBy (compareOn key) (rows ++ [row]) := perm.mem_iff.mpr (by simp)
  obtain ⟨before, after, split⟩ := List.append_of_mem among
  rw [split] at sorted perm
  have rest : (before ++ after).Perm rows := by
    have swapped : (row :: (before ++ after)).Perm (row :: rows) :=
      List.perm_middle.symm.trans (perm.trans (List.perm_append_singleton row rows))
    exact swapped.cons_inv
  have apart := List.pairwise_append.mp sorted
  have later := List.pairwise_cons.mp apart.2.1
  refine ⟨before, after, fun other early => ?_, fun other late => ?_, ?_, split⟩
  · have below := apart.2.2 other early row List.mem_cons_self
    have differs := fresh other (rest.subset (List.mem_append_left _ early))
    omega
  · have above := later.1 other late
    have differs := fresh other (rest.subset (List.mem_append_right _ late))
    omega
  -- Keys are distinct, so there is one sorted arrangement only.
  · refine List.Perm.eq_of_pairwise (fun a b left right ab ba => ?_) (ascending_sortBy key rows)
      ?_ ((sortBy_perm _ rows).trans rest.symm)
    · exact alone a ((sortBy_perm _ rows).subset left) b (rest.subset right) (by omega)
    · exact List.pairwise_append.mpr ⟨apart.1, later.2, fun a early b late =>
        apart.2.2 a early b (List.mem_cons_of_mem _ late)⟩

end Lists

section Questions

variable {α : Type} {entity : α → Entity} {integers : List Int} {db : Database} {asked : Question}

theorem answers_of_query {answer : Answer} (done : asked.query db = .ok answer) :
    asked.Answers db answer := fun _ => Prod.ext done rfl

theorem answers_unique {answer other : Answer} (first : asked.Answers db answer)
    (second : asked.Answers db other) : answer = other :=
  Except.ok.inj (congrArg Prod.fst ((first noon).symm.trans (second noon)))

theorem answers_one {answer : Database → Option α} {value : Option α}
    (shape : asked.query = Question.one entity (ask integers answer))
    (fits : integers.all fitsWord = true) (found : answer db = value) :
    asked.Answers db (.entity (value.map entity)) := by
  apply answers_of_query
  rw [shape, Question.one, ask_fits fits, found]
  rfl

theorem answers_ask {answer : Database → Option α} {value : α}
    (shape : asked.query = Question.one entity (ask integers answer))
    (fits : integers.all fitsWord = true) (found : answer db = some value) :
    asked.Answers db (.entity (some (entity value))) := answers_one shape fits found

theorem answers_read {answer : Database → Except Failure (Option α)} {found : Option α}
    (shape : asked.query = Question.one entity (askRead integers answer))
    (fits : integers.all fitsWord = true) (read : answer db = .ok found) :
    asked.Answers db (.entity (found.map entity)) := by
  apply answers_of_query
  rw [shape, Question.one, askRead_fits fits, read]
  rfl

theorem answers_list {answer : Database → List α} {values : List α}
    (shape : asked.query = Question.many entity (ask integers answer))
    (fits : integers.all fitsWord = true) (found : answer db = values) :
    asked.Answers db (.entities (values.map entity)) := by
  apply answers_of_query
  rw [shape, Question.many, ask_fits fits, found]
  rfl

theorem fits_identity {table : Table} {row : table.Row} {left : Database}
    (done : insertRow Catalog.declared table row db = .ok left)
    (whole : table.identity row = integers.map Cell.int) : integers.all fitsWord = true := by
  have fits := fits_of_cells (insertRow_ok.mp done).1
  refine List.all_eq_true.mpr fun n member => fits n ?_
  rw [whole]
  exact List.mem_map_of_mem member

end Questions

section Rows

variable {db left : Database}

theorem Table.Distinct.apart {table : Table} {columns : List String} {rows : List table.Row}
    (distinct : table.Distinct columns rows) {a b : table.Row} (first : a ∈ rows)
    (second : b ∈ rows) (differ : a ≠ b) : table.sameKey columns a b = false := by
  have symmetric : Std.Symm fun a b => table.sameKey columns a b = false :=
    ⟨fun _ _ other => sameKey_comm.trans other⟩
  exact List.Pairwise.forall distinct first second differ

theorem eq_of_identity {table : Table} (sound : db.Sound Catalog.declared) {a b : table.Row}
    (first : a ∈ db.rows table) (second : b ∈ db.rows table)
    (same : table.identity a = table.identity b) : a = b := by
  by_contra differ
  have apart := (sound.primaryKeys table).apart first second differ
  rw [sameKey_identity.mpr same] at apart
  cases apart

theorem found_username {user : User}
    (done : insertRow Catalog.declared .users user.row db = .ok left) :
    left.users.find? (fun row => row.username = user.username) = some user.row := by
  obtain ⟨-, rfl, admissible⟩ := insertRow_ok.mp done
  have missed : ∀ other ∈ db.users, ¬decide (other.username = user.username) = true := by
    intro other member same
    have apart := admissible.uniques ⟨"uq_users_username", ["username"]⟩ List.mem_cons_self other
      member
    have shared : Table.sameKey .users ["username"] user.row other = true :=
      (sameKey_named .users (fun row => [.text row.username]) fun _ => rfl).mpr
        (by simp [of_decide_eq_true same, User.row])
    rw [shared] at apart
    cases apart
  change (db.users ++ [user.row]).find? _ = _
  rw [List.find?_append, List.find?_eq_none.mpr missed]
  simp [User.row]

theorem heldBy_fresh {member : Member} (consistent : db.Consistent)
    (done : insertRow Catalog.declared .members member.row db = .ok left) :
    Roles.heldBy left member.guildId member.userId = [] := by
  obtain ⟨-, rfl, admissible⟩ := insertRow_ok.mp done
  have none : db.memberRoles.filter (fun row =>
      row.guildId = member.guildId ∧ row.userId = member.userId) = [] := by
    refine List.filter_eq_nil_iff.mpr fun hold stored held => ?_
    obtain ⟨old, present, same⟩ := consistent.memberRoleMember hold stored
    obtain ⟨guild, user⟩ := of_decide_eq_true held
    have shared : Table.sameKey .members (Catalog.declared .members).primaryKey member.row old =
        true := by
      refine sameKey_identity.mpr ?_
      simp only [Prod.mk.injEq] at same
      simp [Table.identity, Member.row, same, guild, user]
    rw [admissible.primaryKey old present] at shared
    cases shared
  change sortBy Roles.order ((db.memberRoles.filter _).flatMap _) = []
  rw [none, List.flatMap_nil, sortBy_nil]

theorem channel_row (channel : Channel) : channel.row.channel = .ok channel := by
  simp [ChannelRow.channel, Channel.row, ChannelKind.ofCode_code]

theorem withAuthor_row (message : Message) (author : UserRow) :
    message.row.withAuthor author = message.signed author := by
  obtain ⟨_, _, _, _, _, editedAt⟩ := message
  cases editedAt <;> rfl

theorem found_message {message : Message} (sound : left.Sound Catalog.declared)
    (done : insertRow Catalog.declared .messages message.row db = .ok left) :
    ∃ author ∈ left.users, author.id = message.authorId ∧
      (Messages.withAuthors left (left.messages.filter fun row => row.id = message.id)).head? =
        some (message.signed author) := by
  have consistent := consistent_of_sound sound
  have stored : message.row ∈ left.messages := by
    obtain ⟨-, rfl, -⟩ := insertRow_ok.mp done
    exact List.mem_append_right _ (List.mem_singleton_self _)
  obtain ⟨author, present, same⟩ := consistent.messageAuthor _ stored
  refine ⟨author, present, same, ?_⟩
  have messages : left.messages.filter (fun row => row.id = message.id) = [message.row] :=
    filter_alone consistent.messageIds stored
  have authors : left.users.filter (fun user => user.id = message.row.authorId) = [author] :=
    same ▸ filter_alone consistent.userIds present
  simp [Messages.withAuthors, messages, authors, withAuthor_row]

/-- A list by a key that tells its rows apart has a new row at its place. -/
theorem inserted_row {table : Table} {row : table.Row} {chosen : table.Row → Bool}
    {key : table.Row → Int} {entity : table.Row → Entity} {integers : List Int} {asked : Question}
    (shape : asked.query = Question.many entity (ask integers fun db =>
      sortBy (compareOn key) ((db.rows table).filter chosen)))
    (sound : db.Sound Catalog.declared)
    (done : insertRow Catalog.declared table row db = .ok left)
    (fits : integers.all fitsWord = true) (picked : chosen row = true)
    (identified : ∀ a b, chosen a = true → chosen b = true → key a = key b →
      table.identity a = table.identity b) : Inserted key entity asked row db left := by
  obtain ⟨-, rfl, admissible⟩ := insertRow_ok.mp done
  have alone : ∀ a ∈ (db.rows table).filter chosen, ∀ b ∈ (db.rows table).filter chosen,
      key a = key b → a = b := by
    intro a first b second same
    obtain ⟨storedFirst, pickedFirst⟩ := List.mem_filter.mp first
    obtain ⟨storedSecond, pickedSecond⟩ := List.mem_filter.mp second
    exact eq_of_identity sound storedFirst storedSecond
      (identified a b pickedFirst pickedSecond same)
  have fresh : ∀ other ∈ (db.rows table).filter chosen, key other ≠ key row := by
    intro other member same
    obtain ⟨stored, also⟩ := List.mem_filter.mp member
    have shared := sameKey_identity.mpr (identified row other picked also same.symm)
    rw [admissible.primaryKey other stored] at shared
    cases shared
  obtain ⟨before, after, below, above, earlier, later⟩ := sortBy_concat alone fresh
  refine ⟨before, after, below, above, answers_list shape fits earlier,
    answers_list shape fits ?_⟩
  rw [← later, Database.rows_put_self, List.filter_append, List.filter_cons_of_pos picked,
    List.filter_nil]

end Rows

theorem found_creation {db left : Database} (sound : db.Sound Catalog.declared)
    (creation : Creation)
    (done : insertRow Catalog.declared creation.table creation.row db = .ok left) :
    creation.Found db left := by
  cases creation with
  | user it =>
      have fits : [it.id].all fitsWord = true := fits_identity done rfl
      have found : left.users.find? (fun row => row.id = it.id) = some it.row :=
        find_insertRow done (by simp [Table.identity, Creation.row, User.row])
      exact ⟨answers_ask rfl fits (by rw [found]; rfl),
        answers_ask rfl rfl (by rw [found_username done]; rfl)⟩
  | guild it =>
      have fits : [it.id].all fitsWord = true := fits_identity done rfl
      have found : left.guilds.find? (fun row => row.id = it.id) = some it.row :=
        find_insertRow done (by simp [Table.identity, Creation.row, Guild.row])
      exact answers_ask rfl fits (by rw [found]; rfl)
  | member it =>
      have fits : [it.guildId, it.userId].all fitsWord = true := fits_identity done rfl
      have found : left.members.find? (Members.isOf it.guildId it.userId) = some it.row :=
        find_insertRow done (by simp [Table.identity, Creation.row, Member.row, Members.isOf])
      have roles : Roles.heldBy left it.row.guildId it.row.userId = [] :=
        heldBy_fresh (consistent_of_sound sound) done
      refine answers_ask rfl fits ?_
      rw [found, Option.map_some, Members.withRoles_eq, roles]
      rfl
  | role it =>
      have fits : [it.id].all fitsWord = true := fits_identity done rfl
      exact answers_ask rfl fits (find_insertRow done (by simp [Table.identity, Creation.row]))
  | ban it =>
      have fits : [it.guildId, it.userId].all fitsWord = true := fits_identity done rfl
      have found : left.bans.find? (Bans.isOf it.guildId it.userId) = some it.row :=
        find_insertRow done (by simp [Table.identity, Creation.row, Ban.row, Bans.isOf])
      exact answers_ask rfl fits (by rw [found]; rfl)
  | invite it =>
      apply answers_of_query
      change Question.one .invite (Invites.find it.code) left = _
      rw [Question.one, Invites.find_create done]
      rfl
  | channel it =>
      have fits : [it.id].all fitsWord = true := fits_identity done rfl
      have found : left.channels.find? (fun row => row.id = it.id) = some it.row :=
        find_insertRow done (by simp [Table.identity, Creation.row, Channel.row])
      refine @answers_read _ _ _ _ _ _ (some it) rfl fits ?_
      rw [found, Option.mapM_some, channel_row]
      rfl
  | message it =>
      have fits : [it.id].all fitsWord = true := fits_identity done rfl
      have sound : left.Sound Catalog.declared := sound_insertRow sound done
      obtain ⟨author, present, same, found⟩ := found_message sound done
      exact ⟨author, present, same, answers_ask rfl fits found⟩
  | attachment it =>
      have fits : [it.messageId].all fitsWord = true := by
        have word := List.all_eq_true.mp (insertRow_ok.mp done).1 it.messageId
        simpa using word (by simp [Creation.row, Table.cells, Attachment.cells, Cells.integers])
      refine @inserted_row db left .attachments it (Attachments.isOf it.messageId) Attachment.id
        _ _ _ rfl sound done fits (by simp [Attachments.isOf]) fun a b _ _ same => ?_
      simp [Table.identity, same]

section Entries

variable {db left : Database}

theorem putRow_new {table : Table} {row : table.Row} {change : table.Row → table.Row}
    (new : ∀ other ∈ db.rows table, table.identity other ≠ table.identity row) :
    putRow Catalog.declared table row change db = insertRow Catalog.declared table row db := by
  refine if_neg fun held => ?_
  obtain ⟨other, stored, same⟩ := holdsKeyOf_iff.mp held
  exact new other stored same.symm

theorem found_override {override : ChannelOverride} (sound : db.Sound Catalog.declared)
    (new : ∀ row ∈ db.channelOverrides,
      (row.channelId, row.roleId) ≠ (override.channelId, override.roleId))
    (done : Overrides.set Catalog.declared override db = .ok left) :
    Inserted ChannelOverride.roleId .override (.overridesOfChannel override.channelId) override
      db left := by
  have inserted : insertRow Catalog.declared .channelOverrides override db = .ok left := by
    refine (putRow_new fun other stored same => new other stored ?_).symm.trans done
    simpa [Table.identity] using same
  have fits : [override.channelId].all fitsWord = true := by
    have words := fits_of_cells (insertRow_ok.mp inserted).1 override.channelId
    simpa using words (by simp [Table.identity])
  refine @inserted_row db left .channelOverrides override
    (fun row => row.channelId = override.channelId) ChannelOverride.roleId _ _ _
    rfl sound inserted fits (by simp) fun a b first second same => ?_
  have channels := (of_decide_eq_true first).trans (of_decide_eq_true second).symm
  simp [Table.identity, channels, same]

theorem found_voiceState {state : VoiceState}
    (new : ∀ row ∈ db.voiceStates, (row.guildId, row.userId) ≠ (state.guildId, state.userId))
    (done : VoiceStates.upsert Catalog.declared state db = .ok left) :
    (Question.voiceState state.guildId state.userId).Answers left
      (.entity (some (.voiceState state.readBack))) := by
  have inserted : insertRow Catalog.declared .voiceStates state.row db = .ok left := by
    refine (putRow_new fun other stored same => new other stored ?_).symm.trans done
    simpa [Table.identity, VoiceState.row] using same
  have fits : [state.guildId, state.userId].all fitsWord = true := fits_identity inserted rfl
  have found : left.voiceStates.find? (VoiceStates.isOf state.guildId state.userId) =
      some state.row :=
    find_insertRow inserted (by simp [Table.identity, VoiceState.row, VoiceStates.isOf])
  exact answers_ask rfl fits (by rw [found]; rfl)

end Entries

/-- What was stored is read back whole, but for offsets and for the roles of a new member. The first
permissions of a role in a channel and the first voice state of a user in a guild are so too. -/
theorem stored_reads_back (past : Run) (now : DateTime) (left : Database) :
    let db := past.after .empty
    let call := fun write : Write => Command.run Catalog.declared now (.write write) db
    (∀ creation : Creation, call creation.write = (.ok .done, left) → creation.Found db left) ∧
    (∀ override : ChannelOverride,
      (∀ row ∈ db.channelOverrides,
        (row.channelId, row.roleId) ≠ (override.channelId, override.roleId)) →
      call (.setOverride override) = (.ok .done, left) →
        Inserted ChannelOverride.roleId .override (.overridesOfChannel override.channelId) override
          db left) ∧
    ∀ state : VoiceState,
      (∀ row ∈ db.voiceStates, (row.guildId, row.userId) ≠ (state.guildId, state.userId)) →
      call (.upsertVoiceState state) = (.ok .done, left) →
        (Question.voiceState state.guildId state.userId).Answers left
          (.entity (some (.voiceState state.readBack))) := by
  intro db call
  have sound : db.Sound Catalog.declared := reachable_sound (reachable_after past)
  refine ⟨fun creation created => ?_, fun override new created => ?_, fun state new created => ?_⟩
  · have done := statement_of_run created
    rw [creation.statement_creation] at done
    exact found_creation sound creation done
  · exact found_override sound new (statement_of_run created)
  · exact found_voiceState new (statement_of_run created)

theorem settled_reads_back :
    let db := settled.after .empty
    let call := fun write : Write => Command.run Catalog.declared noon (.write write) db
    let message : Message := ⟨41, 30, 2, "again", ⟨noon.wall, some 330⟩, none⟩
    let override : ChannelOverride := ⟨31, 20, -1, 5⟩
    let state : VoiceState := ⟨10, 31, 1, "session", true, false, noon⟩
    (∃ author ∈ (call (.createMessage message)).2.users, author.id = 2 ∧
      (Question.message 41).Answers (call (.createMessage message)).2
        (.entity (some (.message (message.signed author))))) ∧
    Inserted ChannelOverride.roleId .override (.overridesOfChannel 31) override db
      (call (.setOverride override)).2 ∧
    (Question.voiceState 10 1).Answers (call (.upsertVoiceState state)).2
      (.entity (some (.voiceState state.readBack))) := by
  intro db call message override state
  have done : ∀ write, (call write).1 = .ok .done → call write = (.ok .done, (call write).2) :=
    fun write done => Prod.ext done rfl
  refine ⟨?_, ?_, ?_⟩
  · exact (stored_reads_back settled noon (call (.createMessage message)).2).1 (.message message)
      (done _ (by decide +kernel))
  · exact (stored_reads_back settled noon (call (.setOverride override)).2).2.1 override
      (by decide +kernel) (done _ (by decide +kernel))
  · exact (stored_reads_back settled noon (call (.upsertVoiceState state)).2).2.2 state
      (by decide +kernel) (done _ (by decide +kernel))

end Guildhall
