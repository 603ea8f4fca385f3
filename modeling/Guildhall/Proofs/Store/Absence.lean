import Guildhall.Proofs.Store.Verdict

/-!
Questions about what is not there. A missing row is answered by none and an empty scope by an empty
list, whatever identifier the question names: what refers to a row goes with it.
-/

namespace Guildhall

namespace Question

def nothing : Question → Answer
  | user _ | userByName _ | guild _ | member .. | role _ | ban .. | invite _ | channel _ | message _
  | direct _ | readState .. | voiceState .. => .entity none
  | usersOfReaction .. | recipientIds _ => .ids []
  | isRecipient .. => .flag false
  | _ => .entities []

/-- The row that the question looks for, or under which it collects others, is missing. Messages do
not refer to a row for their channel; there, no message names it. -/
def Absent (db : Database) : Question → Prop
  | user id | guildsOfUser id | directsOfUser id | readStatesOfUser id =>
    ∀ row ∈ db.users, row.id ≠ id
  | userByName username => ∀ row ∈ db.users, row.username ≠ username
  | guild id | membersOfGuild id _ _ | rolesOfGuild id | bansOfGuild id | invitesOfGuild id
  | channelsOfGuild id | voiceStatesOfGuild id => ∀ row ∈ db.guilds, row.id ≠ id
  | search request _ => ∀ row ∈ db.guilds, row.id ≠ request.guildId
  | member guildId userId | rolesOfMember guildId userId =>
    ∀ row ∈ db.members, (row.guildId, row.userId) ≠ (guildId, userId)
  | role id => ∀ row ∈ db.roles, row.id ≠ id
  | ban guildId userId => ∀ row ∈ db.bans, (row.guildId, row.userId) ≠ (guildId, userId)
  | invite code => ∀ row ∈ db.invites, row.code ≠ code
  | channel id | overridesOfChannel id | voiceStatesOfChannel id =>
    ∀ row ∈ db.channels, row.id ≠ id
  | message id | attachmentsOfMessage id | reactionsOfMessage id | reactionCounts id _
  | usersOfReaction id _ _ => ∀ row ∈ db.messages, row.id ≠ id
  | messagesOfChannel channelId _ _ => ∀ row ∈ db.messages, row.channelId ≠ channelId
  | direct id | recipientIds id => ∀ row ∈ db.directChannels, row.id ≠ id
  | isRecipient channelId userId =>
    ∀ row ∈ db.recipients, (row.channelId, row.userId) ≠ (channelId, userId)
  | readState userId channelId =>
    ∀ row ∈ db.readStates, (row.userId, row.channelId) ≠ (userId, channelId)
  | voiceState guildId userId =>
    ∀ row ∈ db.voiceStates, (row.guildId, row.userId) ≠ (guildId, userId)

/-- The storage takes the arguments of the question: limits, integers and pattern. -/
structure Taken (asked : Question) : Prop where
  accepted : asked.refusal? = none
  fits : asked.integers.all fitsWord = true
  simple : ∀ request limit, asked = .search request limit →
    Text.patternSize request.query ≤ Text.patternLimit

section Shapes

variable {α : Type} {entity : α → Entity} {integers : List Int} {db : Database}

theorem one_nothing {answer : Database → Option α} (fits : integers.all fitsWord = true)
    (missing : answer db = none) : one entity (ask integers answer) db = .ok (.entity none) := by
  rw [one, ask_fits fits, missing]
  rfl

theorem many_nothing {answer : Database → List α} (fits : integers.all fitsWord = true)
    (empty : answer db = []) : many entity (ask integers answer) db = .ok (.entities []) := by
  rw [many, ask_fits fits, empty]
  rfl

theorem one_read_nothing {read : Database → Except Failure (Option α)}
    (fits : integers.all fitsWord = true) (missing : read db = .ok none) :
    one entity (askRead integers read) db = .ok (.entity none) := by
  rw [one, askRead_fits fits, missing]
  rfl

theorem many_read_nothing {read : Database → Except Failure (List α)}
    (fits : integers.all fitsWord = true) (empty : read db = .ok []) :
    many entity (askRead integers read) db = .ok (.entities []) := by
  rw [many, askRead_fits fits, empty]
  rfl

theorem limited_accepted {limit : Int} {refusal : Failure} {query : Query α}
    (accepted : (if limit < 1 then some refusal else none) = none) :
    limited limit query db = query db := by
  unfold limited
  split
  · rename_i low
    rw [if_pos low] at accepted
    cases accepted
  · rfl

end Shapes

section Rows

variable {α : Type} {rows : List α}

theorem find_missing {chosen : α → Bool} (missed : ∀ row ∈ rows, chosen row = false) :
    rows.find? chosen = none :=
  List.find?_eq_none.mpr fun row member => Bool.eq_false_iff.mp (missed row member)

theorem filter_missing {chosen : α → Bool} (missed : ∀ row ∈ rows, chosen row = false) :
    rows.filter chosen = [] :=
  List.filter_eq_nil_iff.mpr fun row member => Bool.eq_false_iff.mp (missed row member)

theorem read_missing {β : Type} {chosen : α → Bool} {read : α → Except Failure β}
    (missed : ∀ row ∈ rows, chosen row = false) : (rows.find? chosen).mapM read = .ok none := by
  rw [find_missing missed]
  rfl

theorem read_empty {β : Type} {order : α → α → Ordering} {read : α → Except Failure β}
    (empty : rows = []) : (sortBy order rows).mapM read = .ok [] := by
  rw [empty, sortBy_nil]
  rfl

theorem filter_orphans {β κ : Type} [DecidableEq κ] {parents : List β} {parentKey : β → κ}
    {key : α → κ} {k : κ}
    (answered : ∀ row ∈ rows, ∃ parent ∈ parents, parentKey parent = key row)
    (absent : ∀ parent ∈ parents, parentKey parent ≠ k) :
    rows.filter (fun row => key row = k) = [] := by
  refine filter_missing fun row member => decide_eq_false fun same => ?_
  obtain ⟨parent, present, named⟩ := answered row member
  exact absent parent present (named.trans same)

end Rows

section Pages

variable {db : Database} {limit : Int}

theorem members_nothing {guildId offset : Int} (consistent : db.Consistent)
    (absent : ∀ row ∈ db.guilds, row.id ≠ guildId) (high : ¬limit < 1) (positive : ¬offset < 0)
    (fits : [guildId, limit, offset].all fitsWord = true) :
    Members.ofGuild .sqlite guildId limit offset db = .ok [] := by
  have empty : Members.page db guildId limit offset = [] := by
    rw [Members.page, filter_orphans consistent.memberGuild absent, sortBy_nil]
    simp
  unfold Members.ofGuild limited
  rw [if_neg high]
  dsimp only
  rw [if_neg positive, askRead_fits fits]
  simp only [empty]
  rfl

theorem messages_nothing {channelId : Int} {before : Option Int}
    (absent : ∀ row ∈ db.messages, row.channelId ≠ channelId)
    (accepted : (messagesOfChannel channelId before limit).refusal? = none)
    (fits : ([channelId, limit] ++ before.toList).all fitsWord = true) :
    Messages.ofChannel channelId before limit db = .ok [] := by
  have empty : db.messages.filter (fun row => row.channelId = channelId &&
      before.all fun id => row.id < id) = [] :=
    filter_missing fun row member => by simp [absent row member]
  rw [Messages.ofChannel, limited_accepted accepted, ask_fits fits]
  simp only [empty, sortBy_nil, Messages.withAuthors, List.flatMap_nil, List.take_nil]

theorem search_nothing {request : Messages.Search} (consistent : db.Consistent)
    (absent : ∀ row ∈ db.guilds, row.id ≠ request.guildId)
    (accepted : (search request limit).refusal? = none)
    (fits : (limit :: request.integers).all fitsWord = true)
    (short : Text.patternSize request.query ≤ Text.patternLimit) :
    request.run limit db = .ok [] := by
  have outside : ∀ row, request.inGuild db row = false := by
    intro row
    refine List.any_eq_false.mpr fun channel stored here => ?_
    obtain ⟨guild, present, named⟩ := consistent.channelGuild channel stored
    simp only [Bool.and_eq_true, decide_eq_true_eq] at here
    exact absent guild present (named.trans here.2)
  have empty : db.messages.filter (request.hits db) = [] :=
    filter_missing fun row _ => by simp [Messages.Search.hits, outside row]
  have simple : ¬(Text.patternLimit < Text.patternSize request.query ∧
      request.isTried db = true) := fun long => Nat.not_lt.mpr short long.1
  rw [Messages.Search.run, limited_accepted accepted, askRead_fits fits, if_neg simple]
  simp only [empty, sortBy_nil, Messages.withAuthors, List.flatMap_nil, List.take_nil]

theorem usersOfReaction_nothing {messageId : Int} {emoji : String} (consistent : db.Consistent)
    (absent : ∀ row ∈ db.messages, row.id ≠ messageId)
    (accepted : (usersOfReaction messageId emoji limit).refusal? = none)
    (fits : [messageId, limit].all fitsWord = true) :
    Reactions.usersOf messageId emoji limit db = .ok [] := by
  have empty : db.reactions.filter (fun row =>
      row.messageId = messageId && row.emoji = emoji) = [] := by
    refine filter_missing fun row member => ?_
    obtain ⟨message, present, named⟩ := consistent.reactionMessage row member
    have apart : row.messageId ≠ messageId := fun same => absent message present (named.trans same)
    simp [apart]
  rw [Reactions.usersOf, limited_accepted accepted, ask_fits fits]
  simp only [empty, sortBy_nil, List.take_nil, List.map_nil]

end Pages

/-- What is not there is answered so wherever the storage takes the arguments. -/
theorem query_nothing {db : Database} (sound : db.Sound Catalog.declared) {asked : Question}
    (absent : asked.Absent db) (taken : asked.Taken) : asked.query db = .ok asked.nothing := by
  have consistent := consistent_of_sound sound
  obtain ⟨accepted, fits, simple⟩ := taken
  cases asked with
  | user | guild | role | userByName =>
      exact one_nothing fits (by simpa [Absent] using absent)
  | member | ban | voiceState =>
      exact one_nothing fits
        (by simpa [Absent, Members.isOf, Bans.isOf, VoiceStates.isOf] using absent)
  | guildsOfUser userId =>
      have empty := filter_orphans consistent.memberUser absent
      refine many_nothing fits ?_
      simp only [empty, List.flatMap_nil, sortBy_nil, List.map_nil]
  | membersOfGuild guildId limit offset =>
      simp only [refusal?] at accepted
      split at accepted
      · cases accepted
      rename_i high
      split at accepted
      · cases accepted
      rename_i positive
      exact congrArg (Except.map _) (members_nothing consistent absent high positive fits)
  | rolesOfGuild guildId =>
      have empty := filter_orphans consistent.roleGuild absent
      exact many_nothing fits (by simp only [empty, sortBy_nil])
  | rolesOfMember guildId userId =>
      have empty := filter_orphans consistent.memberRoleMember absent
      refine many_nothing fits ?_
      simp only [Prod.mk.injEq] at empty
      simp only [Roles.heldBy, empty, List.flatMap_nil, sortBy_nil]
  | bansOfGuild guildId =>
      have empty := filter_orphans consistent.banGuild absent
      exact many_nothing fits (by simp only [empty, sortBy_nil, List.map_nil])
  | invite code => exact one_read_nothing fits (read_missing (by simpa [Absent] using absent))
  | invitesOfGuild guildId =>
      have empty := filter_orphans consistent.inviteGuild absent
      exact many_read_nothing fits (read_empty empty)
  | channel id => exact one_read_nothing fits (read_missing (by simpa [Absent] using absent))
  | channelsOfGuild guildId =>
      have empty := filter_orphans consistent.channelGuild absent
      exact many_read_nothing fits (read_empty empty)
  | overridesOfChannel channelId =>
      have empty := filter_orphans consistent.overrideChannel absent
      exact many_nothing fits (by simp only [empty, sortBy_nil])
  | message id =>
      have empty : db.messages.filter (fun row => row.id = id) = [] :=
        filter_missing (by simpa [Absent] using absent)
      refine one_nothing fits ?_
      simp only [empty, Messages.withAuthors, List.flatMap_nil, List.head?_nil]
  | messagesOfChannel => exact congrArg (Except.map _) (messages_nothing absent accepted fits)
  | search request limit =>
      have short := simple request limit rfl
      exact congrArg (Except.map _) (search_nothing consistent absent accepted fits short)
  | attachmentsOfMessage messageId =>
      have empty := filter_orphans consistent.attachmentMessage absent
      refine many_nothing fits ?_
      change sortBy _ (db.attachments.filter fun row => row.messageId = messageId) = []
      rw [empty, sortBy_nil]
  | reactionsOfMessage messageId =>
      have empty := filter_orphans consistent.reactionMessage absent
      exact many_nothing fits (by simp only [empty, sortBy_nil, List.map_nil])
  | reactionCounts messageId currentUser =>
      have empty := filter_orphans consistent.reactionMessage absent
      refine many_nothing fits ?_
      simp only [empty, Reactions.emojisOf, sortBy_nil, List.map_nil, List.eraseDups_nil]
  | usersOfReaction =>
      exact congrArg (Except.map _) (usersOfReaction_nothing consistent absent accepted fits)
  | direct channelId => exact one_read_nothing fits (read_missing (by simpa [Absent] using absent))
  | directsOfUser userId =>
      have empty : Directs.rowsOf db userId = [] := by
        rw [Directs.rowsOf, filter_orphans consistent.recipientUser absent, List.flatMap_nil,
          sortBy_nil]
      refine many_read_nothing fits ?_
      simp only [empty]
      rfl
  | isRecipient channelId userId =>
      have missed : db.recipients.any (Directs.isRecipient channelId userId) = false := by
        simpa [Absent, Directs.isRecipient] using absent
      have words : [channelId, userId].all fitsWord = true := fits
      have told : Directs.hasRecipient channelId userId db = .ok false := by
        rw [Directs.hasRecipient, ask_fits words, missed]
      exact congrArg (Except.map _) told
  | recipientIds channelId =>
      have empty := filter_orphans consistent.recipientChannel absent
      have words : [channelId].all fitsWord = true := fits
      have told : Directs.recipientsById channelId db = .ok [] := by
        rw [Directs.recipientsById, ask_fits words, Directs.recipientIds, empty]
        exact congrArg Except.ok (sortBy_nil _)
      exact congrArg (Except.map _) told
  | readStatesOfUser userId =>
      have empty := filter_orphans consistent.readStateUser absent
      exact many_read_nothing fits (read_empty empty)
  | readState userId channelId =>
      exact one_read_nothing fits
        (read_missing (by simpa [Absent, ReadStates.isOf] using absent))
  | voiceStatesOfChannel channelId =>
      have empty := filter_orphans consistent.voiceStateChannel absent
      exact many_nothing fits (by simp only [empty, sortBy_nil, List.map_nil])
  | voiceStatesOfGuild guildId =>
      have empty := filter_orphans consistent.voiceStateGuild absent
      exact many_nothing fits (by simp only [empty, sortBy_nil, List.map_nil])

end Question

end Guildhall
