import Guildhall.Proofs.Store.Permuted

/-!
What is stored settles what is answered: two databases with the same rows give the same answers,
however the rows came to be there. Only the overrides of a channel, the reactions to a message and
the voice states of a channel are asked for in an order that can leave rows untold apart; these come
as the same ones.
-/

namespace Guildhall

section Queries

variable {α : Type} {a b : Database}

theorem ask_same {integers : List Int} {answer : Database → α} (same : answer a = answer b) :
    ask integers answer a = ask integers answer b := by
  unfold ask
  rw [same]

theorem askRead_same {integers : List Int} {answer : Database → Except Failure α}
    (same : answer a = answer b) : askRead integers answer a = askRead integers answer b := by
  unfold askRead
  rw [ask_same same]

theorem limited_same {limit : Int} {query : Query α} (same : query a = query b) :
    limited limit query a = limited limit query b := by
  unfold limited
  rw [same]

theorem one_same {entity : α → Entity} {query : Query (Option α)} (same : query a = query b) :
    Question.one entity query a = Question.one entity query b := by
  unfold Question.one
  rw [same]

theorem many_same {entity : α → Entity} {query : Query (List α)} (same : query a = query b) :
    Question.many entity query a = Question.many entity query b := by
  unfold Question.many
  rw [same]

end Queries

section Emojis

variable {rows others : List ReactionRow}

theorem emojisOf_perm (perm : rows.Perm others) :
    Reactions.emojisOf rows = Reactions.emojisOf others := by
  let use : ReactionRow → Nat × String := fun row => (row.createdAt.rank, row.emoji)
  let order : Nat × String → Nat × String → Ordering :=
    compareLex (compareOn Prod.fst) (compareOn Prod.snd)
  have uses : ∀ rows : List ReactionRow, (sortBy Reactions.emojiOrder rows).map ReactionRow.emoji =
      (sortBy order (rows.map use)).map Prod.snd := by
    intro rows
    rw [sortBy_map use (fun _ _ => rfl) rows, List.map_map]
    rfl
  have tells : ∀ p q, order p q = .eq → p = q := by
    intro p q same
    obtain ⟨time, emoji⟩ := compareLex_eq_eq.mp same
    exact Prod.ext (Std.compare_eq_iff_eq.mp time) (Std.compare_eq_iff_eq.mp emoji)
  unfold Reactions.emojisOf
  rw [uses, uses, sortBy_perm_eq (perm.map use) fun p _ q _ => tells p q]

theorem countOf_perm (perm : rows.Perm others) (currentUser : Int) :
    Reactions.countOf currentUser rows = Reactions.countOf currentUser others := by
  funext emoji
  have uses := perm.filter fun row => row.emoji = emoji
  simp only [Reactions.countOf, uses.length_eq, uses.any_eq]

end Emojis

section Orders

theorem last_same {α κ : Type} [Ord κ] [Std.LawfulEqOrd κ] {order : α → α → Ordering}
    {key : α → κ} {r s : α} (same : compareLex order (compareOn key) r s = .eq) : key r = key s :=
  Std.compare_eq_iff_eq.mp (compareLex_eq_eq.mp same).2

instance : Std.TransCmp Roles.order :=
  inferInstanceAs (Std.TransCmp (compareLex (compareOn _) (compareOn _)))

instance : Std.TransCmp Members.order :=
  inferInstanceAs (Std.TransCmp (compareLex (compareOn _) (compareOn _)))

instance : Std.TransCmp Bans.order :=
  inferInstanceAs (Std.TransCmp
    (compareLex (downward (compareOn _)) (downward (compareOn _))))

instance : Std.TransCmp Invites.order :=
  inferInstanceAs (Std.TransCmp (compareLex (downward (compareOn _)) (compareOn _)))

instance : Std.TransCmp Channels.order :=
  inferInstanceAs (Std.TransCmp (compareLex (compareOn _) (compareOn _)))

instance : Std.TransCmp Messages.order :=
  inferInstanceAs (Std.TransCmp (downward (compareOn _)))

instance : Std.TransCmp Reactions.order :=
  inferInstanceAs (Std.TransCmp
    (compareLex (compareOn _) (compareLex (compareOn _) (compareOn _))))

instance : Std.TransCmp ReadStates.order :=
  inferInstanceAs (Std.TransCmp (compareLex (compareOn _) (compareOn _)))

instance : Std.TransCmp VoiceStates.order :=
  inferInstanceAs (Std.TransCmp (compareLex (compareOn _) (compareOn _)))


end Orders

def VoiceStateRow.joining (row : VoiceStateRow) : Nat × Int := (row.joinedAt.rank, row.userId)

def joiningOrder : Nat × Int → Nat × Int → Ordering :=
  compareLex (compareOn Prod.fst) (compareOn Prod.snd)

instance : Std.TransCmp joiningOrder :=
  inferInstanceAs (Std.TransCmp (compareLex (compareOn _) (compareOn _)))

theorem eq_of_joiningOrder {p q : Nat × Int} (same : joiningOrder p q = .eq) : p = q :=
  Prod.ext (Std.compare_eq_iff_eq.mp (compareLex_eq_eq.mp same).1) (last_same same)

/-- No user joined the channel at one time in several guilds. -/
def Database.JoinsApart (db : Database) (channelId : Int) : Prop :=
  ∀ r ∈ db.voiceStates, ∀ s ∈ db.voiceStates, r.channelId = channelId → s.channelId = channelId →
    r.joining = s.joining → r = s

namespace Twins

variable {a b : Database} (twins : Twins a b)

include twins

section Joins

theorem heldBy (guildId userId : Int) :
    Roles.heldBy a guildId userId = Roles.heldBy b guildId userId := by
  refine twins.joined .memberRoles .roles Roles.order ?_
  intro r s same
  simp_all [Roles.order, compareLex_eq_eq, compareOn, Table.identity]

theorem withRoles : Members.withRoles a = Members.withRoles b := by
  funext row
  rw [Members.withRoles_eq, Members.withRoles_eq, twins.heldBy]

theorem recipientsOf (channelId : Int) :
    Directs.recipientsOf a channelId = Directs.recipientsOf b channelId := by
  rw [Directs.recipientsOf_eq, Directs.recipientsOf_eq]
  refine congrArg _ (twins.joined .recipients .users (compareOn UserRow.id) ?_)
  intro r s same
  simpa [compareOn, Table.identity] using same

theorem withRecipients : Directs.withRecipients a = Directs.withRecipients b := by
  funext row
  rw [Directs.withRecipients, Directs.withRecipients, twins.recipientsOf]

theorem withAuthors (rows : List MessageRow) :
    Messages.withAuthors a rows = Messages.withAuthors b rows := by
  unfold Messages.withAuthors
  refine List.flatMap_congr fun row _ => congrArg _ ?_
  exact twins.keyed .users [.int row.authorId] (by simp [Table.identity])

end Joins

theorem named (username : String) :
    a.users.find? (fun row => row.username = username) =
      b.users.find? fun row => row.username = username := by
  have rows : a.users.filter (fun row => row.username = username) =
      b.users.filter fun row => row.username = username := by
    refine filter_perm_eq (twins.perm .users) ?_
    intro r first s second pickedFirst pickedSecond
    simp only [decide_eq_true_eq] at pickedFirst pickedSecond
    exact List.inj_on_of_nodup_map (consistent_of_sound twins.first).usernames first second
      (pickedFirst.trans pickedSecond.symm)
  exact List.head?_filter.symm.trans ((congrArg List.head? rows).trans List.head?_filter)

section Lists

theorem membersOfGuild (guildId limit offset : Int) :
    Members.ofGuild .sqlite guildId limit offset a =
      Members.ofGuild .sqlite guildId limit offset b := by
  have sorted : sortBy Members.order (a.members.filter fun row => row.guildId = guildId) =
      sortBy Members.order (b.members.filter fun row => row.guildId = guildId) :=
    twins.sorted .members Members.order fun r s first second same => by
      have user : r.userId = s.userId := last_same same
      simp_all [Table.identity]
  have rows : Members.page a guildId limit offset = Members.page b guildId limit offset := by
    rw [Members.page, Members.page, sorted]
  rw [Members.ofGuild_eq]
  refine limited_same ?_
  split
  · rfl
  · refine askRead_same ?_
    rw [rows, twins.withRoles]

theorem directsOfUser (userId : Int) :
    Directs.ofUser .sqlite userId a = Directs.ofUser .sqlite userId b := by
  have rows : Directs.rowsOf a userId = Directs.rowsOf b userId := by
    refine twins.joined .recipients .directChannels (downward (compareOn DirectChannelRow.id)) ?_
    intro r s same
    simp_all [downward, compareOn, Table.identity]
  rw [Directs.ofUser_eq]
  refine askRead_same ?_
  rw [rows, twins.withRecipients]

theorem newest (chosen : MessageRow → Bool) :
    sortBy Messages.order (a.messages.filter chosen) =
      sortBy Messages.order (b.messages.filter chosen) := by
  refine twins.sorted .messages Messages.order ?_
  intro r s _ _ same
  simp_all [Messages.order, downward, compareOn, Table.identity]

theorem messagesOfChannel (channelId : Int) (before : Option Int) (limit : Int) :
    Messages.ofChannel channelId before limit a = Messages.ofChannel channelId before limit b := by
  refine limited_same (ask_same ?_)
  dsimp only
  rw [twins.withAuthors, twins.newest]

theorem search (request : Messages.Search) (limit : Int) :
    request.run limit a = request.run limit b := by
  have inGuild : request.inGuild a = request.inGuild b := by
    funext row
    exact twins.any .channels _
  have hits : request.hits a = request.hits b := by
    funext row
    rw [Messages.Search.hits, Messages.Search.hits, inGuild]
  have tried : request.isTried a = request.isTried b := by
    unfold Messages.Search.isTried
    rw [inGuild]
    split
    · exact twins.any .messages _
    · exact twins.any .messages _
  refine limited_same (askRead_same ?_)
  rw [tried, hits, twins.newest, twins.withAuthors]

theorem rolesOfGuild (guildId : Int) : Roles.ofGuild guildId a = Roles.ofGuild guildId b := by
  refine ask_same (twins.sorted .roles Roles.order fun r s _ _ same => ?_)
  have id : r.id = s.id := last_same same
  simp [Table.identity, id]

theorem bansOfGuild (guildId : Int) : Bans.ofGuild guildId a = Bans.ofGuild guildId b := by
  refine ask_same (congrArg (List.map BanRow.ban) (twins.sorted .bans Bans.order ?_))
  intro r s first second same
  have user : s.userId = r.userId := Std.compare_eq_iff_eq.mp (compareLex_eq_eq.mp same).2
  simp_all [Table.identity]

theorem invitesOfGuild (guildId : Int) : Invites.ofGuild guildId a = Invites.ofGuild guildId b := by
  refine askRead_same (congrArg (List.mapM InviteRow.invite)
    (twins.sorted .invites Invites.order ?_))
  intro r s _ _ same
  have code : r.code = s.code := last_same same
  simp [Table.identity, code]

theorem channelsOfGuild (guildId : Int) :
    Channels.ofGuild guildId a = Channels.ofGuild guildId b := by
  refine askRead_same (congrArg (List.mapM ChannelRow.channel)
    (twins.sorted .channels Channels.order ?_))
  intro r s _ _ same
  have id : r.id = s.id := last_same same
  simp [Table.identity, id]

theorem attachmentsOfMessage (messageId : Int) :
    Attachments.ofMessage messageId a = Attachments.ofMessage messageId b := by
  refine ask_same (twins.sorted .attachments (compareOn Attachment.id) ?_)
  intro r s _ _ same
  have id : r.id = s.id := Std.compare_eq_iff_eq.mp same
  simp [Table.identity, id]

theorem usersOfReaction (messageId : Int) (emoji : String) (limit : Int) :
    Reactions.usersOf messageId emoji limit a = Reactions.usersOf messageId emoji limit b := by
  have rows : sortBy Reactions.order (a.reactions.filter fun row =>
        row.messageId = messageId && row.emoji = emoji) =
      sortBy Reactions.order (b.reactions.filter fun row =>
        row.messageId = messageId && row.emoji = emoji) := by
    refine twins.sorted .reactions Reactions.order fun r s first second same => ?_
    have user : r.userId = s.userId :=
      Std.compare_eq_iff_eq.mp (compareLex_eq_eq.mp (compareLex_eq_eq.mp same).2).1
    simp_all [Table.identity]
  exact limited_same (ask_same
    (congrArg (fun rows => (rows.take limit.toNat).map ReactionRow.userId) rows))

theorem readStatesOfUser (userId : Int) :
    ReadStates.ofUser userId a = ReadStates.ofUser userId b := by
  refine askRead_same (congrArg (List.mapM ReadStateRow.state)
    (twins.sorted .readStates ReadStates.order ?_))
  intro r s first second same
  have channel : r.channelId = s.channelId := last_same same
  simp_all [Table.identity]

theorem voiceStatesOfGuild (guildId : Int) :
    VoiceStates.ofGuild guildId a = VoiceStates.ofGuild guildId b := by
  refine ask_same (congrArg (List.map VoiceStateRow.state)
    (twins.sorted .voiceStates VoiceStates.order ?_))
  intro r s first second same
  have user : r.userId = s.userId := last_same same
  simp_all [Table.identity]

theorem voiceStatesOfChannel {channelId : Int} (apart : a.JoinsApart channelId) :
    VoiceStates.ofChannel channelId a = VoiceStates.ofChannel channelId b := by
  have rows : sortBy VoiceStates.order (a.voiceStates.filter fun row => row.channelId = channelId) =
      sortBy VoiceStates.order (b.voiceStates.filter fun row => row.channelId = channelId) := by
    refine sortBy_perm_eq ((twins.perm .voiceStates).filter _) fun r first s second same => ?_
    obtain ⟨here, inside⟩ := List.mem_filter.mp first
    obtain ⟨there, also⟩ := List.mem_filter.mp second
    exact apart r here s there (of_decide_eq_true inside) (of_decide_eq_true also)
      (eq_of_joiningOrder same)
  exact ask_same (congrArg (List.map VoiceStateRow.state) rows)

theorem recipientIds (channelId : Int) :
    Directs.recipientIds a channelId = Directs.recipientIds b channelId := by
  have ids := ((twins.perm .recipients).filter fun row => row.channelId = channelId).map
    RecipientRow.userId
  exact sortBy_perm_eq ids fun m _ n _ same => Std.compare_eq_iff_eq.mp same

theorem reactionCounts (messageId currentUser : Int) :
    Reactions.counts messageId currentUser a = Reactions.counts messageId currentUser b := by
  have rows := (twins.perm .reactions).filter fun row => row.messageId = messageId
  refine ask_same ?_
  exact congrArg₂ List.map (countOf_perm rows currentUser) (emojisOf_perm rows)

end Lists

end Twins

/-- The order in which the question lists what it finds tells all of it apart. -/
def Question.Ordered : Question → Prop
  | .overridesOfChannel _ | .reactionsOfMessage _ | .voiceStatesOfChannel _ => False
  | _ => True

theorem Twins.query {a b : Database} (twins : Twins a b) {question : Question}
    (ordered : question.Ordered) : question.query a = question.query b := by
  cases question
  case overridesOfChannel | reactionsOfMessage | voiceStatesOfChannel => exact ordered.elim
  case user id =>
    exact one_same (ask_same (congrArg _
      (twins.found .users [.int id] (by simp [Table.identity]))))
  case guild id =>
    exact one_same (ask_same (congrArg _
      (twins.found .guilds [.int id] (by simp [Table.identity]))))
  case member guildId userId =>
    have found : a.members.find? (Members.isOf guildId userId) =
        b.members.find? (Members.isOf guildId userId) :=
      twins.found .members [.int guildId, .int userId] (by simp [Table.identity, Members.isOf])
    refine one_same (ask_same ?_)
    rw [twins.withRoles]
    exact congrArg _ found
  case role id =>
    exact one_same (ask_same (twins.found .roles [.int id] (by simp [Table.identity])))
  case ban guildId userId =>
    exact one_same (ask_same (congrArg _ (twins.found .bans [.int guildId, .int userId]
      (by simp [Table.identity, Bans.isOf]))))
  case invite code =>
    exact one_same (askRead_same (congrArg _
      (twins.found .invites [.text code] (by simp [Table.identity]))))
  case channel id =>
    exact one_same (askRead_same (congrArg _
      (twins.found .channels [.int id] (by simp [Table.identity]))))
  case readState userId channelId =>
    exact one_same (askRead_same (congrArg _
      (twins.found .readStates [.int userId, .int channelId]
        (by simp [Table.identity, ReadStates.isOf]))))
  case voiceState guildId userId =>
    exact one_same (ask_same (congrArg _
      (twins.found .voiceStates [.int guildId, .int userId]
        (by simp [Table.identity, VoiceStates.isOf]))))
  case direct channelId =>
    have found : a.directChannels.find? (fun row => row.id = channelId) =
        b.directChannels.find? fun row => row.id = channelId :=
      twins.found .directChannels [.int channelId] (by simp [Table.identity])
    refine one_same (askRead_same ?_)
    rw [twins.withRecipients]
    exact congrArg _ found
  case message id =>
    have rows : a.messages.filter (fun row => row.id = id) =
        b.messages.filter fun row => row.id = id :=
      twins.keyed .messages [.int id] (by simp [Table.identity])
    refine one_same (ask_same ?_)
    rw [twins.withAuthors]
    exact congrArg (fun rows => (Messages.withAuthors b rows).head?) rows
  case userByName username =>
    exact one_same (ask_same (congrArg _ (twins.named username)))
  case guildsOfUser userId =>
    refine many_same (ask_same (congrArg _ (twins.joined .members .guilds
      (compareOn GuildRow.id) ?_)))
    intro r s same
    simpa [compareOn, Table.identity] using same
  case membersOfGuild guildId limit offset =>
    exact many_same (twins.membersOfGuild guildId limit offset)
  case rolesOfMember guildId userId => exact many_same (ask_same (twins.heldBy guildId userId))
  case directsOfUser userId => exact many_same (twins.directsOfUser userId)
  case messagesOfChannel channelId before limit =>
    exact many_same (twins.messagesOfChannel channelId before limit)
  case search request limit => exact many_same (twins.search request limit)
  case reactionCounts messageId currentUser =>
    exact many_same (twins.reactionCounts messageId currentUser)
  case rolesOfGuild guildId => exact many_same (twins.rolesOfGuild guildId)
  case bansOfGuild guildId => exact many_same (twins.bansOfGuild guildId)
  case invitesOfGuild guildId => exact many_same (twins.invitesOfGuild guildId)
  case channelsOfGuild guildId => exact many_same (twins.channelsOfGuild guildId)
  case attachmentsOfMessage messageId => exact many_same (twins.attachmentsOfMessage messageId)
  case usersOfReaction messageId emoji limit =>
    exact congrArg (Except.map Answer.ids) (twins.usersOfReaction messageId emoji limit)
  case isRecipient channelId userId =>
    exact congrArg (Except.map Answer.flag) (ask_same (twins.any .recipients _))
  case recipientIds channelId =>
    exact congrArg (Except.map Answer.ids) (ask_same (twins.recipientIds channelId))
  case readStatesOfUser userId => exact many_same (twins.readStatesOfUser userId)
  case voiceStatesOfGuild guildId => exact many_same (twins.voiceStatesOfGuild guildId)

/-- The same things in perhaps another order, or the same fault. -/
inductive Reordered : Except Failure Answer → Except Failure Answer → Prop where
  | fault (failure : Failure) : Reordered (.error failure) (.error failure)
  | listed {first second : List Entity} (perm : first.Perm second) :
      Reordered (.ok (.entities first)) (.ok (.entities second))

theorem reordered_ask {α : Type} {a b : Database} {entity : α → Entity} {integers : List Int}
    {answer : Database → List α} (perm : (answer a).Perm (answer b)) :
    Reordered (Question.many entity (ask integers answer) a)
      (Question.many entity (ask integers answer) b) := by
  unfold Question.many
  cases fits : integers.all fitsWord with
  | true =>
      rw [ask_fits fits, ask_fits fits]
      exact .listed (perm.map entity)
  | false =>
      rw [ask_large fits, ask_large fits]
      exact .fault .tooLarge

section Shuffled

variable {a b : Database} (twins : Twins a b)

include twins

theorem Twins.overridesOfChannel (channelId : Int) :
    Reordered ((Question.overridesOfChannel channelId).query a)
      ((Question.overridesOfChannel channelId).query b) := by
  refine reordered_ask ?_
  have rows := (twins.perm .channelOverrides).filter fun row => row.channelId = channelId
  exact (sortBy_perm _ _).trans (rows.trans (sortBy_perm _ _).symm)

theorem Twins.reactionsOfMessage (messageId : Int) :
    Reordered ((Question.reactionsOfMessage messageId).query a)
      ((Question.reactionsOfMessage messageId).query b) := by
  refine reordered_ask (List.Perm.map ReactionRow.reaction ?_)
  have rows := (twins.perm .reactions).filter fun row => row.messageId = messageId
  exact (sortBy_perm _ _).trans (rows.trans (sortBy_perm _ _).symm)

end Shuffled

end Guildhall
