import Guildhall.Proofs.Secrecy.Censored
import Guildhall.Proofs.Store.Batch
import Guildhall.Store.Command

/-!
Questions to blanked tables: the answers are the same up to the blanks, and their JSON form, which
writes no secret, is the same altogether.
-/

namespace Guildhall

def DirectChannel.censored (channel : DirectChannel) : DirectChannel :=
  { channel with recipients := channel.recipients.map User.censored }

def Entity.censored : Entity → Entity
  | .user it => .user it.censored
  | .attachment it => .attachment it.censored
  | .direct it => .direct it.censored
  | it => it

def Answer.censored : Answer → Answer
  | .entity found => .entity (found.map Entity.censored)
  | .entities found => .entities (found.map Entity.censored)
  | answer => answer

section Serialized

theorem DirectChannel.toJson_censored (channel : DirectChannel) :
    channel.censored.toJson = channel.toJson := by
  have recipients : channel.censored.recipients.map User.toJson =
      channel.recipients.map User.toJson := by
    rw [censored, List.map_map]
    rfl
  unfold toJson
  rw [recipients]
  rfl

theorem Entity.toJson_censored (entity : Entity) : entity.censored.toJson = entity.toJson := by
  cases entity with
  | direct channel => exact channel.toJson_censored
  | _ => rfl

theorem Answer.toJson_censored (answer : Answer) : answer.censored.toJson = answer.toJson := by
  have shows : Entity.toJson ∘ Entity.censored = Entity.toJson := funext Entity.toJson_censored
  cases answer with
  | entity found =>
      cases found with
      | none => rfl
      | some entity => exact entity.toJson_censored
  | entities found =>
      change Json.list ((found.map Entity.censored).map Entity.toJson) = _
      rw [List.map_map, shows]
      rfl
  | _ => rfl

end Serialized

section Queries

variable {α : Type} {db : Database}

theorem ask_censored {integers : List Int} {answer : Database → α} {veil : α → α}
    (blank : answer db.censored = veil (answer db)) :
    ask integers answer db.censored = (ask integers answer db).map veil := by
  unfold ask
  rw [blank, demand_map]

theorem askRead_censored {integers : List Int} {answer : Database → Except Failure α}
    {veil : α → α} (blank : answer db.censored = (answer db).map veil) :
    askRead integers answer db.censored = (askRead integers answer db).map veil := by
  unfold askRead
  rw [ask_censored blank]
  cases ask integers answer db <;> rfl

theorem mapM_blank {β : Type} {read veiled : α → Except Failure β} {veil : β → β}
    (each : ∀ row, veiled row = (read row).map veil) (rows : List α) :
    rows.mapM veiled = (rows.mapM read).map (List.map veil) := by
  induction rows with
  | nil => rfl
  | cons row rest ih =>
      rw [List.mapM_cons, List.mapM_cons, each, ih]
      cases read row with
      | error failure => rfl
      | ok first =>
          cases rest.mapM read <;> rfl

theorem mapM_blank_option {β : Type} {read veiled : α → Except Failure β} {veil : β → β}
    (each : ∀ row, veiled row = (read row).map veil) (found : Option α) :
    found.mapM veiled = (found.mapM read).map (Option.map veil) := by
  cases found with
  | none => rfl
  | some row =>
      change (veiled row).map some = ((read row).map some).map (Option.map veil)
      rw [each]
      cases read row <;> rfl

end Queries

section Tables

variable (db : Database)

theorem filter_users (chosen : UserRow → Bool) (alike : ∀ row, chosen row.censored = chosen row) :
    db.censored.users.filter chosen = (db.users.filter chosen).map UserRow.censored :=
  @filter_censored .users _ _ alike db.users

theorem withAuthors_censored (rows : List MessageRow) :
    Messages.withAuthors db.censored rows = Messages.withAuthors db rows := by
  unfold Messages.withAuthors
  congr 1
  funext row
  rw [filter_users db _ fun _ => rfl, List.map_map]
  rfl

theorem recipientsOf_censored (channelId : Int) :
    Directs.recipientsOf db.censored channelId =
      (Directs.recipientsOf db channelId).map User.censored := by
  let joined : List UserRow :=
    (db.recipients.filter fun row => row.channelId = channelId).flatMap fun recipient =>
      db.users.filter fun row => row.id = recipient.userId
  have blanked : ((db.recipients.filter fun row => row.channelId = channelId).flatMap
      fun recipient => db.censored.users.filter fun row => row.id = recipient.userId) =
      joined.map UserRow.censored := by
    rw [List.map_flatMap]
    congr 1
    funext recipient
    exact filter_users db _ fun _ => rfl
  have sorted : sortBy (compareOn UserRow.id) (joined.map UserRow.censored) =
      (sortBy (compareOn UserRow.id) joined).map UserRow.censored :=
    sortBy_map _ (fun _ _ => rfl) _
  calc Directs.recipientsOf db.censored channelId
      = (sortBy (compareOn UserRow.id) (joined.map UserRow.censored)).map UserRow.user := by
        rw [Directs.recipientsOf_eq]
        exact congrArg (fun rows => (sortBy (compareOn UserRow.id) rows).map UserRow.user) blanked
    _ = (sortBy (compareOn UserRow.id) joined).map (User.censored ∘ UserRow.user) := by
        rw [sorted, List.map_map]
        rfl
    _ = (Directs.recipientsOf db channelId).map User.censored := by
        rw [Directs.recipientsOf_eq, List.map_map]

theorem withRecipients_censored (row : DirectChannelRow) :
    Directs.withRecipients db.censored row =
      (Directs.withRecipients db row).map DirectChannel.censored := by
  unfold Directs.withRecipients DirectChannelRow.channel
  rw [recipientsOf_censored]
  cases DirectKind.ofCode? row.kind <;> rfl

theorem between_censored (first second : Int) :
    Directs.between first second db.censored =
      (Directs.between first second db).map (Option.map DirectChannel.censored) :=
  askRead_censored (mapM_blank_option (withRecipients_censored db) _)

theorem findDirect_censored (channelId : Int) :
    Directs.find channelId db.censored =
      (Directs.find channelId db).map (Option.map DirectChannel.censored) :=
  askRead_censored (mapM_blank_option (withRecipients_censored db) _)

theorem findUser_censored (chosen : UserRow → Bool)
    (alike : ∀ row, chosen row.censored = chosen row) :
    (db.censored.users.find? chosen).map UserRow.user =
      ((db.users.find? chosen).map UserRow.user).map User.censored := by
  have same : chosen ∘ UserRow.censored = chosen := funext alike
  change ((db.users.map UserRow.censored).find? chosen).map UserRow.user = _
  rw [List.find?_map, same, Option.map_map, Option.map_map]
  rfl

theorem attachmentsOf_censored (messageId : Int) :
    sortBy (compareOn Attachment.id)
        (db.censored.attachments.filter (Attachments.isOf messageId)) =
      (sortBy (compareOn Attachment.id)
        (db.attachments.filter (Attachments.isOf messageId))).map Attachment.censored := by
  have filtered : db.censored.attachments.filter (Attachments.isOf messageId) =
      (db.attachments.filter (Attachments.isOf messageId)).map Attachment.censored :=
    @filter_censored .attachments _ _ (fun _ => rfl) db.attachments
  rw [filtered]
  exact sortBy_map _ (fun _ _ => rfl) _

end Tables

namespace Question

variable {α : Type} {entity : α → Entity} {db : Database}

theorem one_censored {query : Query (Option α)} {veil : α → α}
    (shows : ∀ value, (entity value).censored = entity (veil value))
    (blank : query db.censored = (query db).map (Option.map veil)) :
    one entity query db.censored = (one entity query db).map Answer.censored := by
  unfold one
  rw [blank]
  cases query db with
  | error failure => rfl
  | ok found =>
      cases found with
      | none => rfl
      | some value =>
          exact congrArg (fun it => Except.ok (Answer.entity (some it))) (shows value).symm

theorem many_censored {query : Query (List α)} {veil : α → α}
    (shows : ∀ value, (entity value).censored = entity (veil value))
    (blank : query db.censored = (query db).map (List.map veil)) :
    many entity query db.censored = (many entity query db).map Answer.censored := by
  unfold many
  rw [blank]
  cases query db with
  | error failure => rfl
  | ok found =>
      have each : (found.map veil).map entity = (found.map entity).map Entity.censored := by
        rw [List.map_map, List.map_map]
        exact List.map_congr_left fun value _ => (shows value).symm
      exact congrArg (fun them => Except.ok (Answer.entities them)) each

theorem one_unveiled {query : Query (Option α)}
    (shows : ∀ value, (entity value).censored = entity value)
    (same : query db.censored = query db) :
    one entity query db.censored = (one entity query db).map Answer.censored := by
  have unveiled : query db.censored = (query db).map (Option.map id) := by
    rw [same]
    cases query db <;> simp [Except.map]
  exact one_censored shows unveiled

theorem many_unveiled {query : Query (List α)}
    (shows : ∀ value, (entity value).censored = entity value)
    (same : query db.censored = query db) :
    many entity query db.censored = (many entity query db).map Answer.censored := by
  have unveiled : query db.censored = (query db).map (List.map id) := by
    rw [same]
    cases query db <;> simp [Except.map]
  exact many_censored shows unveiled

theorem plain_unveiled {answer : α → Answer}
    (plain : ∀ value, (answer value).censored = answer value) (outcome : Except Failure α) :
    outcome.map answer = (outcome.map answer).map Answer.censored := by
  cases outcome with
  | error failure => rfl
  | ok value => exact congrArg Except.ok (plain value).symm

/-- Every question is answered from blanked tables as from the tables themselves, up to blanks. -/
theorem query_censored (asked : Question) (db : Database) :
    asked.query db.censored = (asked.query db).map Answer.censored := by
  cases asked with
  | user id =>
      exact one_censored (fun _ => rfl) (ask_censored (findUser_censored db _ fun _ => rfl))
  | userByName username =>
      exact one_censored (fun _ => rfl) (ask_censored (findUser_censored db _ fun _ => rfl))
  | message id =>
      refine one_unveiled (fun _ => rfl) ?_
      unfold Messages.find
      simp only [ask, withAuthors_censored]
      rfl
  | messagesOfChannel channelId before limit =>
      refine many_unveiled (fun _ => rfl) ?_
      unfold Messages.ofChannel
      simp only [limited, ask, withAuthors_censored]
      rfl
  | search request limit =>
      refine many_unveiled (fun _ => rfl) ?_
      unfold Messages.Search.run
      simp only [limited, askRead, ask, withAuthors_censored]
      rfl
  | attachmentsOfMessage messageId =>
      exact many_censored (fun _ => rfl) (ask_censored (attachmentsOf_censored db messageId))
  | direct channelId => exact one_censored (fun _ => rfl) (findDirect_censored db channelId)
  | directsOfUser userId =>
      refine many_censored (fun _ => rfl) ?_
      rw [Directs.ofUser_eq]
      refine askRead_censored ?_
      have rows : Directs.rowsOf db.censored userId = Directs.rowsOf db userId := rfl
      rw [rows]
      cases Engine.sqlite.allow 0 (Directs.rowsOf db userId).length with
      | error failure => rfl
      | ok _ => exact mapM_blank (withRecipients_censored db) _
  | usersOfReaction | isRecipient | recipientIds => exact plain_unveiled (fun _ => rfl) _
  | guild | role | ban | invite | channel | readState | voiceState | member =>
      exact one_unveiled (fun _ => rfl) rfl
  | guildsOfUser | membersOfGuild | rolesOfGuild | rolesOfMember | bansOfGuild | invitesOfGuild
  | channelsOfGuild | overridesOfChannel | reactionsOfMessage | reactionCounts | readStatesOfUser
  | voiceStatesOfChannel | voiceStatesOfGuild =>
      exact many_unveiled (fun _ => rfl) rfl

end Question

end Guildhall
