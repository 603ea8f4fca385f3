import Guildhall.Form.Schema
import Guildhall.Proofs.Form.Field
import Guildhall.Proofs.Secrecy.Answer

/-!
What an entity is serialised to is a normal form: it is accepted again wherever it comes from, and
serialised to itself, and every identifier in it is the decimal text of the integer that was given.
Only an attachment is different, because its storage key is asked for and never serialised.
-/

namespace Guildhall.Form

structure Place where
  name : String
  holding : Holding
  deriving DecidableEq, Repr

def Schema.identifiers : Schema → List Place
  | .user => [⟨"id", .required⟩]
  | .guild => [⟨"id", .required⟩, ⟨"owner_id", .required⟩]
  | .member => [⟨"guild_id", .required⟩, ⟨"user_id", .required⟩, ⟨"roles", .list⟩]
  | .role => [⟨"id", .required⟩, ⟨"guild_id", .required⟩, ⟨"permissions", .permissions⟩]
  | .ban => [⟨"guild_id", .required⟩, ⟨"user_id", .required⟩, ⟨"created_by", .required⟩]
  | .invite => [⟨"guild_id", .required⟩, ⟨"channel_id", .optional⟩, ⟨"creator_id", .required⟩]
  | .channel => [⟨"id", .required⟩, ⟨"guild_id", .required⟩, ⟨"parent_id", .optional⟩]
  | .channelOverride => [⟨"channel_id", .required⟩, ⟨"role_id", .required⟩,
    ⟨"allow", .permissions⟩, ⟨"deny", .permissions⟩]
  | .message | .messageWithAuthor =>
    [⟨"id", .required⟩, ⟨"channel_id", .required⟩, ⟨"author_id", .required⟩]
  | .attachment => [⟨"id", .required⟩, ⟨"message_id", .required⟩]
  | .reaction => [⟨"message_id", .required⟩, ⟨"user_id", .required⟩]
  | .reactionCount => []
  | .directChannel => [⟨"id", .required⟩, ⟨"owner_id", .optional⟩, ⟨"recipients", .users⟩]
  | .readState => [⟨"user_id", .required⟩, ⟨"channel_id", .required⟩,
    ⟨"last_message_id", .required⟩]
  | .voiceState => [⟨"guild_id", .required⟩, ⟨"channel_id", .required⟩, ⟨"user_id", .required⟩]

/-- No whole number that a form gives for an identifier has more digits than are converted. -/
def Convertible (schema : Schema) (input : Json) : Prop :=
  ∀ place ∈ schema.identifiers, Sized place.holding (input.get? place.name)

/-- The output is accepted in any setting and serialised to itself, and it carries every identifier
of the form. -/
structure Settled (schema : Schema) (given output : Json) : Prop where
  again : ∀ setting, normalForm schema setting output = .valid output
  carried : ∀ place ∈ schema.identifiers, ∃ written, output.get? place.name = some written ∧
    Carries place.holding (given.get? place.name) written

section

variable {setting : Setting} {fields : Fields}

theorem Convertible.places {schema : Schema} {input : Json} (sized : Convertible schema input) :
    schema.identifiers.Forall fun place => Sized place.holding (input.get? place.name) :=
  List.forall_iff_forall_mem.mpr sized

theorem user_kept (clock : setting.now.Valid) (sized : Sized .required (Json.field? fields "id")) :
    (user setting fields).Ensures fun u =>
      (∀ other : Setting, entity other (user other) u.toJson = .valid u.censored) ∧
        Carries .required (Json.field? fields "id") (.ofId u.id) := by
  simp only [user, Checked.ensures_map, Checked.ensures_seq]
  intro id readId name _ display _ avatar _ password _ created readCreated
  have idKept := kept_required readId sized
  have timeAgain := time_again clock readCreated
  constructor
  · intro other
    simp [User.toJson, user, required, optional, Json.field?, idKept.again, timeAgain]
    rfl
  · exact idKept.carried

theorem user_settled (clock : setting.now.Valid) (sized : Convertible .user (.object fields)) :
    (user setting fields).Ensures fun u => Settled .user (.object fields) u.toJson := by
  intro u read
  obtain ⟨again, carried⟩ := user_kept clock (sized ⟨"id", .required⟩ (by decide)) u read
  constructor
  · intro other
    rw [normalForm, again]
    rfl
  · exact List.forall_iff_forall_mem.mp ⟨_, rfl, carried⟩

theorem guild_settled (clock : setting.now.Valid) (sized : Convertible .guild (.object fields)) :
    (guild setting fields).Ensures fun g => Settled .guild (.object fields) g.toJson := by
  obtain ⟨sizedId, sizedOwner⟩ := sized.places
  simp only [guild, Checked.ensures_map, Checked.ensures_seq]
  intro id readId name _ icon _ owner readOwner created readCreated
  have idKept := kept_required readId sizedId
  have ownerKept := kept_required readOwner sizedOwner
  have timeAgain := time_again clock readCreated
  constructor
  · intro other
    simp [normalForm, Guild.toJson, guild, required, optional, Json.field?, idKept.again,
      ownerKept.again, timeAgain]
    rfl
  · exact List.forall_iff_forall_mem.mp ⟨⟨_, rfl, idKept.carried⟩, ⟨_, rfl, ownerKept.carried⟩⟩

theorem member_settled (clock : setting.now.Valid) (sized : Convertible .member (.object fields)) :
    (member setting fields).Ensures fun m => Settled .member (.object fields) m.toJson := by
  obtain ⟨sizedGuild, sizedUser, sizedRoles⟩ := sized.places
  simp only [member, Checked.ensures_map, Checked.ensures_seq]
  intro guild readGuild user readUser nickname _ joined readJoined roles readRoles
  have guildKept := kept_required readGuild sizedGuild
  have userKept := kept_required readUser sizedUser
  have timeAgain := time_again clock readJoined
  have rolesKept := kept_list readRoles sizedRoles
  constructor
  · intro other
    simp [normalForm, Member.toJson, member, required, optional, Json.field?, guildKept.again,
      userKept.again, timeAgain, rolesKept.again]
    rfl
  · exact List.forall_iff_forall_mem.mp ⟨⟨_, rfl, guildKept.carried⟩, ⟨_, rfl, userKept.carried⟩,
      ⟨_, rfl, rolesKept.carried⟩⟩

theorem role_settled (sized : Convertible .role (.object fields)) :
    (role fields).Ensures fun r => Settled .role (.object fields) r.toJson := by
  obtain ⟨sizedId, sizedGuild, sizedBits⟩ := sized.places
  simp only [role, Checked.ensures_map, Checked.ensures_seq]
  intro id readId guild readGuild name _ color _ bits readBits position _ isDefault _
  have idKept := kept_required readId sizedId
  have guildKept := kept_required readGuild sizedGuild
  have bitsKept := kept_permissions readBits sizedBits
  constructor
  · intro other
    simp [normalForm, Role.toJson, role, required, optional, Json.field?, idKept.again,
      guildKept.again, bitsKept.again]
    rfl
  · exact List.forall_iff_forall_mem.mp ⟨⟨_, rfl, idKept.carried⟩, ⟨_, rfl, guildKept.carried⟩,
      ⟨_, rfl, bitsKept.carried⟩⟩

theorem ban_settled (clock : setting.now.Valid) (sized : Convertible .ban (.object fields)) :
    (ban setting fields).Ensures fun b => Settled .ban (.object fields) b.toJson := by
  obtain ⟨sizedGuild, sizedUser, sizedBanner⟩ := sized.places
  simp only [ban, Checked.ensures_map, Checked.ensures_seq]
  intro guild readGuild user readUser reason _ banner readBanner created readCreated
  have guildKept := kept_required readGuild sizedGuild
  have userKept := kept_required readUser sizedUser
  have bannerKept := kept_required readBanner sizedBanner
  have timeAgain := time_again clock readCreated
  constructor
  · intro other
    simp [normalForm, Ban.toJson, ban, required, optional, Json.field?, guildKept.again,
      userKept.again, bannerKept.again, timeAgain]
    rfl
  · exact List.forall_iff_forall_mem.mp ⟨⟨_, rfl, guildKept.carried⟩, ⟨_, rfl, userKept.carried⟩,
      ⟨_, rfl, bannerKept.carried⟩⟩

theorem invite_settled (clock : setting.now.Valid) (sized : Convertible .invite (.object fields)) :
    (invite setting fields).Ensures fun i => Settled .invite (.object fields) i.toJson := by
  obtain ⟨sizedGuild, sizedChannel, sizedCreator⟩ := sized.places
  simp only [invite, Checked.ensures_map, Checked.ensures_seq]
  intro code _ guild readGuild channel readChannel creator readCreator most _ uses _ expires
    readExpires created readCreated
  have guildKept := kept_required readGuild sizedGuild
  have channelKept := kept_optional readChannel sizedChannel
  have creatorKept := kept_required readCreator sizedCreator
  have expiresAgain := time?_again readExpires
  have timeAgain := time_again clock readCreated
  constructor
  · intro other
    simp [normalForm, Invite.toJson, invite, required, optional, Json.field?, guildKept.again,
      channelKept.again, creatorKept.again, expiresAgain, timeAgain]
    rfl
  · exact List.forall_iff_forall_mem.mp ⟨⟨_, rfl, guildKept.carried⟩,
      ⟨_, rfl, channelKept.carried⟩, ⟨_, rfl, creatorKept.carried⟩⟩

theorem channel_settled (sized : Convertible .channel (.object fields)) :
    (channel fields).Ensures fun c => Settled .channel (.object fields) c.toJson := by
  obtain ⟨sizedId, sizedGuild, sizedParent⟩ := sized.places
  simp only [channel, Checked.ensures_map, Checked.ensures_seq]
  intro id readId guild readGuild name _ kind _ position _ topic _ parent readParent
  have idKept := kept_required readId sizedId
  have guildKept := kept_required readGuild sizedGuild
  have parentKept := kept_optional readParent sizedParent
  constructor
  · intro other
    simp [normalForm, Channel.toJson, channel, required, optional, Json.field?, idKept.again,
      guildKept.again, parentKept.again]
    rfl
  · exact List.forall_iff_forall_mem.mp ⟨⟨_, rfl, idKept.carried⟩, ⟨_, rfl, guildKept.carried⟩,
      ⟨_, rfl, parentKept.carried⟩⟩

theorem channelOverride_settled (sized : Convertible .channelOverride (.object fields)) :
    (channelOverride fields).Ensures fun o =>
      Settled .channelOverride (.object fields) o.toJson := by
  obtain ⟨sizedChannel, sizedRole, sizedAllow, sizedDeny⟩ := sized.places
  simp only [channelOverride, Checked.ensures_map, Checked.ensures_seq]
  intro channel readChannel role readRole allow readAllow deny readDeny
  have channelKept := kept_required readChannel sizedChannel
  have roleKept := kept_required readRole sizedRole
  have allowKept := kept_permissions readAllow sizedAllow
  have denyKept := kept_permissions readDeny sizedDeny
  constructor
  · intro other
    simp [normalForm, ChannelOverride.toJson, channelOverride, required, optional, Json.field?,
      channelKept.again, roleKept.again, allowKept.again, denyKept.again]
    rfl
  · exact List.forall_iff_forall_mem.mp ⟨⟨_, rfl, channelKept.carried⟩,
      ⟨_, rfl, roleKept.carried⟩, ⟨_, rfl, allowKept.carried⟩, ⟨_, rfl, denyKept.carried⟩⟩

theorem message_settled (clock : setting.now.Valid)
    (sized : Convertible .message (.object fields)) :
    (message setting fields).Ensures fun m => Settled .message (.object fields) m.toJson := by
  obtain ⟨sizedId, sizedChannel, sizedAuthor⟩ := sized.places
  simp only [message, Checked.ensures_map, Checked.ensures_seq]
  intro id readId channel readChannel author readAuthor content _ created readCreated edited
    readEdited
  have idKept := kept_required readId sizedId
  have channelKept := kept_required readChannel sizedChannel
  have authorKept := kept_required readAuthor sizedAuthor
  have timeAgain := time_again clock readCreated
  have editedAgain := time?_again readEdited
  constructor
  · intro other
    simp [normalForm, Message.toJson, Message.fields, message, required, optional, Json.field?,
      idKept.again, channelKept.again, authorKept.again, timeAgain, editedAgain]
    rfl
  · exact List.forall_iff_forall_mem.mp ⟨⟨_, rfl, idKept.carried⟩,
      ⟨_, rfl, channelKept.carried⟩, ⟨_, rfl, authorKept.carried⟩⟩

theorem messageWithAuthor_settled (clock : setting.now.Valid)
    (sized : Convertible .messageWithAuthor (.object fields)) :
    (messageWithAuthor setting fields).Ensures fun m =>
      Settled .messageWithAuthor (.object fields) m.toJson := by
  obtain ⟨sizedId, sizedChannel, sizedAuthor⟩ := sized.places
  simp only [messageWithAuthor, message, Checked.ensures_map, Checked.ensures_seq]
  intro id readId channel readChannel author readAuthor content _ created readCreated edited
    readEdited username _ display _ avatar _
  have idKept := kept_required readId sizedId
  have channelKept := kept_required readChannel sizedChannel
  have authorKept := kept_required readAuthor sizedAuthor
  have timeAgain := time_again clock readCreated
  have editedAgain := time?_again readEdited
  constructor
  · intro other
    simp [normalForm, MessageWithAuthor.toJson, Message.fields, messageWithAuthor, message,
      required, optional, Json.field?, idKept.again, channelKept.again, authorKept.again, timeAgain,
      editedAgain]
    rfl
  · exact List.forall_iff_forall_mem.mp ⟨⟨_, rfl, idKept.carried⟩,
      ⟨_, rfl, channelKept.carried⟩, ⟨_, rfl, authorKept.carried⟩⟩

theorem reaction_settled (clock : setting.now.Valid)
    (sized : Convertible .reaction (.object fields)) :
    (reaction setting fields).Ensures fun r => Settled .reaction (.object fields) r.toJson := by
  obtain ⟨sizedMessage, sizedUser⟩ := sized.places
  simp only [reaction, Checked.ensures_map, Checked.ensures_seq]
  intro message readMessage user readUser emoji _ created readCreated
  have messageKept := kept_required readMessage sizedMessage
  have userKept := kept_required readUser sizedUser
  have timeAgain := time_again clock readCreated
  constructor
  · intro other
    simp [normalForm, Reaction.toJson, reaction, required, optional, Json.field?, messageKept.again,
      userKept.again, timeAgain]
    rfl
  · exact List.forall_iff_forall_mem.mp ⟨⟨_, rfl, messageKept.carried⟩,
      ⟨_, rfl, userKept.carried⟩⟩

theorem reactionCount_settled :
    (reactionCount fields).Ensures fun r =>
      Settled .reactionCount (.object fields) r.toJson := by
  intro r _
  constructor
  · intro other
    simp [normalForm, ReactionCount.toJson, reactionCount, required, Json.field?]
    rfl
  · exact List.forall_iff_forall_mem.mp trivial

theorem entity_ok {α : Type} {read : Fields → Checked α} {value : Json} {x : α} :
    entity setting read value = .valid x ↔
      ∃ fields, value = .object fields ∧ read fields = .valid x := by
  cases value <;> simp [entity, Checked.fault]

theorem carries_required {given : Option Json} {written : Json} :
    Carries .required given written ↔ ∃ value, given = some value ∧ Canonical value written := by
  constructor
  · intro carried
    cases carried with
    | required canonical => exact ⟨_, rfl, canonical⟩
  · rintro ⟨value, rfl, canonical⟩
    exact .required canonical

/-- The recipients are read back without their passwords, which are not shown anyway. -/
theorem kept_users (clock : setting.now.Valid) {name : String} {users : List User}
    (read : optional fields name (listOf (entity setting (user setting))) [] = .valid users)
    (sized : Sized .users (Json.field? fields name)) :
    (∀ other : Setting, listOf (entity other (user other)) (.list (users.map User.toJson)) =
        .valid (users.map User.censored)) ∧
      Carries .users (Json.field? fields name) (.list (users.map User.toJson)) := by
  cases optional_ok.mp read with
  | inl given =>
    obtain ⟨value, found, read⟩ := given
    obtain ⟨items, rfl, each⟩ := listOf_ok.mp read
    have kept (other : Setting) : ∀ item ∈ items, ∀ u,
        entity setting (user setting) item = .valid u →
          entity other (user other) u.toJson = .valid u.censored ∧
            CanonicalUser item u.toJson := by
      intro item member u read
      obtain ⟨given, rfl, read⟩ := entity_ok.mp read
      have itemSized : Sized .required (Json.field? given "id") := by
        intro id stated n part
        have same : .whole n = id := List.mem_singleton.mp part
        subst same
        exact sized _ found n (List.mem_filterMap.mpr ⟨_, member, stated⟩)
      obtain ⟨again, carried⟩ := user_kept clock itemSized u read
      obtain ⟨id, stated, canonical⟩ := carries_required.mp carried
      exact ⟨again other, id, _, stated, rfl, canonical⟩
    constructor
    · exact fun other => (listOf_kept each (kept other)).1
    · rw [found]
      exact .users (listOf_kept each (kept setting)).2
  | inr absent =>
    obtain ⟨missing, rfl⟩ := absent
    exact ⟨fun _ => rfl, missing ▸ .noUsers⟩

theorem directChannel_settled (clock : setting.now.Valid)
    (sized : Convertible .directChannel (.object fields)) :
    (directChannel setting fields).Ensures fun c =>
      Settled .directChannel (.object fields) c.toJson := by
  obtain ⟨sizedId, sizedOwner, sizedRecipients⟩ := sized.places
  simp only [directChannel, Checked.ensures_map, Checked.ensures_seq]
  intro id readId kind _ owner readOwner recipients readRecipients created readCreated
  have idKept := kept_required readId sizedId
  have ownerKept := kept_optional readOwner sizedOwner
  obtain ⟨recipientsAgain, recipientsCarried⟩ := kept_users clock readRecipients sizedRecipients
  have timeAgain := time_again clock readCreated
  constructor
  · intro other
    have read : entity other (directChannel other)
        (DirectChannel.toJson ⟨id, kind, owner, recipients, created⟩) =
          .valid (DirectChannel.censored ⟨id, kind, owner, recipients, created⟩) := by
      simp [DirectChannel.toJson, directChannel, required, optional, Json.field?, idKept.again,
        ownerKept.again, recipientsAgain, timeAgain]
      rfl
    rw [normalForm, read]
    exact congrArg Checked.valid (DirectChannel.toJson_censored _)
  · exact List.forall_iff_forall_mem.mp ⟨⟨_, rfl, idKept.carried⟩,
      ⟨_, rfl, ownerKept.carried⟩, ⟨_, rfl, recipientsCarried⟩⟩

theorem readState_settled (clock : setting.now.Valid)
    (sized : Convertible .readState (.object fields)) :
    (readState setting fields).Ensures fun s => Settled .readState (.object fields) s.toJson := by
  obtain ⟨sizedUser, sizedChannel, sizedLast⟩ := sized.places
  simp only [readState, Checked.ensures_map, Checked.ensures_seq]
  intro user readUser channel readChannel last readLast mentions _ updated readUpdated
  have userKept := kept_required readUser sizedUser
  have channelKept := kept_required readChannel sizedChannel
  have lastKept := kept_required readLast sizedLast
  have timeAgain := time_again clock readUpdated
  constructor
  · intro other
    simp [normalForm, ReadState.toJson, readState, required, optional, Json.field?, userKept.again,
      channelKept.again, lastKept.again, timeAgain]
    rfl
  · exact List.forall_iff_forall_mem.mp ⟨⟨_, rfl, userKept.carried⟩,
      ⟨_, rfl, channelKept.carried⟩, ⟨_, rfl, lastKept.carried⟩⟩

theorem voiceState_settled (clock : setting.now.Valid)
    (sized : Convertible .voiceState (.object fields)) :
    (voiceState setting fields).Ensures fun s =>
      Settled .voiceState (.object fields) s.toJson := by
  obtain ⟨sizedGuild, sizedChannel, sizedUser⟩ := sized.places
  simp only [voiceState, Checked.ensures_map, Checked.ensures_seq]
  intro guild readGuild channel readChannel user readUser session _ mute _ deaf _ joined readJoined
  have guildKept := kept_required readGuild sizedGuild
  have channelKept := kept_required readChannel sizedChannel
  have userKept := kept_required readUser sizedUser
  have timeAgain := time_again clock readJoined
  constructor
  · intro other
    simp [normalForm, VoiceState.toJson, voiceState, required, optional, Json.field?,
      guildKept.again, channelKept.again, userKept.again, timeAgain]
    rfl
  · exact List.forall_iff_forall_mem.mp ⟨⟨_, rfl, guildKept.carried⟩,
      ⟨_, rfl, channelKept.carried⟩, ⟨_, rfl, userKept.carried⟩⟩

/-- A schema's normal form is settled if what its reader makes of any fields is. -/
theorem settled_of_reader {α : Type} {schema : Schema} {read : Fields → Checked α}
    {write : α → Json} {input output : Json}
    (each : ∀ fields, Convertible schema (.object fields) →
      (read fields).Ensures fun x => Settled schema (.object fields) (write x))
    (sized : Convertible schema input)
    (accepted : (entity setting read input).map write = .valid output) :
    Settled schema input output := by
  obtain ⟨x, found, rfl⟩ := Checked.map_ok.mp accepted
  obtain ⟨fields, rfl, found⟩ := entity_ok.mp found
  exact each fields sized x found

end

/-- What is serialised of an accepted form is accepted again and serialised to itself, and carries
every identifier that was given as the decimal text of its integer. -/
theorem normalForm_settled {schema : Schema} {setting : Setting} {input output : Json}
    (shown : schema ≠ .attachment) (clock : setting.now.Valid) (sized : Convertible schema input)
    (accepted : normalForm schema setting input = .valid output) :
    Settled schema input output := by
  cases schema with
  | user => exact settled_of_reader (fun _ => user_settled clock) sized accepted
  | guild => exact settled_of_reader (fun _ => guild_settled clock) sized accepted
  | member => exact settled_of_reader (fun _ => member_settled clock) sized accepted
  | role => exact settled_of_reader (fun _ => role_settled) sized accepted
  | ban => exact settled_of_reader (fun _ => ban_settled clock) sized accepted
  | invite => exact settled_of_reader (fun _ => invite_settled clock) sized accepted
  | channel => exact settled_of_reader (fun _ => channel_settled) sized accepted
  | channelOverride =>
    exact settled_of_reader (fun _ => channelOverride_settled) sized accepted
  | message => exact settled_of_reader (fun _ => message_settled clock) sized accepted
  | messageWithAuthor =>
    exact settled_of_reader (fun _ => messageWithAuthor_settled clock) sized accepted
  | attachment => exact absurd rfl shown
  | reaction => exact settled_of_reader (fun _ => reaction_settled clock) sized accepted
  | reactionCount => exact settled_of_reader (fun _ _ => reactionCount_settled) sized accepted
  | directChannel => exact settled_of_reader (fun _ => directChannel_settled clock) sized accepted
  | readState => exact settled_of_reader (fun _ => readState_settled clock) sized accepted
  | voiceState => exact settled_of_reader (fun _ => voiceState_settled clock) sized accepted

def conversation : Json := .object [
  ("id", .whole 9007199254740993),
  ("owner_id", .text " +1_000 "),
  ("recipients", .list [.object [
    ("id", .text "٤٢"),
    ("username", .text "ann"),
    ("display_name", .text "Ann"),
    ("password_hash", .text "hash"),
    ("created_at", .whole 0)]])]

def serialisedConversation : Json := .object [
  ("id", .text "9007199254740993"),
  ("type", .whole 1),
  ("owner_id", .text "1000"),
  ("recipients", .list [.object [
    ("id", .text "42"),
    ("username", .text "ann"),
    ("display_name", .text "Ann"),
    ("avatar_hash", .null),
    ("created_at", .text "1970-01-01T00:00:00Z")]]),
  ("created_at", .text "2026-03-01T12:00:00Z")]

theorem conversation_convertible : Convertible .directChannel conversation := by
  refine List.forall_iff_forall_mem.mp ⟨?_, ?_, ?_⟩
  · intro value given n part
    cases given
    cases List.mem_singleton.mp part
    exact isWritable_of_small (by decide)
  · intro value given n part
    cases given
    cases List.mem_singleton.mp part
  · intro value given n part
    cases given
    cases List.mem_singleton.mp part

theorem conversation_settled :
    normalForm .directChannel ⟨.text, ⟨2026, 3, 1, 12, 0, 0, 0⟩, some 0⟩ conversation =
        .valid serialisedConversation ∧
      Settled .directChannel conversation serialisedConversation := by
  have accepted : normalForm .directChannel ⟨.text, ⟨2026, 3, 1, 12, 0, 0, 0⟩, some 0⟩
      conversation = .valid serialisedConversation := rfl
  have clock : Calendar.DateTime.Valid ⟨⟨2026, 3, 1, 12, 0, 0, 0⟩, some 0⟩ :=
    ⟨by constructor <;> decide, by simp⟩
  exact ⟨accepted, normalForm_settled (by decide) clock conversation_convertible accepted⟩

theorem attachment_refused {setting other : Setting} {input output : Json}
    (accepted : normalForm .attachment setting input = .valid output) (again : Json) :
    normalForm .attachment other output ≠ .valid again := by
  obtain ⟨a, -, rfl⟩ := Checked.map_ok.mp accepted
  intro reaccepted
  obtain ⟨b, read, -⟩ := Checked.map_ok.mp reaccepted
  obtain ⟨fields, same, read⟩ := entity_ok.mp read
  have refused : (attachment fields).Ensures fun _ => False := by
    simp only [attachment, Checked.ensures_map, Checked.ensures_seq]
    intro _ _ _ _ _ _ _ _ _ _ key readKey
    obtain ⟨value, found, -⟩ := required_ok.mp readKey
    cases same
    cases (found : none = some value)
  exact refused b read

end Guildhall.Form
