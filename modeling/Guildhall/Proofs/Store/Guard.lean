import Guildhall.Proofs.Directs.Creation
import Guildhall.Store.Storage

/-!
What stops a write: an integer that does not fit the words of the storage, which is found before
anything else, or else a fault that the storage reports. Only the recipients of a new direct channel
are handed over one by one, each after those before it have gone in.
-/

namespace Guildhall

open Calendar

/-- Callers are told of the faults of the storage and of what arguments alone forbid, but not that
an integer may have too many digits. -/
def Failure.isDocumented : Failure → Bool
  | .store _ => true
  | .unwritable => false
  | failure => failure.isRefusal

/-- The outcome fails for the integers if one of them does not fit, and else for faults only. -/
structure Guarded {α : Type} (integers : List Int) (outcome : Except Failure α) : Prop where
  large : integers.all fitsWord = false → outcome = .error .tooLarge
  faults : integers.all fitsWord = true → ∀ failure, outcome = .error failure →
    ∃ fault, failure = .store fault

theorem Guarded.stopped {α : Type} {integers : List Int} {outcome : Except Failure α}
    {failure : Failure} (guarded : Guarded integers outcome) (failed : outcome = .error failure) :
    (failure = .tooLarge ∧ integers.all fitsWord = false) ∨ failure.isDocumented = true := by
  cases fits : integers.all fitsWord with
  | false =>
      rw [guarded.large fits] at failed
      exact Or.inl ⟨(Except.error.inj failed).symm, rfl⟩
  | true =>
      obtain ⟨fault, rfl⟩ := guarded.faults fits failure failed
      exact Or.inr rfl

section Statements

variable {catalog : Catalog} {table : Table} {db : Database}

theorem guarded_demand {α : Type} {integers : List Int} {rules : List Rule} {answer : α}
    (faults : ∀ rule ∈ rules, ∃ fault, rule.failure = .store fault) :
    Guarded integers (demand (fitting integers :: rules) answer) := by
  refine ⟨fun large => ?_, fun fits failure failed => ?_⟩
  · simp [demand, fitting, large]
  · obtain ⟨rule, member, broken, rfl⟩ := demand_error failed
    rcases List.mem_cons.mp member with rfl | later
    · rw [fitting, fits] at broken
      cases broken
    · exact faults rule later

theorem rowRules_faults {row : table.Row} {others : List table.Row} :
    ∀ rule ∈ rowRules catalog table row others db, ∃ fault, rule.failure = .store fault := by
  intro rule member
  simp only [rowRules, List.mem_append, List.mem_cons, List.mem_map] at member
  rcases member with ⟨named, -, rfl⟩ | rfl | ⟨reference, -, rfl⟩
  · exact ⟨_, rfl⟩
  · exact ⟨_, rfl⟩
  · exact ⟨_, rfl⟩

theorem guarded_insertRow (row : table.Row) :
    Guarded (table.cells row).integers (insertRow catalog table row db) :=
  guarded_demand rowRules_faults

theorem guarded_changeRows (integers : List Int) (chosen : table.Row → Bool)
    (change : table.Row → table.Row) :
    Guarded integers (changeRows catalog table integers chosen change db) := by
  refine guarded_demand fun rule member => ?_
  obtain ⟨row, -, member⟩ := List.mem_flatMap.mp member
  exact rowRules_faults rule member

theorem guarded_putRow (row : table.Row) (change : table.Row → table.Row) :
    Guarded (table.cells row).integers (putRow catalog table row change db) := by
  unfold putRow
  split
  · exact guarded_changeRows _ _ change
  · exact guarded_insertRow row

theorem guarded_ensureRow (row : table.Row) :
    Guarded (table.cells row).integers (ensureRow catalog table row db) := by
  unfold ensureRow
  split
  · exact guarded_demand (List.forall_mem_nil _)
  · exact guarded_insertRow row

theorem guarded_deleteRows (integers : List Int) (chosen : table.Row → Bool) :
    Guarded integers (deleteRows catalog table integers chosen db) := by
  refine guarded_demand fun rule member => ?_
  obtain rfl := List.mem_singleton.mp member
  exact ⟨_, rfl⟩

theorem guarded_pair {integers later : List Int} {first second : Statement}
    (starts : Guarded integers (first db)) (goes : ∀ middle, Guarded later (second middle))
    (among : ∀ n ∈ later, n ∈ integers) : Guarded integers (inOrder [first, second] db) := by
  refine ⟨fun large => ?_, fun fits failure failed => ?_⟩
  · exact inOrder_cons_error.mpr (Or.inl (starts.large large))
  · have fine : later.all fitsWord = true :=
      List.all_eq_true.mpr fun n member => List.all_eq_true.mp fits n (among n member)
    rcases inOrder_cons_error.mp failed with here | ⟨middle, -, failed⟩
    · exact starts.faults fits failure here
    · rcases inOrder_cons_error.mp failed with here | ⟨left, -, failed⟩
      · exact (goes middle).faults fine failure here
      · cases failed

theorem inOrder_map_error {α : Type} {statement : α → Statement} {items : List α}
    {failure : Failure} :
    inOrder (items.map statement) db = .error failure ↔
      ∃ before item after middle, items = before ++ item :: after ∧
        inOrder (before.map statement) db = .ok middle ∧
        statement item middle = .error failure := by
  induction items generalizing db with
  | nil => simp [inOrder, pure, Except.pure]
  | cons first rest ih =>
      rw [List.map_cons, inOrder_cons_error]
      constructor
      · rintro (here | ⟨middle, done, failed⟩)
        · exact ⟨[], first, rest, db, rfl, rfl, here⟩
        · obtain ⟨before, item, after, reached, rfl, entered, failed⟩ := ih.mp failed
          exact ⟨first :: before, item, after, reached, rfl,
            inOrder_cons.mpr ⟨middle, done, entered⟩, failed⟩
      · rintro ⟨before, item, after, reached, split, entered, failed⟩
        cases before with
        | nil =>
            obtain ⟨rfl, rfl⟩ := List.cons.inj split
            cases entered
            exact Or.inl failed
        | cons other before =>
            obtain ⟨rfl, rfl⟩ := List.cons.inj split
            obtain ⟨middle, done, entered⟩ := inOrder_cons.mp entered
            exact Or.inr ⟨middle, done, ih.mpr ⟨before, item, after, reached, rfl, entered, failed⟩⟩

end Statements

namespace Directs

variable {draft : Draft} {db : Database} {failure : Failure}

/-- An integer of the channel's row does not fit, or else that of a recipient who is reached: the
row and the recipients before have gone in. -/
inductive Overlong (draft : Draft) (db : Database) : Prop where
  | row {key : Option String} (named : draft.pairKey? = .ok key)
      (large : (Table.cells .directChannels (draft.row key)).integers.all fitsWord = false) :
      Overlong draft db
  | recipient {key : Option String} {before after : List Int} {userId : Int} {middle : Database}
      (named : draft.pairKey? = .ok key) (listed : draft.recipients = before ++ userId :: after)
      (entered : inOrder ({ draft with recipients := before }.statements Catalog.declared key) db =
        .ok middle)
      (large : fitsWord userId = false) : Overlong draft db

def Draft.Unnameable (draft : Draft) : Prop :=
  draft.kind = DirectKind.pair.code ∧ ∃ a b, draft.recipients = [a, b] ∧
    (Decimal.isWritable a && Decimal.isWritable b) = false

theorem unnameable_iff : draft.Unnameable ↔ draft.pairKey? = .error .unwritable := by
  constructor
  · rintro ⟨pair, a, b, two, overlong⟩
    obtain ⟨id, recipients, kind, owner, now⟩ := draft
    obtain rfl : kind = DirectKind.pair.code := pair
    obtain rfl : recipients = [a, b] := two
    exact (pairKey?_between a b id owner now).trans (if_neg (by simp [overlong]))
  · intro refused
    have naming := naming draft
    rw [refused] at naming
    cases naming with
    | overlong pair two overlong => exact ⟨pair, _, _, two, overlong⟩

theorem create_unnameable (unnameable : draft.Unnameable) :
    create Catalog.declared draft db = .error .unwritable := by
  rw [create, unnameable_iff.mp unnameable]

theorem pairKey_refused (refused : draft.pairKey? = .error failure) :
    (failure = .unwritable ∧ draft.Unnameable) ∨
      failure = .recipientCount draft.recipients.length := by
  have naming := naming draft
  rw [refused] at naming
  cases naming with
  | overlong => exact Or.inl ⟨rfl, unnameable_iff.mpr refused⟩
  | crowd => exact Or.inr rfl

theorem guarded_row (key : Option String) :
    Guarded (Table.cells .directChannels (draft.row key)).integers
      (insertRow Catalog.declared .directChannels (draft.row key) db) :=
  guarded_insertRow _

theorem guarded_recipient (channelId userId : Int) :
    Guarded [channelId, userId] (insertRow Catalog.declared .recipients ⟨channelId, userId⟩ db) :=
  @guarded_insertRow Catalog.declared .recipients db ⟨channelId, userId⟩

theorem create_overlong (overlong : Overlong draft db) :
    create Catalog.declared draft db = .error .tooLarge := by
  cases overlong with
  | row named large =>
      rw [create, named]
      exact inOrder_cons_error.mpr (Or.inl ((guarded_row _).large large))
  | @recipient key before after userId middle named listed entered large =>
      obtain ⟨opened, inserted, joined⟩ := inOrder_cons.mp entered
      have long : [draft.id, userId].all fitsWord = false := by simp [large]
      rw [create, named]
      refine inOrder_cons_error.mpr (Or.inr ⟨opened, inserted, ?_⟩)
      exact inOrder_map_error.mpr
        ⟨before, userId, after, middle, listed, joined, (guarded_recipient _ _).large long⟩

/-- Whatever else stops the creation of a direct channel is documented. -/
theorem create_stopped (failed : create Catalog.declared draft db = .error failure) :
    (failure = .tooLarge ∧ Overlong draft db) ∨ (failure = .unwritable ∧ draft.Unnameable) ∨
      failure.isDocumented = true := by
  unfold create at failed
  cases named : draft.pairKey? with
  | error refusal =>
      rw [named] at failed
      cases failed
      rcases pairKey_refused named with unnameable | rfl
      · exact Or.inr (Or.inl unnameable)
      · exact Or.inr (Or.inr rfl)
  | ok key =>
      rw [named] at failed
      rcases inOrder_cons_error.mp failed with here | ⟨opened, inserted, failed⟩
      · exact ((guarded_row key).stopped here).imp
          (fun ⟨same, large⟩ => ⟨same, .row named large⟩) Or.inr
      · obtain ⟨before, userId, after, middle, listed, joined, raised⟩ :=
          inOrder_map_error.mp failed
        refine ((guarded_recipient _ _).stopped raised).imp (fun ⟨same, large⟩ => ⟨same, ?_⟩) Or.inr
        -- The channel's identifier has passed with its row, so it is the user's that does not fit.
        have fits : fitsWord draft.id = true :=
          List.all_eq_true.mp (insertRow_ok.mp inserted).1 draft.id List.mem_cons_self
        have long : fitsWord userId = false := by simpa [fits] using large
        exact .recipient named listed (inOrder_cons.mpr ⟨opened, inserted, joined⟩) long

theorem guarded_removeRecipient (channelId userId : Int) :
    Guarded [channelId, userId] (removeRecipient Catalog.declared channelId userId db) := by
  unfold removeRecipient
  split
  · exact guarded_pair (guarded_deleteRows _ _) (fun _ => guarded_changeRows [channelId] _ _)
      (by simp)
  · exact guarded_deleteRows _ _

end Directs

namespace Write

def integers : Write → List Int
  | createUser user => (Table.cells .users user.row).integers
  | createGuild guild => (Table.cells .guilds guild.row).integers
  | createMember member => (Table.cells .members member.row).integers
  | createRole role => (Table.cells .roles role).integers
  | createBan ban => (Table.cells .bans ban.row).integers
  | createInvite invite => (Table.cells .invites invite.row).integers
  | createChannel channel => (Table.cells .channels channel.row).integers
  | createMessage message => (Table.cells .messages message.row).integers
  | createAttachment attachment => (Table.cells .attachments attachment).integers
  | setOverride override => (Table.cells .channelOverrides override).integers
  | upsertVoiceState state => (Table.cells .voiceStates state.row).integers
  | upsertReadState userId channelId lastMessageId => [userId, channelId, lastMessageId, 0]
  | createDirect id recipients kind ownerId _ => [id, kind] ++ ownerId.toList ++ recipients
  | updateUser user => [user.id]
  | updateGuild guild => [guild.id, guild.ownerId]
  | updateMember member => [member.guildId, member.userId]
  | updateRole role => [role.id, role.color, role.permissions, role.position]
  | updateChannel channel => [channel.id, channel.position] ++ channel.parentId.toList
  | updateMessage message => [message.id]
  | deleteUser id | deleteGuild id | deleteRole id | deleteChannel id | deleteMessage id
  | deleteAttachment id | deleteAttachmentsOf id | deleteDirect id => [id]
  | deleteMember guildId userId | deleteBan guildId userId | deleteVoiceState guildId userId =>
    [guildId, userId]
  | addMemberRole guildId userId roleId | removeMemberRole guildId userId roleId =>
    [guildId, userId, roleId]
  | deleteOverride channelId roleId => [channelId, roleId]
  | addReaction messageId userId _ _ | removeReaction messageId userId _ => [messageId, userId]
  | addRecipient channelId userId | removeRecipient channelId userId => [channelId, userId]
  | incrementMentions userId channelId => [userId, channelId]
  | incrementInviteUses _ | deleteInvite _ => []

/-- The write gets as far as handing over an integer that does not fit. -/
def Oversteps (now : DateTime) (db : Database) : Write → Prop
  | createDirect id recipients kind ownerId createdAt =>
    Directs.Overlong ⟨id, recipients, kind, ownerId, createdAt.getD now⟩ db
  | write => write.integers.all fitsWord = false

def Unnameable (now : DateTime) : Write → Prop
  | createDirect id recipients kind ownerId createdAt =>
    Directs.Draft.Unnameable ⟨id, recipients, kind, ownerId, createdAt.getD now⟩
  | _ => False

/-- A write fails for an integer that does not fit exactly if it oversteps, for one that cannot be
written exactly if it would be in a name, and otherwise only in a documented way. -/
structure Bounded (write : Write) (now : DateTime) (db : Database) : Prop where
  large : write.Oversteps now db → write.statement Catalog.declared now db = .error .tooLarge
  unwritable : write.Unnameable now →
    write.statement Catalog.declared now db = .error .unwritable
  stopped : ∀ failure, write.statement Catalog.declared now db = .error failure →
    (failure = .tooLarge ∧ write.Oversteps now db) ∨
      (failure = .unwritable ∧ write.Unnameable now) ∨ failure.isDocumented = true

theorem bounded_of_guarded {write : Write} {now : DateTime} {db : Database}
    (whole : write.Oversteps now db ↔ write.integers.all fitsWord = false)
    (nameless : ¬write.Unnameable now)
    (guarded : Guarded write.integers (write.statement Catalog.declared now db)) :
    write.Bounded now db :=
  ⟨fun large => guarded.large (whole.mp large), fun named => absurd named nameless,
    fun _ failed => (guarded.stopped failed).imp (And.imp_right whole.mpr) Or.inr⟩

theorem bounded (write : Write) (now : DateTime) (db : Database) : write.Bounded now db := by
  cases write
  case createDirect =>
    exact ⟨Directs.create_overlong, Directs.create_unnameable, fun _ => Directs.create_stopped⟩
  all_goals refine bounded_of_guarded Iff.rfl id ?_
  case removeRecipient channelId userId => exact Directs.guarded_removeRecipient channelId userId
  case createUser | createGuild | createMember | createRole | createBan | createInvite |
      createChannel | createMessage | createAttachment =>
    exact guarded_insertRow _
  case addMemberRole guildId userId roleId =>
    exact @guarded_ensureRow Catalog.declared .memberRoles db ⟨guildId, userId, roleId⟩
  case addReaction messageId userId emoji createdAt =>
    exact @guarded_ensureRow Catalog.declared .reactions db
      ⟨messageId, userId, emoji, (createdAt.getD now).wall⟩
  case addRecipient channelId userId =>
    exact @guarded_ensureRow Catalog.declared .recipients db ⟨channelId, userId⟩
  case setOverride | upsertVoiceState => exact guarded_putRow _ _
  case upsertReadState userId channelId lastMessageId =>
    exact @guarded_putRow Catalog.declared .readStates db
      ⟨userId, channelId, lastMessageId, 0, now.wall⟩ _
  case updateUser | updateGuild | updateMember | updateRole | incrementInviteUses |
      updateChannel | updateMessage | incrementMentions =>
    exact guarded_changeRows _ _ _
  all_goals exact guarded_deleteRows _ _

end Write

end Guildhall
