import Guildhall.Proofs.Store.Guard
import Guildhall.Proofs.Store.Readable
import Guildhall.Proofs.Store.Question
import Guildhall.Proofs.Store.Consistency

/-!
Everything that can come of a question: it is refused for its limits, it hands over an integer that
does not fit, it meets a counter that has been raised too far, its pattern is too complex, it reads
more about too many rows at once, or it is answered. Each happens under a condition of its own.
-/

namespace Guildhall

inductive ReadsUnless {α : Type} (worn : Prop) : Except Failure α → Prop where
  | read {value : α} (fresh : ¬worn) : ReadsUnless worn (.ok value)
  | unreadable {schema : Form.Schema} {problems : List Form.Problem} (bad : worn) :
      ReadsUnless worn (.error (.unreadable schema problems))

section Rows

variable {α β : Type} {read : α → Except Failure β} {worn : α → Prop} {rows : List α}

theorem reads_map {outcome : Except Failure α} {bad : Prop} (reads : ReadsUnless bad outcome)
    (f : α → β) : ReadsUnless bad (outcome.map f) := by
  cases reads with
  | read fresh => exact .read fresh
  | unreadable bad => exact .unreadable bad

theorem reads_mapM (each : ∀ row ∈ rows, ReadsUnless (worn row) (read row)) :
    ReadsUnless (∃ row ∈ rows, worn row) (rows.mapM read) := by
  induction rows with
  | nil => exact .read (by simp)
  | cons row rest ih =>
      have head := each row List.mem_cons_self
      have tail := ih fun other member => each other (List.mem_cons_of_mem _ member)
      rw [List.mapM_cons]
      generalize read row = first at head ⊢
      generalize rest.mapM read = others at tail ⊢
      cases head with
      | unreadable bad => exact .unreadable ⟨row, List.mem_cons_self, bad⟩
      | read fresh =>
          cases tail with
          | unreadable bad =>
              obtain ⟨other, member, bad⟩ := bad
              exact .unreadable ⟨other, List.mem_cons_of_mem _ member, bad⟩
          | read intact =>
              refine .read ?_
              rintro ⟨other, member, bad⟩
              rcases List.mem_cons.mp member with rfl | member
              · exact fresh bad
              · exact intact ⟨other, member, bad⟩

theorem reads_sorted (order : α → α → Ordering) (chosen : α → Bool)
    (each : ∀ row ∈ rows, ReadsUnless (worn row) (read row)) :
    ReadsUnless (∃ row ∈ rows, chosen row = true ∧ worn row)
      ((sortBy order (rows.filter chosen)).mapM read) := by
  have listed : ∀ row, row ∈ sortBy order (rows.filter chosen) ↔ row ∈ rows ∧ chosen row = true :=
    fun row => (sortBy_perm order _).mem_iff.trans List.mem_filter
  have reads := reads_mapM fun row member => each row ((listed row).mp member).1
  simpa only [listed, and_assoc] using reads

theorem reads_find {chosen : α → Bool} (each : ∀ row ∈ rows, ReadsUnless (worn row) (read row))
    (alone : ∀ a ∈ rows, ∀ b ∈ rows, chosen a = true → chosen b = true → a = b) :
    ReadsUnless (∃ row ∈ rows, chosen row = true ∧ worn row) ((rows.find? chosen).mapM read) := by
  cases found : rows.find? chosen with
  | none =>
      refine .read ?_
      rintro ⟨row, stored, picked, -⟩
      exact List.find?_eq_none.mp found row stored picked
  | some row =>
      have stored := List.mem_of_find?_eq_some found
      have picked : chosen row = true := List.find?_some found
      have reads := each row stored
      rw [Option.mapM_some]
      generalize read row = outcome at reads ⊢
      cases reads with
      | unreadable bad => exact .unreadable ⟨row, stored, picked, bad⟩
      | read fresh =>
          refine .read ?_
          rintro ⟨other, member, also, bad⟩
          exact fresh (alone other member row stored also picked ▸ bad)

theorem reads_safe (each : ∀ row ∈ rows, ReadsUnless False (read row)) :
    ReadsUnless False (rows.mapM read) := by
  have reads := reads_mapM each
  simpa using reads

theorem reads_safe_option {found : Option α} (each : ∀ row ∈ found, ReadsUnless False (read row)) :
    ReadsUnless False (found.mapM read) := by
  cases found with
  | none => exact .read id
  | some row =>
      rw [Option.mapM_some]
      exact reads_map (each row rfl) some

end Rows

section Entities

variable {db : Database}

theorem reads_count {schema : Form.Schema} {name : String} {count : Int} (counts : Counts count) :
    ReadsUnless (count = wordBound) (storedCount schema name count) := by
  unfold storedCount
  split
  · rename_i fits
    refine .read fun bad => ?_
    rw [(worn_iff counts).mpr bad] at fits
    cases fits
  · rename_i large
    exact .unreadable ((worn_iff counts).mp (Bool.eq_false_iff.mpr large))

theorem reads_invite {row : InviteRow} (counts : Counts row.uses) :
    ReadsUnless (row.uses = wordBound) row.invite :=
  reads_map (reads_count counts) _

theorem reads_state {row : ReadStateRow} (counts : Counts row.mentionCount) :
    ReadsUnless (row.mentionCount = wordBound) row.state :=
  reads_map (reads_count counts) _

theorem reads_channel {row : ChannelRow}
    (known : ∃ kind, ChannelKind.ofCode? row.kind = some kind) :
    ReadsUnless False row.channel := by
  obtain ⟨kind, known⟩ := known
  unfold ChannelRow.channel
  rw [known]
  exact .read id

theorem reads_direct {row : DirectChannelRow}
    (known : ∃ kind, DirectKind.ofCode? row.kind = some kind) (recipients : List User) :
    ReadsUnless False (row.channel recipients) := by
  obtain ⟨kind, known⟩ := known
  unfold DirectChannelRow.channel
  rw [known]
  exact .read id

end Entities

namespace Question

def refusal? : Question → Option Failure
  | membersOfGuild _ limit offset =>
    if limit < 1 then some (.showing limit (.limitNotPositive limit))
    else if offset < 0 then some (.showing offset (.negativeOffset offset)) else none
  | messagesOfChannel _ _ limit | search _ limit | usersOfReaction _ _ limit =>
    if limit < 1 then some (.showing limit (.limitNotPositive limit)) else none
  | _ => none

def integers : Question → List Int
  | user id | guild id | role id | channel id | message id | direct id => [id]
  | userByName _ | invite _ => []
  | guildsOfUser userId | directsOfUser userId | readStatesOfUser userId => [userId]
  | member guildId userId | rolesOfMember guildId userId | ban guildId userId
  | voiceState guildId userId => [guildId, userId]
  | membersOfGuild guildId limit offset => [guildId, limit, offset]
  | rolesOfGuild guildId | bansOfGuild guildId | invitesOfGuild guildId | channelsOfGuild guildId
  | voiceStatesOfGuild guildId => [guildId]
  | overridesOfChannel channelId | recipientIds channelId | voiceStatesOfChannel channelId =>
    [channelId]
  | messagesOfChannel channelId before limit => [channelId, limit] ++ before.toList
  | search request limit => limit :: request.integers
  | attachmentsOfMessage messageId | reactionsOfMessage messageId => [messageId]
  | reactionCounts messageId currentUser => [messageId, currentUser]
  | usersOfReaction messageId _ limit => [messageId, limit]
  | isRecipient channelId userId => [channelId, userId]
  | readState userId channelId => [userId, channelId]

/-- The question reads a row whose counter has been raised beyond the words of the storage. -/
def MeetsWorn (db : Database) : Question → Prop
  | invite code => ∃ row ∈ db.invites, row.code = code ∧ row.uses = wordBound
  | invitesOfGuild guildId => ∃ row ∈ db.invites, row.guildId = guildId ∧ row.uses = wordBound
  | readState userId channelId => ∃ row ∈ db.readStates,
      (row.userId = userId ∧ row.channelId = channelId) ∧ row.mentionCount = wordBound
  | readStatesOfUser userId =>
    ∃ row ∈ db.readStates, row.userId = userId ∧ row.mentionCount = wordBound
  | _ => False

/-- The pattern of a search is too complex for the storage, which finds out once it is tried. -/
def TooComplex (db : Database) : Question → Prop
  | search request _ =>
    Text.patternLimit < Text.patternSize request.query ∧ request.isTried db = true
  | _ => False

/-- More is to be read about so many rows that one statement cannot name them. -/
def Crowded (db : Database) : Question → Prop
  | membersOfGuild guildId limit offset =>
    Engine.sqlite.reaches 1 (Members.page db guildId limit offset).length = false
  | directsOfUser userId => Engine.sqlite.reaches 0 (Directs.rowsOf db userId).length = false
  | _ => False

inductive Verdict (asked : Question) (db : Database) : Except Failure Answer → Prop where
  | refused {failure : Failure} (refusal : asked.refusal? = some failure) :
      Verdict asked db (.error failure)
  | large (accepted : asked.refusal? = none) (large : asked.integers.all fitsWord = false) :
      Verdict asked db (.error .tooLarge)
  | worn {schema : Form.Schema} {problems : List Form.Problem} (accepted : asked.refusal? = none)
      (fits : asked.integers.all fitsWord = true) (worn : asked.MeetsWorn db) :
      Verdict asked db (.error (.unreadable schema problems))
  | complex (accepted : asked.refusal? = none) (fits : asked.integers.all fitsWord = true)
      (complex : asked.TooComplex db) : Verdict asked db (.error Messages.Search.patternTooLong)
  | crowded (accepted : asked.refusal? = none) (fits : asked.integers.all fitsWord = true)
      (crowded : asked.Crowded db) : Verdict asked db (.error Engine.tooManyValues)
  | answered {answer : Answer} (accepted : asked.refusal? = none)
      (fits : asked.integers.all fitsWord = true) (fresh : ¬asked.MeetsWorn db)
      (simple : ¬asked.TooComplex db) (few : ¬asked.Crowded db) : Verdict asked db (.ok answer)

section Shapes

variable {asked : Question} {db : Database} {α : Type} {f : α → Answer}

theorem verdict_ask {answer : Database → α} (accepted : asked.refusal? = none)
    (shape : asked.query db = (ask asked.integers answer db).map f)
    (fresh : ¬asked.MeetsWorn db) (simple : ¬asked.TooComplex db) (few : ¬asked.Crowded db) :
    asked.Verdict db (asked.query db) := by
  rw [shape]
  cases fits : asked.integers.all fitsWord with
  | false =>
      rw [ask_large fits]
      exact .large accepted fits
  | true =>
      rw [ask_fits fits]
      exact .answered accepted fits fresh simple few

theorem verdict_read {read : Database → Except Failure α} (accepted : asked.refusal? = none)
    (shape : asked.query db = (askRead asked.integers read db).map f)
    (reads : ReadsUnless (asked.MeetsWorn db) (read db)) (simple : ¬asked.TooComplex db)
    (few : ¬asked.Crowded db) : asked.Verdict db (asked.query db) := by
  rw [shape]
  cases fits : asked.integers.all fitsWord with
  | false =>
      rw [askRead_large fits]
      exact .large accepted fits
  | true =>
      rw [askRead_fits fits]
      generalize read db = outcome at reads ⊢
      cases reads with
      | read fresh => exact .answered accepted fits fresh simple few
      | unreadable bad => exact .worn accepted fits bad

/-- Where more is read about all rows at once, one statement must be able to name them. -/
theorem verdict_batch {others : Nat} {rows : Database → Nat} {read : Database → Except Failure α}
    (accepted : asked.refusal? = none)
    (shape : asked.query db = (askRead asked.integers (fun db =>
      (Engine.sqlite.allow others (rows db)).bind fun _ => read db) db).map f)
    (crowds : asked.Crowded db ↔ Engine.sqlite.reaches others (rows db) = false)
    (reads : ReadsUnless (asked.MeetsWorn db) (read db)) (simple : ¬asked.TooComplex db) :
    asked.Verdict db (asked.query db) := by
  rw [shape]
  cases fits : asked.integers.all fitsWord with
  | false =>
      rw [askRead_large fits]
      exact .large accepted fits
  | true =>
      rw [askRead_fits fits]
      cases reached : Engine.sqlite.reaches others (rows db) with
      | false =>
          rw [admit_missed reached]
          exact .crowded accepted fits (crowds.mpr reached)
      | true =>
          rw [admit_reached reached]
          generalize read db = outcome at reads
          cases reads with
          | unreadable bad => exact .worn accepted fits bad
          | read fresh =>
              exact .answered accepted fits fresh simple fun crowded => by
                simp [crowds.mp crowded] at reached

theorem verdict_limited {limit : Int} {query : Query α}
    (shape : asked.query db = (limited limit query db).map f)
    (refuses : limit < 1 → asked.refusal? = some (.showing limit (.limitNotPositive limit)))
    (rest : ¬limit < 1 → asked.query db = (query db).map f → asked.Verdict db (asked.query db)) :
    asked.Verdict db (asked.query db) := by
  by_cases low : limit < 1
  · have refused : asked.query db = .error (.showing limit (.limitNotPositive limit)) := by
      rw [shape, limited, if_pos low]
      rfl
    rw [refused]
    exact .refused (refuses low)
  · exact rest low (by rw [shape, limited, if_neg low])

end Shapes

theorem query_verdict {db : Database} (sound : db.Sound Catalog.declared)
    (readable : db.Each Table.Readable) (asked : Question) :
    asked.Verdict db (asked.query db) := by
  have consistent := consistent_of_sound sound
  -- Counters alone can spoil a row: kinds of channels are known throughout.
  have invites : ∀ row ∈ db.invites, ReadsUnless (row.uses = wordBound) row.invite :=
    fun row stored => reads_invite (readable .invites row stored)
  have states : ∀ row ∈ db.readStates, ReadsUnless (row.mentionCount = wordBound) row.state :=
    fun row stored => reads_state (readable .readStates row stored)
  cases asked with
  | user | guild | guildsOfUser | member | role | rolesOfGuild | rolesOfMember | ban
  | bansOfGuild | overridesOfChannel | message | attachmentsOfMessage | reactionsOfMessage
  | reactionCounts | isRecipient | recipientIds | voiceState | voiceStatesOfChannel
  | voiceStatesOfGuild => exact verdict_ask rfl rfl id id id
  | userByName username =>
      have shape : (userByName username).query db =
          (ask [] (fun db => (db.users.find? fun row => row.username = username).map
            UserRow.user) db).map fun found => .entity (found.map .user) := rfl
      exact verdict_ask rfl shape id id id
  | membersOfGuild guildId limit offset =>
      refine verdict_limited rfl (fun low => if_pos low) fun high shape => ?_
      by_cases negative : offset < 0
      · have refused : (membersOfGuild guildId limit offset).query db =
            .error (.showing offset (.negativeOffset offset)) := by
          rw [shape]
          dsimp only
          rw [if_pos negative]
          rfl
        rw [refused]
        exact .refused ((if_neg high).trans (if_pos negative))
      · dsimp only at shape
        rw [if_neg negative] at shape
        exact verdict_batch ((if_neg high).trans (if_neg negative)) shape Iff.rfl (.read id) id
  | messagesOfChannel channelId before limit =>
      refine verdict_limited rfl (fun low => if_pos low) fun high shape => ?_
      exact verdict_ask (if_neg high) shape id id id
  | usersOfReaction messageId emoji limit =>
      refine verdict_limited rfl (fun low => if_pos low) fun high shape => ?_
      exact verdict_ask (if_neg high) shape id id id
  | search request limit =>
      refine verdict_limited rfl (fun low => if_pos low) fun high shape => ?_
      have accepted : (search request limit).refusal? = none := if_neg high
      rw [shape]
      cases fits : (limit :: request.integers).all fitsWord with
      | false =>
          rw [askRead_large fits]
          exact .large accepted fits
      | true =>
          rw [askRead_fits fits]
          by_cases complex : Text.patternLimit < Text.patternSize request.query ∧
              request.isTried db = true
          · rw [if_pos complex]
            exact .complex accepted fits complex
          · rw [if_neg complex]
            exact .answered accepted fits id complex id
  | invite code =>
      have alone : ∀ a ∈ db.invites, ∀ b ∈ db.invites, decide (a.code = code) = true →
          decide (b.code = code) = true → a = b := by
        intro a first b second here there
        refine List.inj_on_of_nodup_map consistent.inviteCodes first second ?_
        exact (of_decide_eq_true here).trans (of_decide_eq_true there).symm
      have reads := reads_find invites alone
      exact verdict_read rfl rfl (by simpa [MeetsWorn] using reads) id id
  | readState userId channelId =>
      have alone : ∀ a ∈ db.readStates, ∀ b ∈ db.readStates,
          ReadStates.isOf userId channelId a = true → ReadStates.isOf userId channelId b = true →
            a = b := by
        intro a first b second here there
        refine List.inj_on_of_nodup_map consistent.readStateKeys first second ?_
        simp only [ReadStates.isOf, Bool.and_eq_true, decide_eq_true_eq] at here there
        rw [here.1, here.2, there.1, there.2]
      have reads := reads_find states alone
      exact verdict_read rfl rfl (by simpa [MeetsWorn, ReadStates.isOf] using reads) id id
  | invitesOfGuild guildId =>
      have reads := reads_sorted Invites.order (fun row => row.guildId = guildId) invites
      exact verdict_read rfl rfl (by simpa [MeetsWorn] using reads) id id
  | readStatesOfUser userId =>
      have reads := reads_sorted ReadStates.order (fun row => row.userId = userId) states
      exact verdict_read rfl rfl (by simpa [MeetsWorn] using reads) id id
  | channel id =>
      refine verdict_read rfl rfl (reads_safe_option fun row found => ?_) False.elim False.elim
      exact reads_channel (readable .channels row (List.mem_of_find?_eq_some found))
  | channelsOfGuild guildId =>
      refine verdict_read rfl rfl (reads_safe fun row listed => ?_) id id
      have stored := (List.mem_filter.mp ((sortBy_perm _ _).mem_iff.mp listed)).1
      exact reads_channel (readable .channels row stored)
  | direct channelId =>
      refine verdict_read rfl rfl (reads_safe_option fun row found => ?_) id id
      exact reads_direct (readable .directChannels row (List.mem_of_find?_eq_some found)) _
  | directsOfUser userId =>
      refine verdict_batch rfl rfl Iff.rfl (reads_safe fun row listed => ?_) id
      obtain ⟨recipient, -, here⟩ := List.mem_flatMap.mp ((sortBy_perm _ _).mem_iff.mp listed)
      exact reads_direct (readable .directChannels row (List.mem_filter.mp here).1) _

end Question

end Guildhall
