import Guildhall.Proofs.Secrecy.Answer
import Guildhall.Proofs.Store.Run

/-!
Runs that differ in secrets only. Blanking the secrets of a run blanks those of its tables and of
its answers, and changes nothing else. Two runs with one blanked form therefore show the same.
-/

namespace Guildhall

open Calendar

def Write.censored : Write → Write
  | createUser user => createUser user.censored
  | updateUser user => updateUser user.censored
  | createAttachment attachment => createAttachment attachment.censored
  | write => write

namespace Directs

theorem blind_create (draft : Draft) :
    Blind (create Catalog.declared draft) (create Catalog.declared draft) := by
  intro db
  unfold create
  cases draft.pairKey? with
  | error failure => rfl
  | ok key =>
      refine blind_inOrder (fun statement member => ?_) db
      rcases List.mem_cons.mp member with rfl | member
      · exact @blind_insertRow .directChannels _
      · obtain ⟨userId, -, rfl⟩ := List.mem_map.mp member
        exact @blind_insertRow .recipients _

theorem blind_removeRecipient (channelId userId : Int) :
    Blind (removeRecipient Catalog.declared channelId userId)
      (removeRecipient Catalog.declared channelId userId) := by
  have leave : Blind (deleteRows Catalog.declared .recipients [channelId, userId]
      (isRecipient channelId userId)) (deleteRows Catalog.declared .recipients
        [channelId, userId] (isRecipient channelId userId)) :=
    blind_deleteRows _ fun _ => rfl
  intro db
  unfold removeRecipient
  change (if db.recipients.any (isRecipient channelId userId) then _ else _) = _
  split
  · refine blind_inOrder (fun statement member => ?_) db
    rcases List.mem_cons.mp member with rfl | member
    · exact leave
    · obtain rfl := List.mem_singleton.mp member
      exact blind_changeRows _ (fun _ => rfl) fun _ => rfl
  · exact leave db

end Directs

namespace Write

/-- Every write does to blanked tables, with its own secrets blanked, what it does to the tables. -/
theorem blind (write : Write) (now : DateTime) :
    Blind (write.statement Catalog.declared now)
      (write.censored.statement Catalog.declared now) := by
  cases write with
  | createUser user => exact @blind_insertRow .users user.row
  | updateUser user => exact @blind_changeRows .users _ _ _ _ _ (fun _ => rfl) fun _ => rfl
  | createAttachment attachment => exact @blind_insertRow .attachments attachment
  | createDirect => exact Directs.blind_create _
  | removeRecipient channelId userId => exact Directs.blind_removeRecipient channelId userId
  | addMemberRole | addReaction | addRecipient => exact blind_ensureRow _
  | setOverride | upsertReadState | upsertVoiceState => exact blind_putRow _ fun _ => rfl
  | updateGuild | updateMember | updateRole | incrementInviteUses | updateChannel | updateMessage
  | incrementMentions => exact blind_changeRows _ (fun _ => rfl) fun _ => rfl
  | deleteUser | deleteGuild | deleteMember | removeMemberRole | deleteRole | deleteBan
  | deleteInvite | deleteChannel | deleteOverride | deleteMessage | deleteAttachment
  | deleteAttachmentsOf | removeReaction | deleteDirect | deleteVoiceState =>
      exact blind_deleteRows _ fun _ => rfl
  | createGuild | createMember | createRole | createBan | createInvite | createChannel
  | createMessage => exact blind_insertRow _

theorem answer_censored (write : Write) (db : Database) :
    write.censored.answer db.censored = write.answer db := by
  cases write with
  | deleteAttachmentsOf messageId =>
      change Answer.count ((db.attachments.map Attachment.censored).countP _) = _
      rw [List.countP_map]
      rfl
  | _ => rfl

theorem answer_plain (write : Write) (db : Database) :
    (write.answer db).censored = write.answer db := by
  cases write <;> rfl

end Write

namespace Directs

def Phase.censored : Phase → Phase
  | .done outcome => .done (outcome.map DirectChannel.censored)
  | phase => phase

def Finder.censored (finder : Finder) : Finder := { finder with phase := finder.phase.censored }

namespace Finder

theorem afterLookup_censored (outcome : Except Failure (Option DirectChannel)) (absent : Phase) :
    afterLookup (outcome.map (Option.map DirectChannel.censored)) absent.censored =
      (afterLookup outcome absent).censored := by
  cases outcome with
  | error failure => rfl
  | ok found => cases found <;> rfl

theorem step_censored (finder : Finder) (now : DateTime) (db : Database) :
    finder.censored.step Catalog.declared now db.censored =
      ((finder.step Catalog.declared now db).1.censored,
        (finder.step Catalog.declared now db).2.censored) := by
  obtain ⟨first, second, candidate, phase⟩ := finder
  cases phase with
  | lookup =>
      have looked := afterLookup_censored (between first second db) .create
      rw [← between_censored] at looked
      exact congrArg (fun phase => (Finder.mk first second candidate phase, db.censored)) looked
  | create =>
      let draft : Draft := Finder.draft ⟨first, second, candidate, .create⟩ now
      have blind := blind_create draft db
      change step Catalog.declared now ⟨first, second, candidate, .create⟩ db.censored = _
      cases created : create Catalog.declared draft db with
      | error failure =>
          rw [created] at blind
          simp only [step, transact, draft, created, blind, Except.map]
          cases conflict : failure.isConflict <;> rfl
      | ok left =>
          rw [created] at blind
          simp only [step, transact, draft, created, blind, Except.map]
          rfl
  | lost conflict =>
      have looked := afterLookup_censored (between first second db) (.done (.error conflict))
      rw [← between_censored] at looked
      exact congrArg (fun phase => (Finder.mk first second candidate phase, db.censored)) looked
  | readBack =>
      have looked := afterLookup_censored (find candidate db) (.done (.error (vanished candidate)))
      rw [← findDirect_censored] at looked
      exact congrArg (fun phase => (Finder.mk first second candidate phase, db.censored)) looked
  | done outcome => rfl

theorem finish_censored (finder : Finder) (now : DateTime) (db : Database) :
    finder.censored.finish Catalog.declared now db.censored =
      ((finder.finish Catalog.declared now db).1.censored,
        (finder.finish Catalog.declared now db).2.censored) := by
  unfold finish
  dsimp only
  simp only [step_censored]

theorem answer_censored (finder : Finder) :
    finder.censored.answer = finder.answer.map Answer.censored := by
  obtain ⟨first, second, candidate, phase⟩ := finder
  cases phase with
  | done outcome => cases outcome <;> rfl
  | _ => rfl

end Finder

end Directs

def Command.censored : Command → Command
  | .write change => .write change.censored
  | command => command

theorem Command.run_censored (command : Command) (now : DateTime) (db : Database) :
    command.censored.run Catalog.declared now db.censored =
      ((command.run Catalog.declared now db).1.map Answer.censored,
        (command.run Catalog.declared now db).2.censored) := by
  cases command with
  | write change =>
      have ran := transact_censored (change.blind now) db
      simp only [censored, run, ran, change.answer_censored]
      cases (transact (change.statement Catalog.declared now) db).1 with
      | error failure => rfl
      | ok done => exact congrArg (Except.ok ·, _) (change.answer_plain db).symm
  | question asked => exact congrArg (·, db.censored) (asked.query_censored db)
  | findOrCreateDirect first second candidate =>
      simp only [censored, run, Directs.Finder.start]
      by_cases same : first = second
      · simp only [if_pos same]
        rfl
      · let finder : Directs.Finder := ⟨first, second, candidate, .lookup⟩
        have finished := finder.finish_censored now db
        change finder.finish Catalog.declared now db.censored = _ at finished
        simp only [if_neg same]
        rw [finished, Directs.Finder.answer_censored]

namespace Event

def censored (event : Event) : Event :=
  match event.action with
  | .call command => ⟨event.now, .call command.censored⟩
  | .search finder => ⟨event.now, .search finder.censored⟩

def shown (event : Event) (db : Database) : Except Failure Json :=
  match event.action with
  | .call command => (command.run Catalog.declared event.now db).1.map Answer.toJson
  | .search finder => (finder.step Catalog.declared event.now db).1.answer.map Answer.toJson

theorem apply_censored (event : Event) (db : Database) :
    event.censored.apply db.censored = (event.apply db).censored := by
  obtain ⟨now, action⟩ := event
  cases action with
  | call command => exact congrArg Prod.snd (command.run_censored now db)
  | search finder => exact congrArg Prod.snd (finder.step_censored now db)

theorem shown_censored (event : Event) (db : Database) :
    event.censored.shown db.censored = event.shown db := by
  have serialized : ∀ outcome : Except Failure Answer,
      (outcome.map Answer.censored).map Answer.toJson = outcome.map Answer.toJson := by
    intro outcome
    cases outcome with
    | error failure => rfl
    | ok answer => exact congrArg Except.ok answer.toJson_censored
  obtain ⟨now, action⟩ := event
  cases action with
  | call command =>
      have ran := congrArg Prod.fst (command.run_censored now db)
      exact (congrArg (Except.map Answer.toJson) ran).trans (serialized _)
  | search finder =>
      have stepped := congrArg Prod.fst (finder.step_censored now db)
      simp only [censored, shown, stepped, Directs.Finder.answer_censored]
      exact serialized _

end Event

def Run.shown : Run → Database → List (Except Failure Json)
  | [], _ => []
  | event :: rest, db => event.shown db :: Run.shown rest (event.apply db)

theorem run_shown_censored (run : Run) (db : Database) :
    Run.shown (run.map Event.censored) db.censored = Run.shown run db := by
  induction run generalizing db with
  | nil => rfl
  | cons event rest ih =>
      rw [List.map_cons, Run.shown, Run.shown, event.shown_censored, event.apply_censored, ih]

/-- Runs that differ only in the password hashes and storage keys that they hand over show the same
answers and the same failures. -/
theorem secrets_unseen (first second : Run)
    (alike : first.map Event.censored = second.map Event.censored) :
    Run.shown first .empty = Run.shown second .empty :=
  calc Run.shown first .empty
      = Run.shown (first.map Event.censored) Database.empty.censored :=
        (run_shown_censored first .empty).symm
    _ = Run.shown (second.map Event.censored) Database.empty.censored := by rw [alike]
    _ = Run.shown second .empty := run_shown_censored second .empty

def exchange (password renewed stored : String) : Run :=
  [Write.event noon (.createUser ⟨1, "ada", "Ada", none, password, noon⟩),
    Write.event noon (.createUser ⟨2, "bob", "Bob", none, password, noon⟩),
    Write.event noon (.createUser ⟨3, "ada", "Eve", none, renewed, noon⟩),
    Write.event noon (.updateUser ⟨1, "ada", "Ada L", none, renewed, noon⟩),
    Write.event noon (.createMessage ⟨20, 10, 1, "hello", noon, none⟩),
    Write.event noon (.createAttachment ⟨21, 20, "notes.txt", "text/plain", 5, stored⟩),
    ⟨noon, .call (.question (.attachmentsOfMessage 20))⟩,
    ⟨noon, .call (.findOrCreateDirect 1 2 30)⟩,
    ⟨noon, .call (.question (.user 1))⟩]

theorem exchanges_look_alike :
    let first := exchange "abc" "def" "uploads/1"
    let second := exchange "xyz" "" "uploads/2"
    Run.after first .empty ≠ Run.after second .empty ∧
    Run.shown first .empty = Run.shown second .empty ∧
    (Run.shown first .empty)[2]? = some (.error (.store (.duplicate "users.username"))) := by
  intro first second
  exact ⟨by decide +kernel, secrets_unseen first second rfl, rfl⟩

end Guildhall
