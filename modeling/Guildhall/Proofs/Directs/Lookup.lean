import Guildhall.Proofs.Directs.Pairs
import Guildhall.Proofs.PairKey
import Guildhall.Proofs.Store.Batch
import Guildhall.Proofs.Store.Cascade
import Guildhall.Proofs.Store.Question
import Guildhall.Proofs.Store.Word

/-!
What the transactions of a search for the channel between two users answer: a lookup finds the
oldest channel that both share, and a creation fails only for an integer that does not fit, a name
or an identifier that is taken, or a user who does not exist.
-/

namespace Guildhall.Directs

open Calendar

def shown (db : Database) (row : DirectChannelRow) : DirectChannel :=
  ⟨row.id, .pair, row.ownerId, recipientsOf db row.id, row.createdAt.naive⟩

theorem withRecipients_pair {row : DirectChannelRow} (pair : row.kind = DirectKind.pair.code)
    (db : Database) : withRecipients db row = .ok (shown db row) := by
  simp [withRecipients, DirectChannelRow.channel, shown, pair, DirectKind.code, DirectKind.ofCode?]

theorem mem_recipientsOf {db : Database} (sound : db.Sound Catalog.declared)
    {channelId userId : Int} :
    userId ∈ (recipientsOf db channelId).map User.id ↔ Holds db channelId userId := by
  have listed : ∀ user, user ∈ recipientsOf db channelId ↔ ∃ row ∈ db.users,
      Holds db channelId row.id ∧ row.user = user := by
    intro user
    simp only [recipientsOf_eq, List.mem_map, (sortBy_perm _ _).mem_iff, List.mem_flatMap,
      List.mem_filter, decide_eq_true_eq]
    constructor
    · rintro ⟨row, ⟨⟨channel, recipient⟩, ⟨stored, rfl⟩, present, rfl⟩, rfl⟩
      exact ⟨row, present, stored, rfl⟩
    · rintro ⟨row, present, holds, rfl⟩
      exact ⟨row, ⟨⟨channelId, row.id⟩, ⟨holds, rfl⟩, present, rfl⟩, rfl⟩
  simp only [List.mem_map, listed]
  constructor
  · rintro ⟨_, ⟨row, -, holds, rfl⟩, rfl⟩
    exact holds
  · intro holds
    obtain ⟨row, present, rfl⟩ := (consistent_of_sound sound).recipientUser _ holds
    exact ⟨row.user, ⟨row, present, holds, rfl⟩, rfl⟩

theorem ids_of_recipients {db : Database} (sound : db.Sound Catalog.declared)
    {recipients : List RecipientRow} (stored : recipients ⊆ db.recipients) :
    (recipients.flatMap fun recipient =>
      db.users.filter fun row => row.id = recipient.userId).map UserRow.id =
        recipients.map RecipientRow.userId := by
  have consistent := consistent_of_sound sound
  exact ids_joined consistent.userIds fun recipient member =>
    consistent.recipientUser recipient (stored member)

theorem nodup_recipientsOf {db : Database} (sound : db.Sound Catalog.declared)
    (channelId : Int) : ((recipientsOf db channelId).map User.id).Nodup := by
  let here := db.recipients.filter fun row => row.channelId = channelId
  have distinct : (here.map RecipientRow.userId).Nodup := by
    refine nodup_part (consistent_of_sound sound).recipientKeys _ fun a b first second same => ?_
    rw [of_decide_eq_true first, of_decide_eq_true second, same]
  rw [← ids_of_recipients sound List.filter_sublist.subset] at distinct
  rw [recipientsOf_eq, List.map_map]
  exact ((sortBy_perm _ _).map UserRow.id).nodup_iff.mpr distinct

/-- No channel that both users share was opened under a lower identifier. -/
structure Oldest (db : Database) (channel : DirectChannelRow) (a b : Int) : Prop where
  shares : Shares db channel a b
  least : ∀ other, Shares db other a b → channel.id ≤ other.id

section Lookups

variable {db : Database} {a b : Int}

theorem between_large (db : Database) (large : ¬(fitsWord a = true ∧ fitsWord b = true)) :
    between a b db = .error .tooLarge := by
  refine askRead_large ?_ _ db
  simpa using large

theorem any_isRecipient {channelId userId : Int} :
    db.recipients.any (isRecipient channelId userId) = true ↔ Holds db channelId userId := by
  simp [List.any_eq_true, isRecipient_iff, Holds]

/-- A lookup answers the oldest channel that both users share, or that they share none. -/
theorem between_cases (db : Database) (first : fitsWord a = true) (second : fitsWord b = true) :
    (between a b db = .ok none ∧ ∀ channel, ¬Shares db channel a b) ∨
      ∃ channel, Oldest db channel a b ∧ between a b db = .ok (some (shown db channel)) := by
  let rows := db.directChannels.filter fun row =>
    row.kind = DirectKind.pair.code && db.recipients.any (isRecipient row.id a) &&
      db.recipients.any (isRecipient row.id b)
  have listed : ∀ row, row ∈ sortBy (compareOn DirectChannelRow.id) rows ↔ Shares db row a b := by
    intro row
    simp only [(sortBy_perm _ _).mem_iff, rows, List.mem_filter, Bool.and_eq_true,
      decide_eq_true_eq, any_isRecipient]
    constructor
    · rintro ⟨stored, ⟨pair, holdsFirst⟩, holdsSecond⟩
      exact ⟨stored, pair, holdsFirst, holdsSecond⟩
    · rintro ⟨stored, pair, holdsFirst, holdsSecond⟩
      exact ⟨stored, ⟨pair, holdsFirst⟩, holdsSecond⟩
  have answer : between a b db =
      (sortBy (compareOn DirectChannelRow.id) rows).head?.mapM (withRecipients db) :=
    askRead_fits (by simp [first, second]) _ db
  have ordered := ascending_sortBy DirectChannelRow.id rows
  cases sorted : sortBy (compareOn DirectChannelRow.id) rows with
  | nil =>
      refine Or.inl ⟨by rw [answer, sorted]; rfl, fun channel shares => ?_⟩
      have member := (listed channel).mpr shares
      rw [sorted] at member
      cases member
  | cons channel rest =>
      rw [sorted] at ordered listed
      have shares := (listed channel).mp List.mem_cons_self
      refine Or.inr ⟨channel, ⟨shares, fun other also => ?_⟩, ?_⟩
      · rcases List.mem_cons.mp ((listed other).mpr also) with rfl | later
        · exact Int.le_refl _
        · exact (List.pairwise_cons.mp ordered).1 other later
      · rw [answer, sorted, List.head?_cons, Option.mapM_some, withRecipients_pair shares.pair]
        rfl

theorem find_stored (sound : db.Sound Catalog.declared) {row : DirectChannelRow}
    (stored : row ∈ db.directChannels) (pair : row.kind = DirectKind.pair.code)
    (fits : fitsWord row.id = true) : find row.id db = .ok (some (shown db row)) := by
  have found : db.directChannels.find? (fun other => other.id = row.id) = some row := by
    cases first : db.directChannels.find? (fun other => other.id = row.id) with
    | none =>
        have missed := List.find?_eq_none.mp first row stored
        simp at missed
    | some other =>
        have same : other.id = row.id := by simpa using List.find?_some first
        rw [same_of_id sound (List.mem_of_find?_eq_some first) stored same]
  rw [find, askRead_fits (by simp [fits]), found, Option.mapM_some, withRecipients_pair pair]
  rfl

end Lookups

def opening (a b id : Int) (now : DateTime) : Draft := .between a b id none now

theorem named_opening {a b : Int} (fits : fitsWord a = true ∧ fitsWord b = true) (id : Int)
    (now : DateTime) : (opening a b id now).pairKey? = .ok (some (pairKey a b)) := by
  rw [opening, pairKey?_between, writable_of_fits fits.1, writable_of_fits fits.2]
  rfl

/-- What is in the way of a new channel between two users. -/
inductive Obstacle (db : Database) (a b id : Int) : Failure → Prop where
  | large (large : ¬(fitsWord a = true ∧ fitsWord b = true ∧ fitsWord id = true)) :
      Obstacle db a b id .tooLarge
  | idTaken {failure : Failure} (conflict : failure.isConflict = true)
      (taken : ∃ row ∈ db.directChannels, row.id = id) : Obstacle db a b id failure
  | nameTaken {failure : Failure} (conflict : failure.isConflict = true)
      (taken : ∃ row ∈ db.directChannels, row.pairKey = some (pairKey a b)) :
      Obstacle db a b id failure
  | unknown (unknown : (∀ user ∈ db.users, user.id ≠ a) ∨ ∀ user ∈ db.users, user.id ≠ b) :
      Obstacle db a b id (.store .noTarget)

section Creations

variable {db : Database} {a b id : Int} {now : DateTime} {failure : Failure}

theorem pairKey_of_key {row : DirectChannelRow} {key : String}
    (named : Table.key? .directChannels ["pair_key"] row = some [.text key]) :
    row.pairKey = some key := by
  obtain ⟨_, _, _, pairKey, _⟩ := row
  cases pairKey with
  | none => cases named
  | some name =>
      cases named
      rfl

theorem insertOpening_error
    (failed : insertRow Catalog.declared .directChannels
      ((opening a b id now).row (some (pairKey a b))) db = .error failure) :
    Obstacle db a b id failure := by
  cases insertRow_error failed with
  | large large =>
      refine .large fun fits => ?_
      have words : [id, DirectKind.pair.code].all fitsWord = false := large
      simp [fits.2.2] at words
      exact absurd words (by decide)
  | @taken columns other key stored shared =>
      rcases List.mem_cons.mp key with rfl | unique
      · refine .idTaken rfl ⟨other, stored, ?_⟩
        simpa [Table.identity, Draft.row, opening, Draft.between] using
          (sameKey_identity.mp shared).symm
      · obtain rfl := List.mem_singleton.mp unique
        obtain ⟨name, here, there⟩ := sameKey_iff.mp shared
        cases here
        exact .nameTaken rfl ⟨other, stored, pairKey_of_key there⟩
  | missing declared unanswered =>
      obtain rfl := List.mem_singleton.mp declared
      exact absurd (Or.inl rfl) unanswered

theorem insertRecipient_error {channelId userId : Int}
    (failed : insertRow Catalog.declared .recipients ⟨channelId, userId⟩ db = .error failure)
    (known : ∃ row ∈ db.directChannels, row.id = channelId)
    (absent : ¬Holds db channelId userId) (fits : fitsWord channelId = true) :
    (failure = .tooLarge ∧ fitsWord userId = false) ∨
      (failure = .store .noTarget ∧ ∀ user ∈ db.users, user.id ≠ userId) := by
  cases insertRow_error failed with
  | large large =>
      have words : [channelId, userId].all fitsWord = false := large
      exact Or.inl ⟨rfl, by simpa [fits] using words⟩
  | @taken columns other key stored shared =>
      obtain rfl := List.mem_singleton.mp key
      have same := sameKey_identity.mp shared
      simp only [Table.identity, List.cons.injEq, Cell.int.injEq, and_true] at same
      obtain ⟨rfl, rfl⟩ := same
      exact absurd stored absent
  | missing declared unanswered =>
      refine Or.inr ⟨rfl, fun user present same => unanswered (Or.inr ?_)⟩
      obtain ⟨channel, stored, rfl⟩ := known
      rcases List.mem_cons.mp declared with rfl | declared
      · exact pointsInto_names.mpr ⟨channel, stored, (names_to rfl rfl).mpr rfl⟩
      · obtain rfl := List.mem_singleton.mp declared
        exact pointsInto_names.mpr ⟨user, present, (names_to rfl rfl).mpr (congrArg some same.symm)⟩

theorem create_error (sound : db.Sound Catalog.declared) (apart : a ≠ b)
    (fits : fitsWord a = true ∧ fitsWord b = true)
    (failed : create Catalog.declared (opening a b id now) db = .error failure) :
    Obstacle db a b id failure := by
  rw [create, named_opening fits] at failed
  change inOrder [insertRow Catalog.declared .directChannels
      ((opening a b id now).row (some (pairKey a b))),
    insertRow Catalog.declared .recipients ⟨id, a⟩,
    insertRow Catalog.declared .recipients ⟨id, b⟩] db = .error failure at failed
  rcases inOrder_cons_error.mp failed with channel | ⟨opened, inserted, failed⟩
  · exact insertOpening_error channel
  obtain ⟨words, rfl, admissible⟩ := insertRow_ok.mp inserted
  have fits : fitsWord id = true := List.all_eq_true.mp words id List.mem_cons_self
  have fresh : ∀ row ∈ db.directChannels, row.id ≠ id := id_fresh admissible
  have empty : ∀ userId, ¬Holds db id userId := fun _ => holds_fresh sound fresh
  have known : ∃ row ∈ db.directChannels ++ [(opening a b id now).row (some (pairKey a b))],
      row.id = id := ⟨_, List.mem_append_right _ (List.mem_singleton_self _), rfl⟩
  rcases inOrder_cons_error.mp failed with first | ⟨joined, inserted, failed⟩
  · rcases insertRecipient_error first known (empty a) fits with ⟨rfl, large⟩ | ⟨rfl, unknown⟩
    · exact .large fun fits => by simp [fits.1] at large
    · exact .unknown (Or.inl unknown)
  obtain ⟨-, rfl, -⟩ := insertRow_ok.mp inserted
  have absent : ⟨id, b⟩ ∉ db.recipients ++ [(⟨id, a⟩ : RecipientRow)] := by
    simpa [apart.symm, Holds] using empty b
  rcases inOrder_cons_error.mp failed with second | ⟨joined, inserted, done⟩
  · rcases insertRecipient_error second known absent fits with ⟨rfl, large⟩ | ⟨rfl, unknown⟩
    · exact .large fun fits => by simp [fits.2.1] at large
    · exact .unknown (Or.inr unknown)
  · cases done

theorem sound_create {draft : Draft} {left : Database} (sound : db.Sound Catalog.declared)
    (done : create Catalog.declared draft db = .ok left) : left.Sound Catalog.declared :=
  effects_keep sound_effect sound (effects_createDirect done)

theorem created_opening {left : Database}
    (done : create Catalog.declared (opening a b id now) db = .ok left) :
    Created (opening a b id now) (some (pairKey a b)) db left := by
  obtain ⟨key, created⟩ := create_ok done
  have named := created.named
  rw [opening, pairKey?_between] at named
  split at named
  · cases named
    exact created
  · cases named

theorem holds_opening {left : Database} {userId : Int} (sound : db.Sound Catalog.declared)
    (created : Created (opening a b id now) (some (pairKey a b)) db left) :
    Holds left id userId ↔ userId = a ∨ userId = b := by
  have before : ¬Holds db id userId := holds_fresh sound created.fresh
  rw [holds_opened created, or_iff_right before]
  simp [opening, Draft.between]

theorem shares_opening {left : Database} (sound : db.Sound Catalog.declared)
    (created : Created (opening a b id now) (some (pairKey a b)) db left) :
    Shares left ((opening a b id now).row (some (pairKey a b))) a b := by
  refine ⟨?_, rfl, (holds_opening sound created).mpr (Or.inl rfl),
    (holds_opening sound created).mpr (Or.inr rfl)⟩
  rw [created.channels]
  exact List.mem_append_right _ (List.mem_singleton_self _)

end Creations

namespace Finder

variable {db : Database} {a b id : Int} {now : DateTime}

theorem step_lookup : step Catalog.declared now ⟨a, b, id, .lookup⟩ db =
    (⟨a, b, id, afterLookup (between a b db) .create⟩, db) := rfl

theorem step_lost {conflict : Failure} : step Catalog.declared now ⟨a, b, id, .lost conflict⟩ db =
    (⟨a, b, id, afterLookup (between a b db) (.done (.error conflict))⟩, db) := rfl

theorem step_readBack : step Catalog.declared now ⟨a, b, id, .readBack⟩ db =
    (⟨a, b, id, afterLookup (find id db) (.done (.error (vanished id)))⟩, db) := rfl

theorem step_done {outcome : Except Failure DirectChannel} :
    step Catalog.declared now ⟨a, b, id, .done outcome⟩ db =
      (⟨a, b, id, .done outcome⟩, db) := rfl

theorem step_create_ok {left : Database}
    (done : create Catalog.declared (opening a b id now) db = .ok left) :
    step Catalog.declared now ⟨a, b, id, .create⟩ db = (⟨a, b, id, .readBack⟩, left) := by
  have created : create Catalog.declared (Finder.draft ⟨a, b, id, .create⟩ now) db = .ok left :=
    done
  simp only [step, transact, created]

theorem step_create_error {failure : Failure}
    (failed : create Catalog.declared (opening a b id now) db = .error failure) :
    step Catalog.declared now ⟨a, b, id, .create⟩ db =
      (⟨a, b, id, if failure.isConflict then .lost failure else .done (.error failure)⟩, db) := by
  have refused : create Catalog.declared (Finder.draft ⟨a, b, id, .create⟩ now) db =
      .error failure := failed
  simp only [step, transact, refused]

section Endings

theorem finish_large (large : ¬(fitsWord a = true ∧ fitsWord b = true)) :
    finish Catalog.declared now ⟨a, b, id, .lookup⟩ db =
      (⟨a, b, id, .done (.error .tooLarge)⟩, db) := by
  unfold finish
  rw [step_lookup, between_large db large]
  rfl

theorem finish_found {channel : DirectChannel} (looked : between a b db = .ok (some channel)) :
    finish Catalog.declared now ⟨a, b, id, .lookup⟩ db =
      (⟨a, b, id, .done (.ok channel)⟩, db) := by
  unfold finish
  rw [step_lookup, looked]
  rfl

/-- A conflict is looked into, but nobody has opened a channel meanwhile. -/
theorem finish_refused {failure : Failure} (looked : between a b db = .ok none)
    (failed : create Catalog.declared (opening a b id now) db = .error failure) :
    finish Catalog.declared now ⟨a, b, id, .lookup⟩ db =
      (⟨a, b, id, .done (.error failure)⟩, db) := by
  unfold finish
  rw [step_lookup]
  simp only [looked, afterLookup]
  rw [step_create_error failed]
  cases conflict : failure.isConflict with
  | true => simp only [reduceIte, step_lost, looked, afterLookup]
  | false => simp only [Bool.false_eq_true, reduceIte, step_done]

theorem finish_opened {left : Database} (sound : db.Sound Catalog.declared)
    (looked : between a b db = .ok none)
    (done : create Catalog.declared (opening a b id now) db = .ok left) :
    finish Catalog.declared now ⟨a, b, id, .lookup⟩ db =
      (⟨a, b, id, .done (.ok
        (shown left ((opening a b id now).row (some (pairKey a b)))))⟩, left) := by
  have created := created_opening done
  have stored := (shares_opening sound created).stored
  have read := find_stored (sound_create sound done) stored rfl created.fits
  change find id left = _ at read
  unfold finish
  rw [step_lookup]
  simp only [looked, afterLookup]
  rw [step_create_ok done]
  simp only [step_readBack, read, afterLookup]

end Endings

end Finder

inductive Ending (db : Database) (now : DateTime) (a b id : Int) :
    Except Failure Answer → Prop where
  | large (large : ¬(fitsWord a = true ∧ fitsWord b = true)) :
      Ending db now a b id (.error .tooLarge)
  | found {row : DirectChannelRow} (oldest : Oldest db row a b) :
      Ending db now a b id (.ok (.entity (some (.direct (shown db row)))))
  | obstructed {failure : Failure} (alone : ∀ row, ¬Shares db row a b)
      (obstacle : Obstacle db a b id failure) : Ending db now a b id (.error failure)
  | opened {left : Database} (alone : ∀ row, ¬Shares db row a b)
      (sound : left.Sound Catalog.declared)
      (created : Created (opening a b id now) (some (pairKey a b)) db left) :
      Ending db now a b id (.ok (.entity (some (.direct
        (shown left ((opening a b id now).row (some (pairKey a b))))))))

theorem findOrCreate_run {db : Database} {a b id : Int} {now : DateTime} (apart : a ≠ b) :
    Command.run Catalog.declared now (.findOrCreateDirect a b id) db =
      ((Finder.finish Catalog.declared now ⟨a, b, id, .lookup⟩ db).1.answer,
        (Finder.finish Catalog.declared now ⟨a, b, id, .lookup⟩ db).2) := by
  simp only [Command.run, Finder.start, if_neg apart]

theorem findOrCreate_ending {db : Database} {a b : Int} (id : Int) (now : DateTime)
    (sound : db.Sound Catalog.declared) (apart : a ≠ b) :
    Ending db now a b id
      (Command.run Catalog.declared now (.findOrCreateDirect a b id) db).1 := by
  rw [findOrCreate_run apart]
  by_cases fits : fitsWord a = true ∧ fitsWord b = true
  · rcases between_cases db fits.1 fits.2 with ⟨looked, alone⟩ | ⟨row, oldest, looked⟩
    · cases done : create Catalog.declared (opening a b id now) db with
      | error failure =>
          rw [Finder.finish_refused looked done]
          exact .obstructed alone (create_error sound apart fits done)
      | ok left =>
          rw [Finder.finish_opened sound looked done]
          exact .opened alone (sound_create sound done) (created_opening done)
    · rw [Finder.finish_found looked]
      exact .found oldest
  · rw [Finder.finish_large fits]
    exact .large fits

theorem findOrCreate_shares {db : Database} {a b : Int} (id : Int) (now : DateTime)
    (sound : db.Sound Catalog.declared) (apart : a ≠ b)
    (fits : fitsWord a = true ∧ fitsWord b = true) (shares : ∃ row, Shares db row a b) :
    ∃ row, Oldest db row a b ∧
      (Command.run Catalog.declared now (.findOrCreateDirect a b id) db).1 =
        .ok (.entity (some (.direct (shown db row)))) := by
  have ending := findOrCreate_ending id now sound apart
  generalize (Command.run Catalog.declared now (.findOrCreateDirect a b id) db).1 = outcome
    at ending
  obtain ⟨row, shared⟩ := shares
  cases ending with
  | large large => exact absurd fits large
  | found oldest => exact ⟨_, oldest, rfl⟩
  | obstructed alone => exact absurd shared (alone row)
  | opened alone => exact absurd shared (alone row)

theorem findOrCreate_only {db : Database} {a b : Int} {row : DirectChannelRow} (id : Int)
    (now : DateTime) (sound : db.Sound Catalog.declared) (apart : a ≠ b)
    (fits : fitsWord a = true ∧ fitsWord b = true) (only : db.directChannels = [row])
    (shares : Shares db row a b) :
    (Command.run Catalog.declared now (.findOrCreateDirect a b id) db).1 =
      .ok (.entity (some (.direct (shown db row)))) := by
  obtain ⟨other, oldest, answered⟩ := findOrCreate_shares id now sound apart fits ⟨row, shares⟩
  have stored : other ∈ [row] := only ▸ oldest.shares.stored
  rw [answered, List.mem_singleton.mp stored]

end Guildhall.Directs
