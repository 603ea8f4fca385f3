import Guildhall.Proofs.Store.Absence
import Guildhall.Proofs.Directs.Lookup

/-!
The failures that callers are told of, and the three ways in which a call ends in another one: it
gets as far as handing over an integer beyond the words of the storage, it reads a counter that has
been raised beyond them, or it has to write an integer of too many digits, in the name of a pair or
in a refusal.
-/

namespace Guildhall

open Calendar

def Documented (outcome : Except Failure Answer) : Prop :=
  ∀ failure, outcome = .error failure → failure.isDocumented = true

theorem documented_ok (answer : Answer) : Documented (.ok answer) := by
  rintro _ ⟨⟩

theorem documented_error {failure : Failure} :
    Documented (.error failure) ↔ failure.isDocumented = true := by
  constructor
  · intro documented
    exact documented failure rfl
  · rintro told _ ⟨⟩
    exact told

namespace Command

/-- The call leaves the words of the storage, by an integer that it hands over or by a counter that
it reads, or it has an integer to write that has too many digits. A search for a direct channel
hands over the new identifier only where none is found. -/
inductive Escapes (now : DateTime) (db : Database) : Command → Prop where
  | write {change : Write} (oversteps : change.Oversteps now db) : Escapes now db (.write change)
  | name {change : Write} (unnameable : change.Unnameable now) : Escapes now db (.write change)
  | refusal {asked : Question} (refusal : asked.refusal? = some .unwritable) :
      Escapes now db (.question asked)
  | question {asked : Question} (accepted : asked.refusal? = none)
      (large : asked.integers.all fitsWord = false) : Escapes now db (.question asked)
  | counter {asked : Question} (accepted : asked.refusal? = none)
      (fits : asked.integers.all fitsWord = true) (worn : asked.MeetsWorn db) :
      Escapes now db (.question asked)
  | pair {first second candidate : Int} (apart : first ≠ second)
      (large : ¬(fitsWord first = true ∧ fitsWord second = true)) :
      Escapes now db (.findOrCreateDirect first second candidate)
  | candidate {first second candidate : Int} (apart : first ≠ second)
      (alone : ∀ row, ¬Directs.Shares db row first second) (large : fitsWord candidate = false) :
      Escapes now db (.findOrCreateDirect first second candidate)

def integers : Command → List Int
  | write change => change.integers
  | question asked => asked.integers
  | findOrCreateDirect first second candidate => [first, second, candidate]

end Command

theorem large_of_overlong {n : Int} (overlong : Decimal.isWritable n = false) :
    fitsWord n = false := by
  refine Bool.eq_false_iff.mpr fun fits => ?_
  rw [writable_of_fits fits] at overlong
  cases overlong

theorem all_fits_false {integers : List Int} :
    integers.all fitsWord = false ↔ ∃ n ∈ integers, fitsWord n = false := by
  simp

theorem Directs.Overlong.beyond {id kind : Int} {recipients : List Int} {ownerId : Option Int}
    {time : DateTime} {db : Database}
    (overlong : Directs.Overlong ⟨id, recipients, kind, ownerId, time⟩ db) :
    ∃ n ∈ [id, kind] ++ ownerId.toList ++ recipients, fitsWord n = false := by
  cases overlong with
  | @row key named large =>
      obtain ⟨n, listed, large⟩ := all_fits_false.mp large
      have own : n ∈ [id, kind] ++ ownerId.toList := by
        cases ownerId <;> cases key <;> exact listed
      exact ⟨n, List.mem_append_left _ own, large⟩
  | @recipient key before after userId middle named listed entered large =>
      have here : userId ∈ recipients := by
        rw [show recipients = before ++ userId :: after from listed]
        exact List.mem_append_right _ List.mem_cons_self
      exact ⟨userId, List.mem_append_right _ here, large⟩

theorem Directs.Draft.Unnameable.beyond {draft : Directs.Draft} (unnameable : draft.Unnameable) :
    ∃ n ∈ draft.recipients, fitsWord n = false := by
  obtain ⟨-, a, b, two, overlong⟩ := unnameable
  rw [two]
  rcases Bool.and_eq_false_iff.mp overlong with first | second
  · exact ⟨a, by simp, large_of_overlong first⟩
  · exact ⟨b, by simp, large_of_overlong second⟩

theorem showing_unwritable {n : Int} {refusal : Failure} (other : refusal ≠ .unwritable)
    (shown : Failure.showing n refusal = .unwritable) : Decimal.isWritable n = false := by
  unfold Failure.showing at shown
  split at shown
  · exact absurd shown other
  · rename_i overlong
    exact Bool.eq_false_iff.mpr overlong

/-- What a refusal cannot write is among the integers of the question. -/
theorem Question.refusal_beyond {asked : Question} (refusal : asked.refusal? = some .unwritable) :
    ∃ n ∈ asked.integers, fitsWord n = false := by
  have beyond : ∀ {n : Int} {told : Failure}, told ≠ .unwritable → n ∈ asked.integers →
      some (Failure.showing n told) = some .unwritable →
        ∃ n ∈ asked.integers, fitsWord n = false :=
    fun other member shown =>
      ⟨_, member, large_of_overlong (showing_unwritable other (Option.some.inj shown))⟩
  cases asked with
  | membersOfGuild guildId limit offset =>
      simp only [Question.refusal?] at refusal
      split at refusal
      · exact beyond (by simp) (by simp [Question.integers]) refusal
      · split at refusal
        · exact beyond (by simp) (by simp [Question.integers]) refusal
        · cases refusal
  | messagesOfChannel | search | usersOfReaction =>
      simp only [Question.refusal?] at refusal
      split at refusal
      · exact beyond (by simp) (by simp [Question.integers]) refusal
      · cases refusal
  | _ => cases refusal

theorem Command.Escapes.beyond {now : DateTime} {db : Database} {command : Command}
    (escapes : command.Escapes now db) :
    (∃ n ∈ command.integers, fitsWord n = false) ∨
      ∃ asked, command = .question asked ∧ asked.MeetsWorn db := by
  cases escapes with
  | @write change oversteps =>
      refine Or.inl ?_
      cases change
      case createDirect => exact Directs.Overlong.beyond oversteps
      all_goals exact all_fits_false.mp oversteps
  | @name change unnameable =>
      cases change with
      | createDirect =>
          obtain ⟨n, member, large⟩ := Directs.Draft.Unnameable.beyond unnameable
          exact Or.inl ⟨n, List.mem_append_right _ member, large⟩
      | _ => exact False.elim unnameable
  | refusal refusal => exact Or.inl (Question.refusal_beyond refusal)
  | question accepted large => exact Or.inl (all_fits_false.mp large)
  | counter accepted fits worn => exact Or.inr ⟨_, rfl, worn⟩
  | @pair first second candidate apart large =>
      by_cases fits : fitsWord first = true
      · exact Or.inl ⟨second, by simp [Command.integers], by simpa [fits] using large⟩
      · exact Or.inl ⟨first, List.mem_cons_self, Bool.eq_false_iff.mpr fits⟩
  | @candidate first second candidate apart alone large =>
      exact Or.inl ⟨candidate, by simp [Command.integers], large⟩

section Outcomes

variable {now : DateTime} {db : Database}

theorem write_documented_iff (change : Write) :
    Documented (Command.run Catalog.declared now (.write change) db).1 ↔
      ¬(change.Oversteps now db ∨ change.Unnameable now) := by
  have bounded := change.bounded now db
  -- Either way out leaves a failure of its own, of which callers are not told.
  have failed : change.Oversteps now db ∨ change.Unnameable now → ∃ failure,
      change.statement Catalog.declared now db = .error failure ∧
        failure.isDocumented = false := by
    rintro (oversteps | unnameable)
    · exact ⟨_, bounded.large oversteps, rfl⟩
    · exact ⟨_, bounded.unwritable unnameable, rfl⟩
  simp only [Command.run, transact]
  cases done : change.statement Catalog.declared now db with
  | ok left =>
      refine iff_of_true (documented_ok _) fun escapes => ?_
      obtain ⟨failure, raised, -⟩ := failed escapes
      rw [done] at raised
      cases raised
  | error failure =>
      refine documented_error.trans ⟨fun told escapes => ?_, fun within => ?_⟩
      · obtain ⟨other, raised, untold⟩ := failed escapes
        obtain rfl := Except.error.inj (done.symm.trans raised)
        rw [told] at untold
        cases untold
      · rcases bounded.stopped failure done with large | unnameable | told
        · exact absurd (Or.inl large.2) within
        · exact absurd (Or.inr unnameable.2) within
        · exact told

theorem showing_documented {n : Int} {refusal : Failure} (told : refusal.isDocumented = true) :
    Failure.showing n refusal = .unwritable ∨ (Failure.showing n refusal).isDocumented = true := by
  unfold Failure.showing
  split
  · exact Or.inr told
  · exact Or.inl rfl

theorem refusal_documented {asked : Question} {failure : Failure}
    (refusal : asked.refusal? = some failure) :
    failure = .unwritable ∨ failure.isDocumented = true := by
  cases asked with
  | membersOfGuild guildId limit offset =>
      simp only [Question.refusal?] at refusal
      split at refusal
      · cases refusal
        exact showing_documented rfl
      · split at refusal <;> cases refusal
        exact showing_documented rfl
  | messagesOfChannel | search | usersOfReaction =>
      simp only [Question.refusal?] at refusal
      split at refusal <;> cases refusal
      exact showing_documented rfl
  | _ => cases refusal

theorem conflict_documented {failure : Failure} (conflict : failure.isConflict = true) :
    failure.isDocumented = true := by
  cases failure with
  | store fault => rfl
  | _ => cases conflict

theorem question_documented_iff (sound : db.Sound Catalog.declared)
    (readable : db.Each Table.Readable) (asked : Question) :
    Documented (asked.query db) ↔ ¬Command.Escapes now db (.question asked) := by
  have verdict := asked.query_verdict sound readable
  generalize asked.query db = outcome at verdict
  cases verdict with
  | refused refusal =>
      rcases refusal_documented refusal with rfl | told
      · refine iff_of_false (fun told => ?_) (not_not_intro (.refusal refusal))
        cases documented_error.mp told
      · refine iff_of_true (documented_error.mpr told) fun escapes => ?_
        cases escapes with
        | refusal unwritable =>
            obtain rfl := Option.some.inj (refusal.symm.trans unwritable)
            cases told
        | question accepted => simp [accepted] at refusal
        | counter accepted => simp [accepted] at refusal
  | large accepted large =>
      refine iff_of_false (fun told => ?_) (not_not_intro (.question accepted large))
      cases documented_error.mp told
  | worn accepted fits worn =>
      refine iff_of_false (fun told => ?_) (not_not_intro (.counter accepted fits worn))
      cases documented_error.mp told
  | complex accepted fits complex =>
      refine iff_of_true (documented_error.mpr rfl) fun escapes => ?_
      cases escapes with
      | refusal refusal => simp [accepted] at refusal
      | question _ large => simp [fits] at large
      | counter _ _ worn =>
          cases asked with
          | search => exact worn
          | _ => exact complex
  | crowded accepted fits crowded =>
      refine iff_of_true (documented_error.mpr rfl) fun escapes => ?_
      cases escapes with
      | refusal refusal => simp [accepted] at refusal
      | question _ large => simp [fits] at large
      | counter _ _ worn =>
          cases asked with
          | membersOfGuild | directsOfUser => exact worn
          | _ => exact crowded
  | answered accepted fits fresh simple few =>
      refine iff_of_true (documented_ok _) fun escapes => ?_
      cases escapes with
      | refusal refusal => simp [accepted] at refusal
      | question _ large => simp [fits] at large
      | counter _ _ worn => exact fresh worn

namespace Directs

variable {a b id : Int}

theorem findOrCreate_large (apart : a ≠ b)
    (large : ¬(fitsWord a = true ∧ fitsWord b = true)) :
    (Command.run Catalog.declared now (.findOrCreateDirect a b id) db).1 = .error .tooLarge := by
  rw [findOrCreate_run apart, Finder.finish_large large]
  rfl

theorem findOrCreate_candidate (apart : a ≠ b) (fits : fitsWord a = true ∧ fitsWord b = true)
    (alone : ∀ row, ¬Shares db row a b) (large : fitsWord id = false) :
    (Command.run Catalog.declared now (.findOrCreateDirect a b id) db).1 = .error .tooLarge := by
  have looked : between a b db = .ok none := by
    rcases between_cases db fits.1 fits.2 with ⟨looked, -⟩ | ⟨row, oldest, -⟩
    · exact looked
    · exact absurd oldest.shares (alone row)
  have created : create Catalog.declared (opening a b id now) db = .error .tooLarge := by
    refine create_overlong (.row (named_opening fits id now) ?_)
    change [id, DirectKind.pair.code].all fitsWord = false
    simp [large]
  rw [findOrCreate_run apart, Finder.finish_refused looked created]
  rfl

end Directs

theorem search_documented_iff (sound : db.Sound Catalog.declared) (first second candidate : Int) :
    Documented (Command.run Catalog.declared now
        (.findOrCreateDirect first second candidate) db).1 ↔
      ¬Command.Escapes now db (.findOrCreateDirect first second candidate) := by
  by_cases apart : first = second
  · have refused : (Command.run Catalog.declared now
        (.findOrCreateDirect first second candidate) db).1 = .error .sameUser := by
      simp only [Command.run, Directs.Finder.start, if_pos apart]
    rw [refused]
    refine iff_of_true (documented_error.mpr rfl) fun escapes => ?_
    cases escapes with
    | pair other => exact other apart
    | candidate other => exact other apart
  · constructor
    · intro told escapes
      cases escapes with
      | pair _ large =>
          rw [Directs.findOrCreate_large apart large] at told
          cases documented_error.mp told
      | candidate _ alone large =>
          by_cases fits : fitsWord first = true ∧ fitsWord second = true
          · rw [Directs.findOrCreate_candidate apart fits alone large] at told
            cases documented_error.mp told
          · rw [Directs.findOrCreate_large apart fits] at told
            cases documented_error.mp told
    · intro within
      have ending := Directs.findOrCreate_ending candidate now sound apart
      generalize (Command.run Catalog.declared now
        (.findOrCreateDirect first second candidate) db).1 = outcome at ending
      cases ending with
      | large large => exact absurd (.pair apart large) within
      | found oldest => exact documented_ok _
      | opened alone => exact documented_ok _
      | obstructed alone obstacle =>
          refine documented_error.mpr ?_
          -- Only a large integer is no documented obstacle, and it is one of the two ways out.
          cases obstacle with
          | large large =>
              by_cases fits : fitsWord first = true ∧ fitsWord second = true
              · have long : fitsWord candidate = false := by simpa [fits] using large
                exact absurd (.candidate apart alone long) within
              · exact absurd (.pair apart fits) within
          | idTaken conflict => exact conflict_documented conflict
          | nameTaken conflict => exact conflict_documented conflict
          | unknown => rfl

theorem documented_iff (sound : db.Sound Catalog.declared) (readable : db.Each Table.Readable)
    (command : Command) :
    Documented (command.run Catalog.declared now db).1 ↔ ¬command.Escapes now db := by
  cases command with
  | question asked => exact question_documented_iff sound readable asked
  | findOrCreateDirect first second candidate =>
      exact search_documented_iff sound first second candidate
  | write change =>
      refine (write_documented_iff change).trans (not_congr ⟨?_, fun escapes => ?_⟩)
      · rintro (oversteps | unnameable)
        · exact .write oversteps
        · exact .name unnameable
      · cases escapes with
        | write oversteps => exact Or.inl oversteps
        | name unnameable => exact Or.inr unnameable

end Outcomes

/-- After every run of calls that hand over known kinds of direct channels, a call is answered or
fails in a way of which callers are told, exactly unless it escapes. What a
question does not find is answered by none or by nothing where the storage takes its arguments. -/
theorem documented_unless_escaping (past : Run) (typed : past.Typed) :
    (∀ (now : DateTime) (command : Command),
      Documented (command.run Catalog.declared now (past.after .empty)).1 ↔
        ¬command.Escapes now (past.after .empty)) ∧
    (∀ asked : Question, asked.Absent (past.after .empty) → asked.Taken →
      asked.query (past.after .empty) = .ok asked.nothing) := by
  have sound := reachable_sound (reachable_after past)
  have readable := readable_after typed
  exact ⟨fun _ => documented_iff sound readable, fun _ => Question.query_nothing sound⟩

def overused : Run :=
  [Write.event noon (.createUser ⟨1, "ada", "Ada", none, "", noon⟩),
    Write.event noon (.createGuild ⟨10, "guild", none, 1, noon⟩),
    Write.event noon (.createInvite ⟨"abc", 10, none, 1, 0, wordBound - 1, none, noon⟩),
    Write.event noon (.incrementInviteUses "abc")]

theorem overused_escapes :
    ¬Documented (Command.run Catalog.declared noon (.question (.invite "abc"))
      (Run.after overused .empty)).1 ∧
    (Question.user 7).query (Run.after overused .empty) = .ok (.entity none) := by
  have typed : Run.Typed overused := by
    simp [Run.Typed, overused, Event.Typed, Write.event, Event.write?, Write.Typed]
  obtain ⟨told, missing⟩ := documented_unless_escaping overused typed
  have worn : (Question.invite "abc").MeetsWorn (Run.after overused .empty) := by
    change ∃ row ∈ (Run.after overused .empty).invites, row.code = "abc" ∧ row.uses = wordBound
    decide +kernel
  have absent : (Question.user 7).Absent (Run.after overused .empty) := by
    change ∀ row ∈ (Run.after overused .empty).users, row.id ≠ 7
    decide +kernel
  refine ⟨fun documented => ?_, missing (.user 7) absent ⟨rfl, rfl, ?_⟩⟩
  · exact (told noon _).mp documented (.counter rfl rfl worn)
  · rintro request limit ⟨⟩

/-- Nobody is stored, and to look for the first identifier beyond the words is no documented
failure. -/
theorem missing_user_escapes :
    (∀ row ∈ (Run.after [] .empty).users, row.id ≠ wordBound) ∧
    (Command.run Catalog.declared noon (.question (.user wordBound)) (Run.after [] .empty)).1 =
      .error .tooLarge ∧
    ¬Documented (Command.run Catalog.declared noon (.question (.user wordBound))
      (Run.after [] .empty)).1 := by
  have failed : (Command.run Catalog.declared noon (.question (.user wordBound))
      (Run.after [] .empty)).1 = .error .tooLarge := by decide +kernel
  refine ⟨List.forall_mem_nil _, failed, fun documented => ?_⟩
  cases documented _ failed

end Guildhall
