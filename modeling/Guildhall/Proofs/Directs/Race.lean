import Guildhall.Proofs.Directs.Search
import Mathlib.Logic.Function.Basic

/-!
Callers who look for the channels of their pairs at the same time. The transactions of their
searches, and the creation of other channels, come in any order. While every channel between two
users has the name of its recipients, callers for one pair agree on its channel, and a search fails
for one of four reasons only.
-/

namespace Guildhall.Directs

open Calendar

structure Request where
  first : Int
  second : Int
  candidate : Int

def Request.SamePair (one other : Request) : Prop :=
  (one.first = other.first ∧ one.second = other.second) ∨
    (one.first = other.second ∧ one.second = other.first)

/-- What may happen next: a transaction of a search, or the creation of a channel. -/
inductive Move (Caller : Type) where
  | search (caller : Caller) (now : DateTime)
  | create (draft : Draft)

/-- The tables, and how far each caller is; those who look for themselves are refused at once. -/
structure World (Caller : Type) where
  db : Database
  searches : Caller → Except Failure Finder

namespace World

variable {Caller : Type}

def start (db : Database) (requests : Caller → Request) : World Caller where
  db := db
  searches caller :=
    Finder.start (requests caller).first (requests caller).second (requests caller).candidate

def outcome? (world : World Caller) (caller : Caller) :
    Option (Except Failure DirectChannel) :=
  match world.searches caller with
  | .error failure => some (.error failure)
  | .ok finder => finder.outcome?

variable [DecidableEq Caller]

def move (world : World Caller) : Move Caller → World Caller
  | .search caller now =>
    match world.searches caller with
    | .error _ => world
    | .ok finder =>
      let (next, left) := finder.step Catalog.declared now world.db
      ⟨left, Function.update world.searches caller (.ok next)⟩
  | .create draft => { world with db := (transact (create Catalog.declared draft) world.db).2 }

def after (world : World Caller) (schedule : List (Move Caller)) : World Caller :=
  schedule.foldl move world

end World

section Moves

variable {Caller : Type} [DecidableEq Caller] {world : World Caller} {caller : Caller}

theorem move_refused {failure : Failure} (search : world.searches caller = .error failure)
    (now : DateTime) : world.move (.search caller now) = world := by
  simp only [World.move, search]

theorem move_search {finder next : Finder} {left : Database} {now : DateTime}
    (search : world.searches caller = .ok finder)
    (stepped : finder.step Catalog.declared now world.db = (next, left)) :
    world.move (.search caller now) = ⟨left, Function.update world.searches caller (.ok next)⟩ := by
  simp only [World.move, search, stepped]

end Moves

inductive Tracks (db : Database) (request : Request) : Except Failure Finder → Prop where
  | refused (same : request.first = request.second) : Tracks db request (.error .sameUser)
  | searching {phase : Phase} (apart : request.first ≠ request.second)
      (progress : Progress db request.first request.second request.candidate phase) :
      Tracks db request (.ok ⟨request.first, request.second, request.candidate, phase⟩)

/-- What holds of the tables and of all callers, whatever their transactions did so far. -/
structure Fair {Caller : Type} (requests : Caller → Request) (world : World Caller) : Prop where
  reachable : Reachable world.db
  paired : Paired world.db
  tracks : ∀ caller, Tracks world.db (requests caller) (world.searches caller)

section Schedules

variable {Caller : Type} {requests : Caller → Request} {world : World Caller}

theorem fair_start {db : Database} (reachable : Reachable db) (paired : Paired db)
    (requests : Caller → Request) : Fair requests (World.start db requests) := by
  refine ⟨reachable, paired, fun caller => ?_⟩
  simp only [World.start, Finder.start]
  split
  · rename_i same
    exact .refused same
  · rename_i apart
    exact .searching apart .lookup

theorem tracks_extended {db left : Database} {request : Request} {search : Except Failure Finder}
    (extended : Extended db left) (tracks : Tracks db request search) :
    Tracks left request search := by
  cases tracks with
  | refused same => exact .refused same
  | searching apart progress => exact .searching apart (progress_extended extended progress)

theorem shares_of_answer {caller : Caller} {channel : DirectChannel} (fair : Fair requests world)
    (answered : world.outcome? caller = some (.ok channel)) :
    (requests caller).first ≠ (requests caller).second ∧
      ∃ row, row.id = channel.id ∧
        Shares world.db row (requests caller).first (requests caller).second := by
  have tracks := fair.tracks caller
  unfold World.outcome? at answered
  generalize world.searches caller = search at answered tracks
  cases tracks with
  | refused => simp at answered
  | searching apart progress =>
      cases progress with
      | found shares same =>
          cases answered
          exact ⟨apart, _, same, shares⟩
      | _ => simp [Finder.outcome?] at answered

theorem excuse_of_failure {caller : Caller} {failure : Failure} (fair : Fair requests world)
    (failed : world.outcome? caller = some (.error failure)) :
    Excuse world.db (requests caller).first (requests caller).second (requests caller).candidate
      failure := by
  have tracks := fair.tracks caller
  unfold World.outcome? at failed
  generalize world.searches caller = search at failed tracks
  cases tracks with
  | refused same =>
      cases failed
      exact .sameUser same
  | searching apart progress =>
      cases progress with
      | failed excuse =>
          cases failed
          exact excuse
      | _ => simp [Finder.outcome?] at failed

variable [DecidableEq Caller]

theorem fair_move (fair : Fair requests world) (move : Move Caller) :
    Fair requests (world.move move) := by
  have sound := reachable_sound fair.reachable
  cases move with
  | create draft =>
      have opens : Opens world.db (transact (create Catalog.declared draft) world.db).2 := by
        cases done : create Catalog.declared draft world.db with
        | error failure => exact Or.inl (by simp only [transact, done])
        | ok left => exact Or.inr ⟨draft, by simp only [transact, done]⟩
      refine ⟨reachable_opens fair.reachable opens, paired_opens sound opens fair.paired, ?_⟩
      exact fun caller => tracks_extended (extended_opens opens) (fair.tracks caller)
  | search caller now =>
      cases search : world.searches caller with
      | error failure => rwa [move_refused search]
      | ok finder =>
          have tracks := fair.tracks caller
          rw [search] at tracks
          cases tracks with
          | @searching phase apart progress =>
              obtain ⟨next, left, stepped, opens, further⟩ :=
                search_step fair.reachable fair.paired apart progress now
              rw [move_search search stepped]
              refine ⟨reachable_opens fair.reachable opens,
                paired_opens sound opens fair.paired, fun other => ?_⟩
              dsimp only
              -- The caller who moves has taken the step; what the others have reached holds in the
              -- larger state as well.
              by_cases same : other = caller
              · subst same
                rw [Function.update_self]
                exact .searching apart further
              · rw [Function.update_of_ne same]
                exact tracks_extended (extended_opens opens) (fair.tracks other)

theorem fair_after (fair : Fair requests world) (schedule : List (Move Caller)) :
    Fair requests (world.after schedule) :=
  List.foldlRecOn schedule World.move fair fun _ fair move _ => fair_move fair move

end Schedules

def Phase.remaining : Phase → Nat
  | .lookup => 3
  | .create => 2
  | .lost _ | .readBack => 1
  | .done _ => 0

def remaining : Except Failure Finder → Nat
  | .error _ => 0
  | .ok finder => finder.phase.remaining

def Move.isTurn {Caller : Type} [DecidableEq Caller] (caller : Caller) : Move Caller → Bool
  | .search other _ => other = caller
  | .create _ => false

section Turns

theorem remaining_afterLookup (outcome : Except Failure (Option DirectChannel)) (absent : Phase) :
    (Finder.afterLookup outcome absent).remaining ≤ absent.remaining := by
  unfold Finder.afterLookup
  split
  · exact Nat.zero_le _
  · exact Nat.zero_le _
  · exact Nat.le_refl _

theorem remaining_step (finder : Finder) (now : DateTime) (db : Database) :
    (finder.step Catalog.declared now db).1.phase.remaining ≤ finder.phase.remaining - 1 := by
  obtain ⟨a, b, id, phase⟩ := finder
  cases phase with
  | lookup =>
      rw [Finder.step_lookup]
      exact remaining_afterLookup _ _
  | create =>
      cases done : create Catalog.declared (opening a b id now) db with
      | error failure =>
          rw [Finder.step_create_error done]
          cases conflict : failure.isConflict <;> simp [Phase.remaining]
      | ok left =>
          rw [Finder.step_create_ok done]
          exact Nat.le_refl _
  | lost conflict =>
      rw [Finder.step_lost]
      exact remaining_afterLookup _ _
  | readBack =>
      rw [Finder.step_readBack]
      exact remaining_afterLookup _ _
  | done outcome => exact Nat.zero_le _

variable {Caller : Type}

theorem ended_of_turns {world : World Caller} {caller : Caller}
    (ended : remaining (world.searches caller) = 0) : (world.outcome? caller).isSome = true := by
  unfold World.outcome?
  cases search : world.searches caller with
  | error failure => rfl
  | ok finder =>
      obtain ⟨a, b, id, phase⟩ := finder
      rw [search] at ended
      cases phase with
      | done outcome => rfl
      | _ => cases ended

theorem remaining_start (db : Database) (requests : Caller → Request) (caller : Caller) :
    remaining ((World.start db requests).searches caller) ≤ 3 := by
  simp only [World.start, Finder.start]
  split
  · exact Nat.zero_le _
  · exact Nat.le_refl _

variable [DecidableEq Caller]

theorem remaining_move (world : World Caller) (caller : Caller) (move : Move Caller) :
    remaining ((world.move move).searches caller) ≤
      remaining (world.searches caller) - if move.isTurn caller then 1 else 0 := by
  cases move with
  | create draft => exact Nat.le_refl _
  | search other now =>
      simp only [Move.isTurn, decide_eq_true_eq]
      cases search : world.searches other with
      | error failure =>
          rw [move_refused search]
          by_cases same : other = caller
          · subst same
            rw [search]
            exact Nat.zero_le _
          · rw [if_neg same]
            exact Nat.le_refl _
      | ok finder =>
          cases stepped : finder.step Catalog.declared now world.db with
          | mk next left =>
              rw [move_search search stepped]
              dsimp only
              by_cases same : other = caller
              · subst same
                have fewer := remaining_step finder now world.db
                rw [stepped] at fewer
                rw [Function.update_self, search, if_pos rfl]
                exact fewer
              · rw [Function.update_of_ne (Ne.symm same), if_neg same]
                exact Nat.le_refl _

theorem remaining_after (world : World Caller) (caller : Caller) (schedule : List (Move Caller)) :
    remaining ((world.after schedule).searches caller) ≤
      remaining (world.searches caller) - schedule.countP (Move.isTurn caller) := by
  induction schedule generalizing world with
  | nil => exact Nat.le_refl _
  | cons move rest ih =>
      have later := ih (world.move move)
      have now := remaining_move world caller move
      rw [List.countP_cons]
      change remaining (((world.move move).after rest).searches caller) ≤ _
      omega

end Turns

/-- However the transactions of the callers come: two users share one channel at most, callers for
the same two users are answered the same channel, which both are in, a call fails for one of four
reasons, and after three transactions it has ended. -/
theorem callers_agree {Caller : Type} [DecidableEq Caller] (past : Run)
    (paired : Paired (past.after .empty)) (requests : Caller → Request)
    (schedule : List (Move Caller)) :
    let world := (World.start (past.after .empty) requests).after schedule
    (Paired world.db ∧ LonePairs world.db) ∧
    (∀ one other first second, (requests one).SamePair (requests other) →
      world.outcome? one = some (.ok first) → world.outcome? other = some (.ok second) →
        first.id = second.id) ∧
    (∀ caller channel, world.outcome? caller = some (.ok channel) → ∃ row, row.id = channel.id ∧
      Shares world.db row (requests caller).first (requests caller).second) ∧
    (∀ caller failure, world.outcome? caller = some (.error failure) →
      Excuse world.db (requests caller).first (requests caller).second (requests caller).candidate
        failure ∧ failure ≠ Finder.vanished (requests caller).candidate) ∧
    ∀ caller, 3 ≤ schedule.countP (Move.isTurn caller) →
      (world.outcome? caller).isSome = true := by
  intro world
  have fair : Fair requests world :=
    fair_after (fair_start (reachable_after past) paired requests) schedule
  have lone : LonePairs world.db := lone_of_paired (reachable_sound fair.reachable) fair.paired
  refine ⟨⟨fair.paired, lone⟩, ?_, ?_, ?_, ?_⟩
  · intro one other first second samePair answeredOne answeredOther
    obtain ⟨apart, row, idRow, shares⟩ := shares_of_answer fair answeredOne
    obtain ⟨-, channel, idChannel, sharesOther⟩ := shares_of_answer fair answeredOther
    have both : Shares world.db channel (requests one).first (requests one).second := by
      rcases samePair with ⟨sameFirst, sameSecond⟩ | ⟨sameFirst, sameSecond⟩
      · rw [sameFirst, sameSecond]
        exact sharesOther
      · rw [sameFirst, sameSecond]
        exact shares_comm sharesOther
    have same : row = channel := lone _ _ apart row channel shares both
    rw [← idRow, ← idChannel, same]
  · intro caller channel answered
    exact (shares_of_answer fair answered).2
  · intro caller failure failed
    have excuse := excuse_of_failure fair failed
    refine ⟨excuse, ?_⟩
    rintro rfl
    cases excuse with
    | taken conflict => cases conflict
  · intro caller turns
    refine ended_of_turns ?_
    have left := remaining_after (World.start (past.after .empty) requests) caller schedule
    have start := remaining_start (past.after .empty) requests caller
    change remaining (world.searches caller) ≤ _ at left
    omega

def acquainted : Run := [
  .createUser ⟨1, "ada", "Ada", none, "", noon⟩,
  .createUser ⟨2, "bob", "Bob", none, "", noon⟩].map (Write.event noon)

theorem acquainted_agree :
    let requests : Bool → Request := fun late => if late then ⟨2, 1, 501⟩ else ⟨1, 2, 500⟩
    let schedule := [false, true, false, true, true, false].map fun caller =>
      Move.search caller noon
    let world := (World.start (acquainted.after .empty) requests).after schedule
    Paired (acquainted.after .empty) ∧ ∃ first second,
      world.outcome? false = some (.ok first) ∧ world.outcome? true = some (.ok second) ∧
      first.id = second.id := by
  intro requests schedule world
  have channels : (acquainted.after .empty).directChannels = [] := by decide +kernel
  have paired : Paired (acquainted.after .empty) := by simp [Paired, channels]
  have answered : ∀ caller, (world.outcome? caller).map (Except.map DirectChannel.id) =
      some (.ok 500) := by decide +kernel
  have channel : ∀ caller, ∃ found, world.outcome? caller = some (.ok found) := by
    intro caller
    have here := answered caller
    cases outcome : world.outcome? caller with
    | none => simp [outcome] at here
    | some result =>
        cases result with
        | error failure => simp [outcome, Except.map] at here
        | ok found => exact ⟨found, rfl⟩
  obtain ⟨first, answeredFirst⟩ := channel false
  obtain ⟨second, answeredSecond⟩ := channel true
  obtain ⟨-, agree, -⟩ := callers_agree acquainted paired requests schedule
  exact ⟨paired, first, second, answeredFirst, answeredSecond,
    agree false true first second (Or.inr ⟨rfl, rfl⟩) answeredFirst answeredSecond⟩

end Guildhall.Directs
