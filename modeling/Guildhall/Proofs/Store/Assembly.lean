import Guildhall.Proofs.Store.Consistency
import Guildhall.Proofs.Store.Entry

/-!
Several rows that belong together and are stored one after another, each by a call of its own. If
they go into empty tables, they go into any, up to the first that is blocked there; the ones before
it stay.
-/

namespace Guildhall

open Calendar

inductive Piece where
  | creation (it : Creation)
  | grant (hold : MemberRoleRow)

namespace Piece

def write : Piece → Write
  | creation it => it.write
  | grant hold => .addMemberRole hold.guildId hold.userId hold.roleId

@[reducible] def table : Piece → Table
  | creation it => it.table
  | grant _ => .memberRoles

def row : (piece : Piece) → piece.table.Row
  | creation it => it.row
  | grant hold => hold

def enter (db : Database) (piece : Piece) : Database := db.with piece.table piece.row

def Fits (piece : Piece) : Prop := (piece.table.cells piece.row).integers.all fitsWord = true

/-- An integer of the row does not fit, or the row that is to be created has a stored key. -/
def Blocked (db : Database) : Piece → Prop
  | creation it => ¬(creation it).Fits ∨ it.Clashes db
  | grant hold => ¬(grant hold).Fits

inductive Stops (piece : Piece) : Failure → Prop
  | overlong (large : ¬piece.Fits) : Stops piece .tooLarge
  | taken {columns : String} (fits : piece.Fits) : Stops piece (.store (.duplicate columns))

/-- Beside the pieces before it alone the piece has a key of its own and finds what it refers to. A
role goes to someone who has joined just before. -/
structure Follows (before : List Piece) (piece : Piece) : Prop where
  free : ¬Taken Catalog.declared piece.table piece.row (before.foldl enter .empty)
  answered : ¬Dangling Catalog.declared piece.table piece.row
    (enter (before.foldl enter .empty) piece)
  joined : ∀ hold, piece = .grant hold → ∃ member, creation (.member member) ∈ before ∧
    member.guildId = hold.guildId ∧ member.userId = hold.userId

def Ordered (before : List Piece) : List Piece → Prop
  | [] => True
  | piece :: rest => Follows before piece ∧ Ordered (before ++ [piece]) rest

theorem ordered_append {before first second : List Piece}
    (ordered : Ordered before (first ++ second)) : Ordered before first := by
  induction first generalizing before with
  | nil => trivial
  | cons piece rest ih => exact ⟨ordered.1, ih ordered.2⟩

section Rows

variable {table : Table} {row : table.Row}

theorem rows_enter (db : Database) (piece : Piece) (table : Table) :
    (enter db piece).rows table = db.rows table ++ (enter .empty piece).rows table := by
  have nothing : ∀ table : Table, Database.empty.rows table = [] := fun table => by
    cases table <;> rfl
  by_cases own : table = piece.table
  · subst own
    simp only [enter, Database.with, Database.rows_put_self, nothing, List.nil_append]
  · simp only [enter, Database.with, Database.rows_put_of_ne _ own, nothing, List.append_nil]

theorem rows_entered (pieces : List Piece) (db : Database) (table : Table) :
    (pieces.foldl enter db).rows table =
      db.rows table ++ (pieces.foldl enter .empty).rows table := by
  induction pieces generalizing db with
  | nil => cases table <;> exact (List.append_nil _).symm
  | cons piece rest ih =>
      rw [List.foldl_cons, List.foldl_cons, ih (enter db piece), ih (enter .empty piece),
        rows_enter db, List.append_assoc]

theorem taken_entered (pieces : List Piece) (db : Database) :
    Taken Catalog.declared table row (pieces.foldl enter db) ↔
      Taken Catalog.declared table row db ∨
        Taken Catalog.declared table row (pieces.foldl enter .empty) := by
  simp only [Taken, rows_entered pieces db, List.mem_append, or_and_right, exists_or, and_or_left]

/-- What is found among the pieces alone is found among them beside other rows. -/
theorem dangling_entered {pieces : List Piece} {db : Database}
    (dangling : Dangling Catalog.declared table row (pieces.foldl enter db)) :
    Dangling Catalog.declared table row (pieces.foldl enter .empty) := by
  obtain ⟨reference, declared, unanswered⟩ := dangling
  refine ⟨reference, declared, mt (fun answered => ?_) unanswered⟩
  refine answered_of_keys answered fun other stored => ⟨other, ?_, rfl⟩
  rw [rows_entered pieces db]
  exact List.mem_append_right _ stored

end Rows

section Steps

variable {before : List Piece} {piece : Piece} {db : Database}

theorem statement_enters (now : DateTime) (fits : piece.Fits)
    (free : ¬Taken Catalog.declared piece.table piece.row db)
    (answered : ¬Dangling Catalog.declared piece.table piece.row (enter db piece)) :
    piece.write.statement Catalog.declared now db = .ok (enter db piece) := by
  have inserted : insertRow Catalog.declared piece.table piece.row db = .ok (enter db piece) := by
    have ends : Insertion Catalog.declared piece.table piece.row db
        (insertRow Catalog.declared piece.table piece.row db) := insertRow_ends fits
    generalize insertRow Catalog.declared piece.table piece.row db = outcome at ends
    cases ends with
    | conflict taken => exact absurd taken free
    | noTarget _ dangling => exact absurd dangling answered
    | added _ _ => rfl
  cases piece with
  | creation it => exact (congrFun (it.statement_creation now) db).trans inserted
  | grant hold =>
      have fresh : holdsKeyOf Catalog.declared .memberRoles hold db = false := by
        refine Bool.of_not_eq_true fun held => free ?_
        obtain ⟨other, stored, same⟩ := holdsKeyOf_iff.mp held
        exact ⟨_, List.mem_cons_self, other, stored, sameKey_identity.mpr same⟩
      change ensureRow Catalog.declared .memberRoles hold db = .ok (enter db (.grant hold))
      rw [ensureRow, fresh]
      exact inserted

theorem not_taken_grant {hold : MemberRoleRow} {member : Member}
    (sound : db.Sound Catalog.declared) (sameGuild : member.guildId = hold.guildId)
    (sameUser : member.userId = hold.userId) (new : ¬(Creation.member member).Clashes db) :
    ¬Taken Catalog.declared .memberRoles hold db := by
  rintro ⟨columns, key, other, stored, shared⟩
  obtain rfl := List.mem_singleton.mp key
  have same : hold = other := by
    obtain ⟨_, _, _⟩ := hold
    obtain ⟨_, _, _⟩ := other
    simpa [Table.identity] using sameKey_identity.mp shared
  obtain ⟨owner, present, named⟩ := (consistent_of_sound sound).memberRoleMember other stored
  obtain ⟨guild, user⟩ := Prod.mk.inj named
  subst same
  exact new ⟨owner, present, guild.trans sameGuild.symm, user.trans sameUser.symm⟩

/-- A piece that is not blocked goes in behind those before it. -/
theorem statement_free (now : DateTime) (sound : db.Sound Catalog.declared)
    (follows : Follows before piece) (entered : ∀ other ∈ before, ¬other.Blocked db)
    (free : ¬piece.Blocked db) :
    piece.write.statement Catalog.declared now (before.foldl enter db) =
      .ok ((before ++ [piece]).foldl enter db) := by
  have fits : piece.Fits := by
    cases piece with
    | creation it => exact not_not.mp fun overlong => free (Or.inl overlong)
    | grant hold => exact not_not.mp free
  have outside : ¬Taken Catalog.declared piece.table piece.row db := by
    cases piece with
    | creation it => exact fun taken => free (Or.inr ((it.taken_creation db).mp taken))
    | grant hold =>
        obtain ⟨member, joined, guild, user⟩ := follows.joined hold rfl
        exact not_taken_grant sound guild user fun clash => entered _ joined (Or.inr clash)
  have last : ∀ db, (before ++ [piece]).foldl enter db = enter (before.foldl enter db) piece :=
    fun db => List.foldl_concat enter db piece before
  rw [last]
  refine statement_enters now fits ?_ fun dangling => follows.answered ?_
  · rw [taken_entered]
    exact not_or.mpr ⟨outside, follows.free⟩
  · rw [← last] at dangling ⊢
    exact dangling_entered dangling

theorem blocked_of_overlong (overlong : ¬piece.Fits) : piece.Blocked db := by
  cases piece with
  | creation it => exact Or.inl overlong
  | grant hold => exact overlong

theorem statement_overlong (now : DateTime) (overlong : ¬piece.Fits) :
    piece.write.statement Catalog.declared now db = .error .tooLarge := by
  cases piece with
  | creation it =>
      exact (congrFun (it.statement_creation now) db).trans
        ((guarded_insertRow it.row).large (Bool.of_not_eq_true overlong))
  | grant hold =>
      have guarded : Guarded (Table.cells .memberRoles hold).integers
          (ensureRow Catalog.declared .memberRoles hold db) := guarded_ensureRow _
      exact guarded.large (Bool.of_not_eq_true overlong)

/-- A piece that is blocked fails wherever other pieces have gone in. -/
theorem statement_blocked (now : DateTime) (blocked : piece.Blocked db) :
    ∃ failure, piece.write.statement Catalog.declared now (before.foldl enter db) =
      .error failure ∧ piece.Stops failure := by
  by_cases fits : piece.Fits
  · cases piece with
    | creation it =>
        have clash : it.Clashes db := blocked.resolve_left (not_not.mpr fits)
        have taken := (taken_entered before db).mpr (Or.inl ((it.taken_creation db).mpr clash))
        obtain ⟨columns, failed⟩ := insertRow_taken fits taken
        exact ⟨_, (congrFun (it.statement_creation now) _).trans failed, .taken fits⟩
    | grant hold => exact absurd fits blocked
  · exact ⟨_, statement_overlong now fits, .overlong fits⟩

theorem first_blocked {done other rest more : List Piece} {next : Piece}
    (same : done ++ piece :: rest = other ++ next :: more)
    (free : ∀ earlier ∈ done, ¬earlier.Blocked db) (also : ∀ earlier ∈ other, ¬earlier.Blocked db)
    (blocked : piece.Blocked db) (stuck : next.Blocked db) : done = other ∧ piece = next := by
  induction done generalizing other with
  | nil =>
      cases other with
      | nil => exact ⟨rfl, (List.cons.inj same).1⟩
      | cons head tail =>
          obtain rfl := (List.cons.inj same).1
          exact absurd blocked (also piece List.mem_cons_self)
  | cons first done ih =>
      cases other with
      | nil =>
          obtain rfl := (List.cons.inj same).1
          exact absurd stuck (free first List.mem_cons_self)
      | cons head tail =>
          obtain ⟨rfl, others⟩ := List.cons.inj same
          obtain ⟨rfl, rfl⟩ := ih others (List.forall_mem_cons.mp free).2
            (List.forall_mem_cons.mp also).2
          exact ⟨rfl, rfl⟩

end Steps

end Piece

def perform (now : DateTime) : List Write → Database → Except Failure Unit × Database
  | [], db => (.ok (), db)
  | write :: rest, db =>
    match write.statement Catalog.declared now db with
    | .ok left => perform now rest left
    | .error failure => (.error failure, db)

/-- How the storing of the pieces ends, and what it leaves: all of them, or those before the first
that is blocked. -/
inductive Assembled (pieces : List Piece) (db : Database) : Except Failure Unit → Database → Prop
  | complete (free : ∀ piece ∈ pieces, ¬piece.Blocked db) :
      Assembled pieces db (.ok ()) (pieces.foldl Piece.enter db)
  | stopped {done rest : List Piece} {piece : Piece} {failure : Failure}
      (split : pieces = done ++ piece :: rest) (free : ∀ other ∈ done, ¬other.Blocked db)
      (blocked : piece.Blocked db) (stops : piece.Stops failure) :
      Assembled pieces db (.error failure) (done.foldl Piece.enter db)

theorem perform_rest (now : DateTime) {db : Database} (sound : db.Sound Catalog.declared)
    (rest : List Piece) {done : List Piece} (ordered : Piece.Ordered done rest)
    (free : ∀ other ∈ done, ¬other.Blocked db) :
    Assembled (done ++ rest) db
      (perform now (rest.map Piece.write) (done.foldl Piece.enter db)).1
      (perform now (rest.map Piece.write) (done.foldl Piece.enter db)).2 := by
  -- The pieces that are done are those of the start, so that what blocks a piece is asked of the
  -- start alone.
  induction rest generalizing done with
  | nil =>
      rw [List.append_nil]
      exact .complete free
  | cons piece rest ih =>
      rw [List.map_cons, perform]
      by_cases blocked : piece.Blocked db
      · obtain ⟨failure, failed, stops⟩ := Piece.statement_blocked now blocked
        rw [failed]
        exact .stopped rfl free blocked stops
      · rw [Piece.statement_free now sound ordered.1 free blocked, List.append_cons]
        refine ih ordered.2 fun other member => ?_
        rcases List.mem_append.mp member with before | last
        · exact free other before
        · rwa [List.mem_singleton.mp last]

theorem perform_assembles (now : DateTime) {db : Database} (sound : db.Sound Catalog.declared)
    {pieces : List Piece} (ordered : Piece.Ordered [] pieces) :
    Assembled pieces db (perform now (pieces.map Piece.write) db).1
      (perform now (pieces.map Piece.write) db).2 :=
  perform_rest now sound pieces ordered (List.forall_mem_nil _)

end Guildhall
