import Guildhall.Store.Directs

/-!
Finding the channel between two users, or creating it. The work is done in separate transactions,
between which other callers may act: a lookup, the creation, and then either a second lookup, where
another caller was faster, or the reading of the new channel.
-/

namespace Guildhall

open Calendar

namespace Directs

inductive Phase where
  | lookup
  | create
  /-- The creation met the given conflict. -/
  | lost (conflict : Failure)
  | readBack
  | done (outcome : Except Failure DirectChannel)
  deriving Repr

/-- A search for the channel between two users, with the identifier that a new one would get. -/
structure Finder where
  first : Int
  second : Int
  candidate : Int
  phase : Phase
  deriving Repr

namespace Finder

def start (first second candidate : Int) : Except Failure Finder :=
  if first = second then .error .sameUser else .ok ⟨first, second, candidate, .lookup⟩

def draft (finder : Finder) (now : DateTime) : Draft :=
  ⟨finder.candidate, [finder.first, finder.second], DirectKind.pair.code, none, now⟩

def vanished (id : Int) : Failure :=
  .store (.other s!"DM channel {id} vanished after creation")

def afterLookup (outcome : Except Failure (Option DirectChannel)) (absent : Phase) : Phase :=
  match outcome with
  | .error failure => .done (.error failure)
  | .ok (some channel) => .done (.ok channel)
  | .ok none => absent

def step (catalog : Catalog) (now : DateTime) (finder : Finder) (db : Database) :
    Finder × Database :=
  match finder.phase with
  | .lookup =>
    ({ finder with phase := afterLookup (between finder.first finder.second db) .create }, db)
  | .create =>
    match transact (Directs.create catalog (finder.draft now)) db with
    | (.ok (), outcome) => ({ finder with phase := .readBack }, outcome)
    | (.error failure, same) =>
      let phase := if failure.isConflict then .lost failure else .done (.error failure)
      ({ finder with phase := phase }, same)
  | .lost conflict =>
    let absent := .done (.error conflict)
    ({ finder with phase := afterLookup (between finder.first finder.second db) absent }, db)
  | .readBack =>
    let absent := .done (.error (vanished finder.candidate))
    ({ finder with phase := afterLookup (find finder.candidate db) absent }, db)
  | .done _ => (finder, db)

def outcome? (finder : Finder) : Option (Except Failure DirectChannel) :=
  match finder.phase with
  | .done outcome => some outcome
  | _ => none

/-- Three transactions end every search. -/
def finish (catalog : Catalog) (now : DateTime) (finder : Finder) (db : Database) :
    Finder × Database :=
  let (finder, db) := finder.step catalog now db
  let (finder, db) := finder.step catalog now db
  finder.step catalog now db

end Finder

end Directs

end Guildhall
