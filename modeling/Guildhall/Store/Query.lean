import Guildhall.Store.Rule

/-!
Questions to the tables, and the orders of their answers.
-/

namespace Guildhall

abbrev Query (α : Type) := Database → Except Failure α

def ask {α : Type} (integers : List Int) (answer : Database → α) : Query α := fun db =>
  demand [fitting integers] (answer db)

def askRead {α : Type} (integers : List Int) (answer : Database → Except Failure α) : Query α :=
  fun db => (ask integers answer db).bind id

def limited {α : Type} (limit : Int) (query : Query α) : Query α := fun db =>
  if limit < 1 then .error (.showing limit (.limitNotPositive limit)) else query db

/-- What answers the questions: where it binds the values of a statement, it takes so many of them
in one statement. Without a bound it writes them into the statement. -/
structure Engine where
  bound : Option Nat
  deriving DecidableEq, Repr

namespace Engine

def sqlite : Engine := ⟨some 32766⟩

/-- A statement can have a value for each of the rows, and `others` besides. Without rows there is
no statement. -/
def reaches (engine : Engine) (others rows : Nat) : Bool :=
  rows = 0 || engine.bound.all (others + rows ≤ ·)

def tooManyValues : Failure := .store (.unavailable "too many SQL variables")

/-- Stands before what is read about all rows at once. Any engine takes the few values of every
other statement. -/
def allow (engine : Engine) (others rows : Nat) : Except Failure Unit :=
  if engine.reaches others rows then .ok () else .error tooManyValues

end Engine

def downward {α : Type} (order : α → α → Ordering) : α → α → Ordering := fun a b => order b a

/-- The rows in the given order; rows that it does not tell apart stay as they are. -/
def sortBy {α : Type} (order : α → α → Ordering) (rows : List α) : List α :=
  rows.mergeSort fun a b => (order a b).isLE

def grouped {α : Type} (pairs : List (Int × α)) : Int → List α :=
  pairs.foldl (fun lists pair key => if key = pair.1 then lists key ++ [pair.2] else lists key)
    fun _ => []

end Guildhall
