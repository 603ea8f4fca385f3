import Guildhall.Snowflake.Basic

/-!
Issuing identifiers against a clock that may stand still or step back. The clock is the list of
the readings it is going to give, in milliseconds since the epoch.
-/

namespace Guildhall.Snowflake

structure Generator where
  node : Node
  sequence : Nat
  last : Int
  deriving DecidableEq, Repr

/-- Before the first identifier the last tick counts as `-1`. -/
def Generator.fresh (node : Node) : Generator := ⟨node, 0, -1⟩

def Generator.id (g : Generator) : Int := pack g.last g.node g.sequence

def waitPast (last : Int) : List Int → Option (Int × List Int)
  | [] => none
  | now :: rest => if last < now then some (now, rest) else waitPast last rest

/-- The generator after its next identifier, with the readings left over; none when the clock has
no reading left. A clock behind the last tick counts as that tick, and a tick whose sequence is
used up is waited out. -/
def Generator.advance (g : Generator) : List Int → Option (Generator × List Int)
  | [] => none
  | reading :: rest =>
    if g.last < reading then some ({ g with last := reading, sequence := 0 }, rest)
    else if g.sequence + 1 < sequenceCount then
      some ({ g with sequence := g.sequence + 1 }, rest)
    else
      (waitPast g.last rest).map (fun (now, rest) => ({ g with last := now, sequence := 0 }, rest))

def Generator.issue : (count : Nat) → Generator → List Int → List Int
  | 0, _, _ => []
  | count + 1, g, readings =>
    match g.advance readings with
    | none => []
    | some (next, rest) => next.id :: issue count next rest

end Guildhall.Snowflake
