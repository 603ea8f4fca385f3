import Guildhall.Form.Problem

/-!
The outcome of reading a form: the value, or every problem found, in the order of the fields.
-/

namespace Guildhall.Form

inductive Checked (α : Type) where
  | valid (value : α)
  | invalid (problems : List Problem)
  deriving DecidableEq, Repr

namespace Checked

variable {α β : Type}

def map (f : α → β) : Checked α → Checked β
  | .valid value => .valid (f value)
  | .invalid problems => .invalid problems

/-- Problems of both sides are kept. -/
def seq (f : Checked (α → β)) (x : Checked α) : Checked β :=
  match f, x with
  | .valid f, .valid x => .valid (f x)
  | .valid _, .invalid problems => .invalid problems
  | .invalid problems, .valid _ => .invalid problems
  | .invalid first, .invalid second => .invalid (first ++ second)

instance : Applicative Checked where
  pure := .valid
  map := map
  seq f x := seq f (x ())

def fault (fault : Fault) : Checked α := .invalid [⟨[], fault⟩]

def under (step : Step) : Checked α → Checked α
  | .valid value => .valid value
  | .invalid problems => .invalid (problems.map (Problem.under step))

end Checked

end Guildhall.Form
