import Guildhall.Decimal.Binary64

/-!
JSON values. Whole numbers and numbers with a fraction or an exponent are told apart.
-/

namespace Guildhall

inductive Json where
  | null
  | flag (value : Bool)
  | whole (value : Int)
  | real (value : Binary64)
  | text (value : String)
  | list (items : List Json)
  | object (fields : List (String × Json))
  deriving Repr

namespace Json

def ofInt (n : Int) : Json := .whole n

/-- Identifiers are written as decimal text, so that no reader cuts them to a double. -/
def ofId (id : Int) : Json := .text (toString id)

def ofOption {α : Type} (write : α → Json) : Option α → Json
  | none => .null
  | some value => write value

def field? (fields : List (String × Json)) (name : String) : Option Json :=
  (fields.reverse.find? (fun field => field.1 = name)).map (·.2)

def get? : Json → String → Option Json
  | .object fields, name => field? fields name
  | _, _ => none

end Json

end Guildhall
