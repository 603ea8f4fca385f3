/-!
The faults of a store, as its callers tell them apart. A missing row is never a fault.
-/

namespace Guildhall

inductive StoreError where
  /-- A key already exists. -/
  | conflict (detail : String) (constraint : Option String)
  /-- A referenced row is missing, or a required column is empty. -/
  | invalidReference (detail : String)
  /-- The storage cannot be reached or timed out. -/
  | unavailable (detail : String)
  | other (detail : String)
  deriving DecidableEq, Repr

namespace StoreError

def message : StoreError → String
  | .conflict detail _ => "duplicate key: " ++ detail
  | .invalidReference detail => "integrity violation: " ++ detail
  | .unavailable detail => detail
  | .other detail => detail

def duplicate (columns : String) : StoreError := .conflict columns (some columns)

def noTarget : StoreError := .invalidReference "FOREIGN KEY constraint failed"

def noTable (table : String) : StoreError := .unavailable ("no such table: " ++ table)

end StoreError

end Guildhall
