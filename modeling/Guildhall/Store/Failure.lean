import Guildhall.Store.Error
import Guildhall.Form.Schema
import Guildhall.PairKey

/-!
Everything that can stop a call of the stores: faults of the storage, and arguments or rows that
the stores refuse.
-/

namespace Guildhall

inductive Failure where
  | store (error : StoreError)
  /-- An integer does not fit the words of the storage. -/
  | tooLarge
  | limitNotPositive (limit : Int)
  | negativeOffset (offset : Int)
  /-- A channel between two users was given another number of recipients. -/
  | recipientCount (count : Nat)
  | sameUser
  /-- An integer has too many digits to be written. -/
  | unwritable
  /-- A stored row is no valid entity. -/
  | unreadable (schema : Form.Schema) (problems : List Form.Problem)
  /-- The caller gave up its own transaction. -/
  | abandoned (reason : String)
  deriving DecidableEq, Repr

namespace Failure

def message : Failure → String
  | .store error => error.message
  | .tooLarge => "Python int too large to convert to SQLite INTEGER"
  | .limitNotPositive limit => s!"limit must be positive, got {limit}"
  | .negativeOffset offset => s!"offset must not be negative, got {offset}"
  | .recipientCount count => s!"a 1:1 DM channel needs exactly 2 recipients, got {count}"
  | .sameUser => "a 1:1 DM channel needs two distinct users"
  | .unwritable => Decimal.unwritableMessage
  | .unreadable .. => ""
  | .abandoned reason => reason

def showing (n : Int) (refusal : Failure) : Failure :=
  if Decimal.isWritable n then refusal else .unwritable

def isConflict : Failure → Bool
  | .store (.conflict ..) => true
  | _ => false

end Failure

end Guildhall
