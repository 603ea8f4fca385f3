import Guildhall.Decimal.Integer
import Guildhall.Text.Quoted

/-!
The wording of a failure to read an integer.
-/

namespace Guildhall.Decimal

def shownLimit : Nat := 200

def Misread.message (base : Nat) (shown : String) : Misread → String
  | .malformed =>
    s!"invalid literal for int() with base {base}: " ++
      String.ofList ((Text.quotedChars shown.toList).take shownLimit)
  | .tooLong digits =>
    s!"Exceeds the limit ({digitLimit} digits) for integer string conversion: value has " ++
      s!"{digits} digits; use sys.set_int_max_str_digits() to increase the limit"

@[irreducible]
def isWritable (n : Int) : Bool := n.natAbs < Nat.pow 10 digitLimit

def unwritableMessage : String :=
  s!"Exceeds the limit ({digitLimit} digits) for integer string conversion; " ++
    "use sys.set_int_max_str_digits() to increase the limit"

end Guildhall.Decimal
