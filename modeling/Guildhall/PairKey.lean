import Guildhall.Decimal.Misread

/-!
The name of an unordered pair of users: both identifiers in ascending order around a colon.
-/

namespace Guildhall

def pairKey (first second : Int) : String :=
  toString (min first second) ++ ":" ++ toString (max first second)

/-- Only identifiers that can be written make a name. -/
def pairKey? (first second : Int) : Option String :=
  if Decimal.isWritable first && Decimal.isWritable second then some (pairKey first second)
  else none

end Guildhall
