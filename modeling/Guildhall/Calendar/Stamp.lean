import Guildhall.Calendar.DateTime
import Guildhall.Decimal.Binary64

/-!
Times given as a number: seconds since 1970, or milliseconds when the number is too large for
seconds of a plausible year.
-/

namespace Guildhall.Calendar

/-- Numbers of a greater size count milliseconds. -/
def secondsLimit : Int := 20000000000

def ofStamp (count : Int) (micros : Nat) : Option DateTime :=
  let start : Instant :=
    if count.natAbs ≤ secondsLimit.natAbs then count * 1000000 else count * 1000
  (Instant.wall? (start + micros)).map (fun wall => ⟨wall, some 0⟩)

def fractionMicros (x : Binary64) : Nat :=
  match x with
  | .finite negative mantissa exponent =>
    let (num, den) := Binary64.fraction negative mantissa exponent
    match (Binary64.ofRatio false (num.natAbs % den) den).mul (.ofInt 1000000) with
    | .finite _ m e =>
      let (num, den) := Binary64.fraction false m e
      ((2 * num.natAbs + den) / (2 * den) : Nat)
    | _ => 0
  | _ => 0

def floorOf : Binary64 → Option Int
  | .finite negative mantissa exponent =>
    let (num, den) := Binary64.fraction negative mantissa exponent
    some (num.fdiv den)
  | _ => none

def ofRealStamp (x : Binary64) : Option DateTime :=
  (floorOf x).bind (fun count => ofStamp count (fractionMicros x))

end Guildhall.Calendar
