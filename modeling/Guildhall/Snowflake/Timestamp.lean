import Guildhall.Snowflake.Basic
import Guildhall.Calendar.DateTime
import Guildhall.Decimal.Binary64

/-!
The time held in an identifier. Its milliseconds are divided by 1000 as doubles, which shows in
the microseconds of far years.
-/

namespace Guildhall.Snowflake

open Calendar

inductive TimestampError where
  | quotientTooLarge
  | outsideClock
  | outsideYearNumbers
  | yearOutOfRange (year : Int)
  deriving DecidableEq, Repr

def TimestampError.message : TimestampError → String
  | .quotientTooLarge => "integer division result too large for a float"
  | .outsideClock => "timestamp out of range for platform time_t"
  | .outsideYearNumbers => "[Errno 75] Value too large for defined data type"
  | .yearOutOfRange year => s!"year {year} is out of range"

def roundFraction (num : Int) (den : Nat) : Int :=
  let size := Binary64.roundHalfEven num.natAbs den
  if num < 0 then -(size : Int) else size

/-- Seconds given as a double, in whole seconds and microseconds from 0 to 999999. -/
def splitSeconds (negative : Bool) (mantissa : Nat) (exponent : Int) : Int × Int :=
  let (num, den) := Binary64.fraction negative mantissa exponent
  let seconds := num.tdiv den
  let micros :=
    match (Binary64.ofFraction negative (num - seconds * den) den).mul (.ofInt 1000000) with
    | .finite s m e => let (num, den) := Binary64.fraction s m e; roundFraction num den
    | _ => 0
  if 1000000 ≤ micros then (seconds + 1, micros - 1000000)
  else if micros < 0 then (seconds - 1, micros + 1000000)
  else (seconds, micros)

def instantOfMillis (millis : Int) : Except TimestampError Instant :=
  match Binary64.ofFraction false millis 1000 with
  | .finite negative mantissa exponent =>
    let (seconds, micros) := splitSeconds negative mantissa exponent
    if -(Nat.pow 2 63 : Int) ≤ seconds ∧ seconds < Nat.pow 2 63 then
      .ok (seconds * 1000000 + micros)
    else .error .outsideClock
  | _ => .error .quotientTooLarge

def hasYearNumber (year : Int) : Bool :=
  -(Nat.pow 2 31 : Int) ≤ year - 1900 ∧ year - 1900 < Nat.pow 2 31

def extractInstant (id : Int) : Except TimestampError Instant :=
  instantOfMillis (timestamp id + epochMillis)

def extractTime (id : Int) : Except TimestampError DateTime :=
  match extractInstant id with
  | .error e => .error e
  | .ok instant =>
    match Instant.wall? instant with
    | some wall => .ok ⟨wall, some 0⟩
    | none =>
      let year := Instant.year instant
      if hasYearNumber year then .error (.yearOutOfRange year) else .error .outsideYearNumbers

end Guildhall.Snowflake
