import Guildhall.Decimal.Misread
import Guildhall.Text.Quoted

/-!
What can be wrong with a document, stage by stage, and with the text of a single value.
-/

namespace Guildhall.Yaml

inductive CalendarFault where
  | year (shown : Nat)
  | month
  | day
  | hour
  | minute
  | second
  | offset (minutes : Int)
  deriving DecidableEq, Repr

inductive TextFault where
  | word (shown : String)
  | integer (base : Nat) (shown : String) (cause : Decimal.Misread)
  | real (shown : String)
  | empty
  | timestamp
  | calendar (cause : CalendarFault)
  /-- A number written for a character is none. -/
  | codePoint (code : Nat)
  /-- A place of a number in base sixty counts more than any double. -/
  | overflow
  deriving DecidableEq, Repr

inductive Fault where
  /-- The document holds a character that it must not hold. -/
  | character
  /-- No token can be read. -/
  | token
  /-- The tokens do not follow the grammar. -/
  | grammar
  /-- A name is used before its definition or defined twice, or there is a second document. -/
  | reference
  /-- A node cannot be made into a value. -/
  | node
  | text (cause : TextFault)
  deriving DecidableEq, Repr

def spanText (minutes : Int) : String :=
  let seconds := minutes * 60
  let days := seconds.fdiv 86400
  let rest := seconds.fmod 86400
  let parts := (if days = 0 then [] else [s!"days={days}"]) ++
    (if rest = 0 then [] else [s!"seconds={rest}"])
  "datetime.timedelta(" ++ (if parts.isEmpty then "0" else ", ".intercalate parts) ++ ")"

def CalendarFault.message : CalendarFault → String
  | .year shown => s!"year {shown} is out of range"
  | .month => "month must be in 1..12"
  | .day => "day is out of range for month"
  | .hour => "hour must be in 0..23"
  | .minute => "minute must be in 0..59"
  | .second => "second must be in 0..59"
  | .offset minutes =>
    "offset must be a timedelta strictly between -timedelta(hours=24) and " ++
      "timedelta(hours=24), not " ++ spanText minutes ++ "."

def TextFault.message : TextFault → String
  | .word shown => Text.quoted shown
  | .integer base shown cause => cause.message base shown
  | .real shown => "could not convert string to float: " ++ Text.quoted shown
  | .empty => "string index out of range"
  | .timestamp => "'NoneType' object has no attribute 'groupdict'"
  | .calendar cause => cause.message
  | .codePoint code =>
    if code < Nat.pow 2 31 then "chr() arg not in range(0x110000)"
    else "Python int too large to convert to C int"
  | .overflow => "int too large to convert to float"

end Guildhall.Yaml
