import Guildhall.Form.Checked
import Guildhall.Json.Value
import Guildhall.Decimal.Plain
import Guildhall.Decimal.Word
import Guildhall.Calendar.Reader
import Guildhall.Calendar.Stamp
import Guildhall.Entity.Basic

/-!
Reading single values of a form. Reading is lax: numbers may come as text and flags as words.
-/

namespace Guildhall.Form

open Calendar

/-- Forms come as values already read or as JSON text; a few faults differ. -/
inductive Source where
  | values
  | text
  deriving DecidableEq, Repr

/-- A real number counts as an integer when it is whole and smaller than `2 ^ 63` in size. -/
def integerOfReal (x : Binary64) : Checked Int :=
  match x with
  | .nan | .infinite _ => .fault .notFinite
  | .finite .. =>
    match x.whole? with
    | none => .fault .fractionalInteger
    | some n => if n.natAbs < Nat.pow 2 63 then .valid n else .fault .integerTooLong

def integerOfText (text : String) : Checked Int :=
  match Decimal.readPlain text.toList with
  | .ok n => .valid n
  | .error .malformed => .fault .unreadableInteger
  | .error (.tooLong _) => .fault .integerTooLong

def integer : Json → Checked Int
  | .flag value => .valid (if value then 1 else 0)
  | .whole n => .valid n
  | .real x => integerOfReal x
  | .text value => integerOfText value
  | .null | .list _ | .object _ => .fault .notInteger

def identifier : Json → Checked Int
  | .text value =>
    let stripped := Text.strip Text.isBlank value.toList
    match Decimal.readInteger stripped with
    | .ok n => .valid n
    | .error cause => .fault (.unreadableId (String.ofList stripped) cause)
  | other => integer other

def text : Json → Checked String
  | .text value => .valid value
  | _ => .fault .notText

def trueWords : List String := ["1", "on", "t", "true", "y", "yes"]
def falseWords : List String := ["0", "off", "f", "false", "n", "no"]

def flagOfText (word : String) : Checked Bool :=
  let word := word.map Char.toLower
  if trueWords.contains word then .valid true
  else if falseWords.contains word then .valid false
  else .fault .unreadableFlag

def flagOfInteger (n : Int) : Checked Bool :=
  if n = 0 then .valid false
  else if n = 1 then .valid true
  else if fitsWord n then .fault .unreadableFlag
  else .fault .notFlag

def flag : Json → Checked Bool
  | .flag value => .valid value
  | .text value => flagOfText value
  | .whole n => flagOfInteger n
  | .real x =>
    match integerOfReal x with
    | .valid n => flagOfInteger n
    | .invalid _ => .fault .notFlag
  | .null | .list _ | .object _ => .fault .notFlag

def choice {α : Type} (ofCode? : Int → Option α) (choices : String) (value : Json) : Checked α :=
  match integer value with
  | .valid code =>
    match ofCode? code with
    | some kind => .valid kind
    | none => .fault (.notChoice choices)
  | .invalid _ => .fault (.notChoice choices)

def channelChoices : String := "0, 2 or 4"
def directChoices : String := "1 or 3"

def channelKind : Json → Checked ChannelKind := choice ChannelKind.ofCode? channelChoices
def directKind : Json → Checked DirectKind := choice DirectKind.ofCode? directChoices

def orUnreadable : Option DateTime → Checked DateTime
  | some time => .valid time
  | none => .fault .unreadableTime

inductive WrittenStamp where
  | whole (n : Int)
  | real (x : Binary64)

def isAsciiDigit (c : Char) : Bool := '0' ≤ c && c ≤ '9'

def naturalOf (digits : List Char) : Nat :=
  digits.foldl (fun total c => 10 * total + (c.toNat - '0'.toNat)) 0

def writtenExponent : List Char → Option Int
  | [] => some 0
  | c :: rest =>
    if c = 'e' ∨ c = 'E' then
      let (negative, digits) := Decimal.splitSign rest
      if digits.isEmpty || !digits.all isAsciiDigit then none
      else some (Decimal.signed negative (naturalOf digits))
    else none

def readWrittenStamp (text : List Char) : Option WrittenStamp :=
  let (negative, body) := Decimal.splitSign text
  let front := body.takeWhile isAsciiDigit
  if front.isEmpty then none
  else
    match body.dropWhile isAsciiDigit with
    | [] =>
      let n := Decimal.signed negative (naturalOf front)
      if fitsWord n then some (.whole n) else none
    | '.' :: rest =>
      let places := rest.takeWhile isAsciiDigit
      (writtenExponent (rest.dropWhile isAsciiDigit)).map fun exponent =>
        .real (.ofDecimal negative (naturalOf (front ++ places)) (exponent - places.length))
    | _ => none

/-- The fraction of a negative number written out is lost. -/
def writtenFraction (x : Binary64) : Nat :=
  match x with
  | .finite negative .. => if negative then 0 else fractionMicros x
  | _ => 0

def ofWrittenStamp : WrittenStamp → Option DateTime
  | .whole n => ofStamp n 0
  | .real x => (floorOf x).bind (fun count => ofStamp count (writtenFraction x))

/-- A date-time, a number written out, or a date alone, tried in this order. A day of the year 0
is a time that cannot be represented. -/
def timeOfText (value : String) : Checked DateTime :=
  match readDateTime value.toList with
  | some reading => orUnreadable reading.dateTime?
  | none =>
    match (readWrittenStamp value.toList).bind ofWrittenStamp with
    | some time => .valid time
    | none =>
      match readDateAlone value.toList with
      | some reading => orUnreadable reading.dateTime?
      | none => .fault .unreadableDate

/-- A whole number counts time if it fits a word, and in values also if a double comes near it. -/
def isStamp (source : Source) (n : Int) : Bool :=
  fitsWord n || source = .values && (Binary64.ofInt n).isFinite

def time (source : Source) : Json → Checked DateTime
  | .text value => timeOfText value
  | .whole n => if isStamp source n then orUnreadable (ofStamp n 0) else .fault .notTime
  | .real x => orUnreadable (ofRealStamp x)
  | .null | .flag _ | .list _ | .object _ => .fault .notTime

def nullable {α : Type} (read : Json → Checked α) : Json → Checked (Option α)
  | .null => .valid none
  | value => (read value).map some

def items {α : Type} (read : Json → Checked α) : (index : Nat) → List Json → Checked (List α)
  | _, [] => .valid []
  | index, value :: rest =>
    ((read value).under (.item index)).map List.cons |>.seq (items read (index + 1) rest)

def listOf {α : Type} (read : Json → Checked α) : Json → Checked (List α)
  | .list values => items read 0 values
  | _ => .fault .notList

end Guildhall.Form
