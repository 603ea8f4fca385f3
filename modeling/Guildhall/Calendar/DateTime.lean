import Guildhall.Calendar.Day

/-!
Times as a clock on the wall shows them, with or without the distance from universal time, and
their text forms.
-/

namespace Guildhall.Calendar

structure WallTime where
  year : Nat
  month : Nat
  day : Nat
  hour : Nat
  minute : Nat
  second : Nat
  micro : Nat
  deriving DecidableEq, Repr

/-- A wall time with its offset from universal time in minutes; without one it is naive. -/
structure DateTime where
  wall : WallTime
  offset : Option Int
  deriving DecidableEq, Repr

def WallTime.naive (wall : WallTime) : DateTime := ⟨wall, none⟩

abbrev Instant := Int

def leastYear : Nat := 1
def greatestYear : Nat := 9999
def dayMicros : Int := 86400000000

structure WallTime.Valid (w : WallTime) : Prop where
  year : leastYear ≤ w.year ∧ w.year ≤ greatestYear
  month : 1 ≤ w.month ∧ w.month ≤ 12
  day : 1 ≤ w.day ∧ w.day ≤ monthLength w.year w.month
  hour : w.hour ≤ 23
  minute : w.minute ≤ 59
  second : w.second ≤ 59
  micro : w.micro ≤ 999999

def WallTime.ticks (w : WallTime) : Instant :=
  Day.number ⟨w.year, w.month, w.day⟩ * dayMicros +
    (((w.hour : Int) * 60 + w.minute) * 60 + w.second) * 1000000 + w.micro

/-- Wall times of one table are compared by this number; it grows with their stored text. -/
def WallTime.rank (w : WallTime) : Nat :=
  (((((w.year * 100 + w.month) * 100 + w.day) * 100 + w.hour) * 100 + w.minute) * 100 +
    w.second) * 1000000 + w.micro

/-- The instant of a date-time; a naive one counts as universal time. -/
def DateTime.instant (t : DateTime) : Instant :=
  t.wall.ticks - (t.offset.getD 0) * 60000000

def Instant.year (i : Instant) : Int := (Day.ofNumber (i.fdiv dayMicros)).year

def Instant.wall? (i : Instant) : Option WallTime :=
  let number := i.fdiv dayMicros
  let micros := (i - number * dayMicros).toNat
  let date := Day.ofNumber number
  if (leastYear : Int) ≤ date.year ∧ date.year ≤ greatestYear then
    some {
      year := date.year.toNat, month := date.month, day := date.day
      hour := micros / 3600000000, minute := micros / 60000000 % 60
      second := micros / 1000000 % 60, micro := micros % 1000000 }
  else none

def DateTime.universal (t : DateTime) : DateTime :=
  match Instant.wall? t.instant with
  | some wall => ⟨wall, some 0⟩
  | none => ⟨t.wall, some 0⟩

def fixed (width n : Nat) : List Char :=
  let digits := Nat.toDigits 10 n
  List.replicate (width - digits.length) '0' ++ digits

def dateText (w : WallTime) : List Char :=
  fixed 4 w.year ++ '-' :: fixed 2 w.month ++ '-' :: fixed 2 w.day

def clockText (w : WallTime) : List Char :=
  fixed 2 w.hour ++ ':' :: fixed 2 w.minute ++ ':' :: fixed 2 w.second

def fractionText (w : WallTime) : List Char :=
  if w.micro = 0 then [] else '.' :: fixed 6 w.micro

def offsetText (offset : Int) : List Char :=
  (if offset < 0 then '-' else '+') :: fixed 2 (offset.natAbs / 60) ++
    ':' :: fixed 2 (offset.natAbs % 60)

def WallTime.isoText (w : WallTime) : List Char :=
  dateText w ++ 'T' :: clockText w ++ fractionText w

def DateTime.chars (t : DateTime) : List Char :=
  t.wall.isoText ++
    match t.offset with
    | none => []
    | some offset => if offset = 0 then ['Z'] else offsetText offset

def DateTime.text (t : DateTime) : String := String.ofList t.chars

def DateTime.isoText (t : DateTime) : String :=
  String.ofList (t.wall.isoText ++ (t.offset.map offsetText).getD [])

def WallTime.storedText (w : WallTime) : String :=
  String.ofList (dateText w ++ ' ' :: clockText w ++ '.' :: fixed 6 w.micro)

end Guildhall.Calendar
