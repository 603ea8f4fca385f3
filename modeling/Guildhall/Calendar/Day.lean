/-!
The Gregorian calendar, extended to all years. Days are counted from 1970-01-01.
-/

namespace Guildhall.Calendar

structure Day where
  year : Int
  month : Nat
  day : Nat
  deriving DecidableEq, Repr

def isLeap (year : Int) : Bool :=
  year % 4 = 0 && (year % 100 ≠ 0 || year % 400 = 0)

def monthLength (year : Int) (month : Nat) : Nat :=
  if month = 2 then (if isLeap year then 29 else 28)
  else if month = 4 ∨ month = 6 ∨ month = 9 ∨ month = 11 then 30
  else 31

def cycleDays : Int := 146097

def epochShift : Int := 719468

/-- Years are counted from March, so that a leap day is the last day of its year; the months
March to February then have the numbers 0 to 11. -/
def Day.number (d : Day) : Int :=
  let year : Int := if d.month ≤ 2 then d.year - 1 else d.year
  let cycle := year.fdiv 400
  let yearInCycle := year - cycle * 400
  let month : Int := if d.month ≤ 2 then d.month + 9 else (d.month : Int) - 3
  let dayInYear := (153 * month + 2) / 5 + d.day - 1
  cycle * cycleDays + yearInCycle * 365 + yearInCycle / 4 - yearInCycle / 100 + dayInYear -
    epochShift

def Day.ofNumber (number : Int) : Day :=
  let shifted := number + epochShift
  let cycle := shifted.fdiv cycleDays
  let dayInCycle := shifted - cycle * cycleDays
  let yearInCycle :=
    (dayInCycle - dayInCycle / 1460 + dayInCycle / 36524 - dayInCycle / 146096) / 365
  let dayInYear := dayInCycle - (365 * yearInCycle + yearInCycle / 4 - yearInCycle / 100)
  let month := (5 * dayInYear + 2) / 153
  let day := dayInYear - (153 * month + 2) / 5 + 1
  let year := yearInCycle + cycle * 400
  if month < 10 then ⟨year, (month + 3).toNat, day.toNat⟩
  else ⟨year + 1, (month - 9).toNat, day.toNat⟩

end Guildhall.Calendar
