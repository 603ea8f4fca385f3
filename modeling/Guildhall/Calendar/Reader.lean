import Guildhall.Calendar.DateTime
import Guildhall.Text.Digit

/-!
Reading dates and date-times in ISO form: `2026-03-01`, or a date, a separator and a time of at
least hours and minutes, with an optional fraction and offset.
-/

namespace Guildhall.Calendar

def readDigits : (count : Nat) → (total : Nat) → List Char → Option (Nat × List Char)
  | 0, total, rest => some (total, rest)
  | count + 1, total, c :: rest =>
    match Text.asciiDigit? c with
    | some digit => readDigits count (10 * total + digit) rest
    | none => none
  | _ + 1, _, [] => none

def expect (c : Char) : List Char → Option (List Char)
  | [] => none
  | d :: rest => if c = d then some rest else none

/-- A day of the calendar; the year 0 is read too and is refused later. -/
def readDate (text : List Char) : Option (Day × List Char) := do
  let (year, rest) ← readDigits 4 0 text
  let (month, rest) ← readDigits 2 0 (← expect '-' rest)
  let (day, rest) ← readDigits 2 0 (← expect '-' rest)
  if 1 ≤ month ∧ month ≤ 12 ∧ 1 ≤ day ∧ day ≤ monthLength year month then
    some (⟨year, month, day⟩, rest)
  else none

def millionth (digits : List Nat) : Nat :=
  let kept := digits.take 6
  kept.foldl (fun total digit => 10 * total + digit) 0 * Nat.pow 10 (6 - kept.length)

def digitRun : List Char → List Nat × List Char
  | [] => ([], [])
  | c :: rest =>
    match Text.asciiDigit? c with
    | some digit => let (digits, tail) := digitRun rest; (digit :: digits, tail)
    | none => ([], c :: rest)

def readFraction : List Char → Option (Nat × List Char)
  | [] => some (0, [])
  | c :: rest =>
    if c = '.' ∨ c = ',' then
      let (digits, tail) := digitRun rest
      if digits.isEmpty then none else some (millionth digits, tail)
    else some (0, c :: rest)

structure Clock where
  hour : Nat
  minute : Nat
  second : Nat
  micro : Nat

def readSeconds : List Char → Option (Nat × Nat × List Char)
  | ':' :: rest => do
    let (second, rest) ← readDigits 2 0 rest
    let (micro, rest) ← readFraction rest
    if second ≤ 59 then some (second, micro, rest) else none
  | rest => some (0, 0, rest)

def readClock (text : List Char) : Option (Clock × List Char) := do
  let (hour, rest) ← readDigits 2 0 text
  let (minute, rest) ← readDigits 2 0 (← expect ':' rest)
  let (second, micro, rest) ← readSeconds rest
  if hour ≤ 23 ∧ minute ≤ 59 then some (⟨hour, minute, second, micro⟩, rest) else none

def offsetSign? (c : Char) : Option Int :=
  if c = '+' then some 1
  else if c = '-' ∨ c.toNat = 0x2212 then some (-1)
  else none

def readOffset : List Char → Option (Option Int)
  | [] => some none
  | c :: rest =>
    if c = 'Z' ∨ c = 'z' then (if rest.isEmpty then some (some 0) else none)
    else do
      let sign ← offsetSign? c
      let (hours, rest) ← readDigits 2 0 rest
      let (minutes, rest) ← readDigits 2 0 (match rest with | ':' :: tail => tail | tail => tail)
      if rest.isEmpty ∧ minutes ≤ 59 ∧ hours ≤ 23 then
        some (some (sign * (hours * 60 + minutes)))
      else none

def isDateTimeSeparator (c : Char) : Bool := c = 'T' || c = 't' || c = ' ' || c = '_'

structure Reading where
  day : Day
  clock : Clock
  offset : Option Int

def readDateTime (text : List Char) : Option Reading := do
  let (day, rest) ← readDate text
  match rest with
  | [] => none
  | separator :: rest =>
    if isDateTimeSeparator separator then
      let (clock, rest) ← readClock rest
      let offset ← readOffset rest
      some ⟨day, clock, offset⟩
    else none

def readDateAlone (text : List Char) : Option Reading := do
  let (day, rest) ← readDate text
  if rest.isEmpty then some ⟨day, ⟨0, 0, 0, 0⟩, none⟩ else none

def Reading.dateTime? (r : Reading) : Option DateTime :=
  if (leastYear : Int) ≤ r.day.year ∧ r.day.year ≤ greatestYear then
    some ⟨⟨r.day.year.toNat, r.day.month, r.day.day, r.clock.hour, r.clock.minute,
      r.clock.second, r.clock.micro⟩, r.offset⟩
  else none

def DateTime.read (text : String) : Option DateTime :=
  ((readDateTime text.toList).or (readDateAlone text.toList)).bind Reading.dateTime?

end Guildhall.Calendar
