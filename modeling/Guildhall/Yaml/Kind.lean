import Guildhall.Text.Parts
import Guildhall.Yaml.Event
import Guildhall.Calendar.Reader

/-!
The kind of a plain scalar, as its text shows it. A text that shows no other kind is text.
-/

namespace Guildhall.Yaml

def isDigitOrBar (c : Char) : Bool := c.isDigit || c = '_'

def dropSign : List Char → List Char
  | '-' :: rest => rest
  | '+' :: rest => rest
  | text => text

def isSixtieth : List Char → Bool
  | [a] => a.isDigit
  | [a, b] => '0' ≤ a && a ≤ '5' && b.isDigit
  | _ => false

/-- A number in base sixty: a first part of any size, and then at least one sixtieth. -/
def isSexagesimal (first : List Char → Bool) (text : List Char) : Bool :=
  match Text.splitAt ':' text with
  | head :: next :: rest => first head && (next :: rest).all isSixtieth
  | _ => false

def startsWithDigit (text : List Char) : Bool :=
  match text with
  | c :: rest => c.isDigit && rest.all isDigitOrBar
  | [] => false

def startsAboveZero (text : List Char) : Bool := startsWithDigit text && text.head? ≠ some '0'

def isHexOrBar (c : Char) : Bool := (Text.hexValue? c).isSome || c = '_'
def isOctalOrBar (c : Char) : Bool := ('0' ≤ c && c ≤ '7') || c = '_'
def isBinaryOrBar (c : Char) : Bool := c = '0' || c = '1' || c = '_'

def showsInteger (text : List Char) : Bool :=
  match dropSign text with
  | ['0'] => true
  | '0' :: 'b' :: rest => !rest.isEmpty && rest.all isBinaryOrBar
  | '0' :: 'x' :: rest => !rest.isEmpty && rest.all isHexOrBar
  | '0' :: rest => rest.all isOctalOrBar
  | body => startsAboveZero body || isSexagesimal startsAboveZero body

def isExponent : List Char → Bool
  | [] => true
  | e :: sign :: digits =>
    (e = 'e' || e = 'E') && (sign = '-' || sign = '+') && !digits.isEmpty && digits.all Char.isDigit
  | _ => false

def isFraction (text : List Char) : Bool := isExponent (text.dropWhile isDigitOrBar)

def infinityWords : List (List Char) := [".inf", ".Inf", ".INF"].map String.toList
def nanWords : List (List Char) := [".nan", ".NaN", ".NAN"].map String.toList

def showsReal (text : List Char) : Bool :=
  let body := dropSign text
  if infinityWords.contains body || nanWords.contains text then true
  else
    let front := body.takeWhile (· ≠ '.')
    match body.dropWhile (· ≠ '.') with
    | [] => false
    | _ :: rest =>
      (startsWithDigit front && isFraction rest) ||
        (front.isEmpty && body = text && startsWithDigit (rest.take 1) && isFraction rest) ||
        (isSexagesimal startsWithDigit front && rest.all isDigitOrBar)

structure WrittenTime where
  year : Nat
  month : Nat
  day : Nat
  clock : Option Calendar.Clock
  offset : Option Int

def oneOrTwoDigits (text : List Char) : Option (Nat × List Char) :=
  (Calendar.readDigits 2 0 text).or (Calendar.readDigits 1 0 text)

def dropTimeMark : List Char → Option (List Char)
  | [] => none
  | c :: rest =>
    if c = 'T' ∨ c = 't' then some rest
    else if isBlank c then some (rest.dropWhile isBlank)
    else none

def writtenFractionOf : List Char → Nat × List Char
  | '.' :: rest =>
    let (digits, tail) := Calendar.digitRun rest
    (Calendar.millionth digits, tail)
  | rest => (0, rest)

def writtenOffset (text : List Char) : Option (Option Int) :=
  if text.isEmpty then some none
  else
    match text.dropWhile isBlank with
    | ['Z'] => some (some 0)
    | sign :: rest =>
      if sign = '-' ∨ sign = '+' then do
        let (hours, rest) ← oneOrTwoDigits rest
        let minutes ←
          match rest with
          | [] => some 0
          | ':' :: rest =>
            (Calendar.readDigits 2 0 rest).bind fun (n, tail) =>
              if tail.isEmpty then some n else none
          | _ => none
        let size : Int := hours * 60 + minutes
        some (some (if sign = '-' then -size else size))
      else none
    | [] => none

def readWrittenTime (text : List Char) : Option WrittenTime := do
  let (year, rest) ← Calendar.readDigits 4 0 text
  let (month, rest) ← oneOrTwoDigits (← Calendar.expect '-' rest)
  let (day, rest) ← oneOrTwoDigits (← Calendar.expect '-' rest)
  if rest.isEmpty then return ⟨year, month, day, none, none⟩
  let (hour, rest) ← oneOrTwoDigits (← dropTimeMark rest)
  let (minute, rest) ← Calendar.readDigits 2 0 (← Calendar.expect ':' rest)
  let (second, rest) ← Calendar.readDigits 2 0 (← Calendar.expect ':' rest)
  let (micro, rest) := writtenFractionOf rest
  return ⟨year, month, day, some ⟨hour, minute, second, micro⟩, ← writtenOffset rest⟩

def showsTime (text : List Char) : Bool :=
  match readWrittenTime text with
  | some time => time.clock.isSome || text.length = 10
  | none => false

def flagWords : List String := ["yes", "Yes", "YES", "no", "No", "NO", "true", "True", "TRUE",
  "false", "False", "FALSE", "on", "On", "ON", "off", "Off", "OFF"]

def nullWords : List String := ["", "~", "null", "Null", "NULL"]

def kindOf (text : String) : String :=
  let chars := text.toList
  coreTag (
    if flagWords.contains text then "bool"
    else if showsReal chars then "float"
    else if showsInteger chars then "int"
    else if text = "<<" then "merge"
    else if nullWords.contains text then "null"
    else if showsTime chars then "timestamp"
    else if text = "=" then "value"
    else if ["!", "&", "*"].contains text then "yaml"
    else "str")

end Guildhall.Yaml
