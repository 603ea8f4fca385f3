import Guildhall.Text.Blank
import Guildhall.Text.Digit

/-!
Integers written in decimal. Digits may belong to any script and may be grouped by single
underscores; blanks around the number do not count.
-/

namespace Guildhall.Decimal

inductive Misread where
  | malformed
  | tooLong (digits : Nat)
  deriving DecidableEq, Repr

def digitLimit : Nat := 4300

/-- The digits of a run in which a single underscore may stand between two digits. -/
def groupedDigits (digit? : Char → Option Nat) : (afterDigit : Bool) → List Char → Option (List Nat)
  | afterDigit, [] => if afterDigit then some [] else none
  | afterDigit, c :: rest =>
    if c = '_' then
      if afterDigit then groupedDigits digit? false rest else none
    else
      match digit? c with
      | some value => (groupedDigits digit? true rest).map (value :: ·)
      | none => none

def valueOf (digits : List Nat) : Nat := digits.foldl (fun total digit => 10 * total + digit) 0

def splitSign : List Char → Bool × List Char
  | '-' :: rest => (true, rest)
  | '+' :: rest => (false, rest)
  | text => (false, text)

def signed (negative : Bool) (size : Nat) : Int := if negative then -(size : Int) else size

/-- In a text of ASCII characters only the ASCII blanks are blank. -/
def blankWithin (text : List Char) : Char → Bool :=
  if text.all (fun c => decide (c.toNat < 0x80)) then Text.isAsciiBlank else Text.isBlank

def readInteger (text : List Char) : Except Misread Int :=
  let (negative, body) := splitSign (Text.strip (blankWithin text) text)
  match groupedDigits Text.digit? false body with
  | none => .error .malformed
  | some digits =>
    if digitLimit < digits.length then .error (.tooLong digits.length)
    else .ok (signed negative (valueOf digits))

end Guildhall.Decimal
