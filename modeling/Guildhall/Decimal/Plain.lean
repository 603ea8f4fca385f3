import Guildhall.Decimal.Integer

/-!
Integers in the plain form: ASCII digits, and a fraction only if it is made of zeros.
-/

namespace Guildhall.Decimal

def dropZeroFraction (text : List Char) : Option (List Char) :=
  match text.dropWhile (· ≠ '.') with
  | [] => some text
  | _ :: fraction =>
    if !fraction.isEmpty && fraction.all (· = '0') then some (text.takeWhile (· ≠ '.')) else none

def readPlain (text : List Char) : Except Misread Int :=
  let (negative, body) := splitSign (Text.strip Text.isSpace text)
  match (dropZeroFraction body).bind (groupedDigits Text.asciiDigit? false) with
  | none => .error .malformed
  | some digits =>
    let significant := digits.dropWhile (· = 0)
    if digitLimit < significant.length then .error (.tooLong significant.length)
    else .ok (signed negative (valueOf digits))

end Guildhall.Decimal
