import Guildhall.Decimal.Integer
import Guildhall.Decimal.Binary64

/-!
Reading a number with a point or an exponent as the nearest double.
-/

namespace Guildhall.Decimal

def leadingDigits : List Char → List Nat × List Char
  | [] => ([], [])
  | c :: rest =>
    match Text.digit? c with
    | some digit => let (digits, tail) := leadingDigits rest; (digit :: digits, tail)
    | none => ([], c :: rest)

def readExponent : List Char → Option Int
  | [] => some 0
  | c :: rest =>
    if c = 'e' ∨ c = 'E' then
      let (negative, body) := splitSign rest
      match leadingDigits body with
      | (digit :: digits, []) => some (signed negative (valueOf (digit :: digits)))
      | _ => none
    else none

def readUnsigned (negative : Bool) (text : List Char) : Option Binary64 :=
  let (front, rest) := leadingDigits text
  let (places, rest) := match rest with
    | '.' :: tail => leadingDigits tail
    | tail => ([], tail)
  if front.isEmpty && places.isEmpty then none
  else (readExponent rest).map fun exponent =>
    .ofDecimal negative (valueOf (front ++ places)) (exponent - places.length)

def infinities : List (List Char) := ["inf", "infinity"].map String.toList

def readReal (text : List Char) : Option Binary64 :=
  let (negative, body) := splitSign (Text.strip (blankWithin text) text)
  let word := body.map Char.toLower
  if infinities.contains word then some (.infinite negative)
  else if word = "nan".toList then some .nan
  else readUnsigned negative body

end Guildhall.Decimal
