import Guildhall.Decimal.Integer

/-!
Integers in base two, eight or sixteen.
-/

namespace Guildhall.Decimal

def baseDigit? (base : Nat) (c : Char) : Option Nat :=
  let value :=
    match Text.digit? c with
    | some digit => some digit
    | none =>
      let c := c.toLower
      if 'a' ≤ c ∧ c ≤ 'z' then some (c.toNat - 'a'.toNat + 10) else none
  value.filter (· < base)

def baseLetter (base : Nat) : Char := if base = 2 then 'b' else if base = 8 then 'o' else 'x'

def dropBaseMark (base : Nat) : List Char → List Char
  | '0' :: c :: rest => if c.toLower = baseLetter base then rest else '0' :: c :: rest
  | text => text

def readInBase (base : Nat) (text : List Char) : Option Int :=
  let (negative, body) := splitSign (Text.strip (blankWithin text) text)
  (groupedDigits (baseDigit? base) false (dropBaseMark base body)).map fun digits =>
    signed negative (digits.foldl (fun total digit => base * total + digit) 0)

end Guildhall.Decimal
