/-!
Double-precision numbers as exact values: a finite one is `± mantissa * 2 ^ exponent`. Every
operation rounds the exact result to the nearest double, a tie to the even mantissa.
-/

namespace Guildhall

inductive Binary64 where
  | finite (negative : Bool) (mantissa : Nat) (exponent : Int)
  | infinite (negative : Bool)
  | nan
  deriving DecidableEq, Repr

namespace Binary64

def leastExponent : Int := -1074
def greatestExponent : Int := 971

def roundHalfEven (num den : Nat) : Nat :=
  let floor := num / den
  let twice := 2 * (num % den)
  if twice < den then floor
  else if den < twice then floor + 1
  else if floor % 2 = 0 then floor else floor + 1

def scaled (num den : Nat) (exponent : Int) : Nat × Nat :=
  if 0 ≤ exponent then (num, den * Nat.pow 2 exponent.toNat)
  else (num * Nat.pow 2 (-exponent).toNat, den)

/-- The exponent at which `num / den` has a mantissa of 53 bits, or the least one. -/
def exponentFor (num den : Nat) : Int :=
  let guess : Int := (Nat.log2 num : Int) - (Nat.log2 den : Int) - 53
  let (top, bottom) := scaled num den guess
  max leastExponent (if top / bottom < Nat.pow 2 53 then guess else guess + 1)

def ofRatio (negative : Bool) (num den : Nat) : Binary64 :=
  if num = 0 then .finite negative 0 leastExponent
  else
    let exponent := exponentFor num den
    let (top, bottom) := scaled num den exponent
    let mantissa := roundHalfEven top bottom
    let (mantissa, exponent) :=
      if mantissa = Nat.pow 2 53 then (Nat.pow 2 52, exponent + 1) else (mantissa, exponent)
    if greatestExponent < exponent then .infinite negative else .finite negative mantissa exponent

/-- The double nearest to `digits * 10 ^ exponent`. Exponents far outside the range of doubles
are cut short, where only zero or infinity can result. -/
def ofDecimal (negative : Bool) (digits : Nat) (exponent : Int) : Binary64 :=
  let magnitude : Int := (Nat.log2 digits : Int) / 4 + exponent
  if digits = 0 then ofRatio negative 0 1
  else if 400 < magnitude then .infinite negative
  else if exponent < -400 - (Nat.log2 digits : Int) then .finite negative 0 leastExponent
  else if 0 ≤ exponent then ofRatio negative (digits * Nat.pow 10 exponent.toNat) 1
  else ofRatio negative digits (Nat.pow 10 (-exponent).toNat)

def fraction (negative : Bool) (mantissa : Nat) (exponent : Int) : Int × Nat :=
  let (num, den) := if 0 ≤ exponent then (mantissa * Nat.pow 2 exponent.toNat, 1)
    else (mantissa, Nat.pow 2 (-exponent).toNat)
  (if negative then -(num : Int) else num, den)

/-- The double nearest to `num / den`; an exact zero takes the given sign. -/
def ofFraction (zeroNegative : Bool) (num : Int) (den : Nat) : Binary64 :=
  if num = 0 then ofRatio zeroNegative 0 1 else ofRatio (decide (num < 0)) num.natAbs den

def add : Binary64 → Binary64 → Binary64
  | .nan, _ | _, .nan => .nan
  | .infinite s, .infinite t => if s = t then .infinite s else .nan
  | .infinite s, .finite .. | .finite .., .infinite s => .infinite s
  | .finite s m e, .finite t n f =>
    let (a, b) := fraction s m e
    let (c, d) := fraction t n f
    ofFraction (s && t) (a * d + c * b) (b * d)

def mul : Binary64 → Binary64 → Binary64
  | .nan, _ | _, .nan => .nan
  | .infinite s, .infinite t => .infinite (s != t)
  | .infinite s, .finite t n _ | .finite t n _, .infinite s =>
    if n = 0 then .nan else .infinite (s != t)
  | .finite s m e, .finite t n f =>
    let (a, b) := fraction s m e
    let (c, d) := fraction t n f
    ofFraction (s != t) (a * c) (b * d)

def ofInt (n : Int) : Binary64 := ofFraction false n 1

def whole? : Binary64 → Option Int
  | .finite negative mantissa exponent =>
    let (num, den) := fraction negative mantissa exponent
    if num % (den : Int) = 0 then some (num / den) else none
  | _ => none

def truncate? : Binary64 → Option Int
  | .finite negative mantissa exponent =>
    let (num, den) := fraction negative mantissa exponent
    some (num.tdiv den)
  | _ => none

def isFinite : Binary64 → Bool
  | .finite .. => true
  | _ => false

def isZero : Binary64 → Bool
  | .finite _ mantissa _ => mantissa = 0
  | _ => false

end Binary64

end Guildhall
