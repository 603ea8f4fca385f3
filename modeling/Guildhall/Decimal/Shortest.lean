import Guildhall.Decimal.Binary64

/-!
The shortest decimal that reads back as a given double, and the text form built from it.
-/

namespace Guildhall.Binary64

structure DecimalForm where
  digits : Nat
  exponent : Int
  deriving DecidableEq, Repr

/-- The numbers that round to `mantissa * 2 ^ exponent`, as fractions over one denominator: the
lower end, the value itself and the upper end. The ends belong to it when the mantissa is even. -/
structure Interval where
  low : Nat
  value : Nat
  high : Nat
  den : Nat
  closed : Bool

def interval (mantissa : Nat) (exponent : Int) : Interval :=
  let narrow := mantissa = Nat.pow 2 52 ∧ leastExponent < exponent
  let low := if narrow then 4 * mantissa - 1 else 4 * mantissa - 2
  let (factor, den) := if 2 ≤ exponent then (Nat.pow 2 (exponent - 2).toNat, 1)
    else (1, Nat.pow 2 (2 - exponent).toNat)
  ⟨low * factor, 4 * mantissa * factor, (4 * mantissa + 2) * factor, den, mantissa % 2 = 0⟩

def Interval.holds (range : Interval) (digits : Nat) (exponent : Int) : Bool :=
  let (num, den) := if 0 ≤ exponent then (digits * Nat.pow 10 exponent.toNat, 1)
    else (digits, Nat.pow 10 (-exponent).toNat)
  if range.closed then
    decide (range.low * den ≤ num * range.den ∧ num * range.den ≤ range.high * den)
  else decide (range.low * den < num * range.den ∧ num * range.den < range.high * den)

def decimalPlaces (range : Interval) : Int :=
  let estimate : Int :=
    ((Nat.log2 range.value : Int) - (Nat.log2 range.den : Int)) * 30103 / 100000 - 1
  let reached (places : Int) : Bool :=
    if 0 ≤ places then decide (Nat.pow 10 places.toNat * range.den ≤ range.value)
    else decide (range.den ≤ range.value * Nat.pow 10 (-places).toNat)
  (List.range 5).foldl (fun found (step : Nat) =>
    if reached (estimate + step) then estimate + step + 1 else found) estimate

/-- The grid point of the given spacing that is nearest to the value among its two neighbours
inside the interval; of two at equal distance the even one. -/
def nearestOn (range : Interval) (exponent : Int) : Option DecimalForm :=
  let (num, den) := if 0 ≤ exponent then (range.value, range.den * Nat.pow 10 exponent.toNat)
    else (range.value * Nat.pow 10 (-exponent).toNat, range.den)
  let below := num / den
  let nearest := roundHalfEven num den
  let other := if nearest = below then below + 1 else below
  if range.holds nearest exponent then some ⟨nearest, exponent⟩
  else if range.holds other exponent then some ⟨other, exponent⟩
  else none

def shortest (mantissa : Nat) (exponent : Int) : DecimalForm :=
  let range := interval mantissa exponent
  let places := decimalPlaces range
  match (List.range 17).findSome? (fun (n : Nat) => nearestOn range (places - (n + 1))) with
  | some form => form
  | none => ⟨mantissa, 0⟩

/-- How a number is laid out: the least and greatest power of ten written with a plain point, the
least number of exponent digits, and the words for what is not a number. -/
structure Layout where
  leastPlain : Int
  greatestPlain : Int
  exponentDigits : Nat
  infinity : String
  undefinedWord : String

def padded (width : Nat) (n : Nat) : String :=
  let digits := toString n
  String.ofList (List.replicate (width - digits.length) '0') ++ digits

def Layout.render (layout : Layout) : Binary64 → String
  | .nan => layout.undefinedWord
  | .infinite negative => (if negative then "-" else "") ++ layout.infinity
  | .finite negative mantissa exponent =>
    let sign := if negative then "-" else ""
    if mantissa = 0 then sign ++ "0.0"
    else
      let form := shortest mantissa exponent
      let digits := (toString form.digits).toList
      let power : Int := form.exponent + digits.length - 1
      let trimmed := (digits.reverse.dropWhile (· = '0')).reverse
      if layout.leastPlain ≤ power ∧ power ≤ layout.greatestPlain then
        if power < 0 then
          sign ++ "0." ++ String.ofList (List.replicate (-power - 1).toNat '0' ++ trimmed)
        else
          let front := power.toNat + 1
          let whole := trimmed.take front ++ List.replicate (front - trimmed.length) '0'
          let rest := trimmed.drop front
          sign ++ String.ofList whole ++ "." ++ (if rest.isEmpty then "0" else String.ofList rest)
      else
        let rest := trimmed.drop 1
        sign ++ String.ofList (trimmed.take 1) ++
          (if rest.isEmpty then "" else "." ++ String.ofList rest) ++
          "e" ++ (if power < 0 then "-" else "+") ++ padded layout.exponentDigits power.natAbs

def layout : Layout := ⟨-4, 15, 2, "inf", "nan"⟩

def text (x : Binary64) : String := layout.render x

end Guildhall.Binary64
