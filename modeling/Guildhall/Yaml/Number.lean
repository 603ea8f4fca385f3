import Guildhall.Yaml.Kind
import Guildhall.Decimal.Base
import Guildhall.Decimal.Real

/-!
Numbers as documents write them: with underscores anywhere, in base two, eight, ten or sixteen, or
in base sixty with colons between the digits.
-/

namespace Guildhall.Yaml

def withoutBars (text : String) : List Char := text.toList.filter (· ≠ '_')

def negate : Binary64 → Binary64
  | .finite negative mantissa exponent => .finite (!negative) mantissa exponent
  | .infinite negative => .infinite (!negative)
  | .nan => .nan

def integerIn (base : Nat) (text : List Char) : Except TextFault Int :=
  match Decimal.readInBase base text with
  | some n => .ok n
  | none => .error (.integer base (String.ofList text) .malformed)

def decimalInteger (text : List Char) : Except TextFault Int :=
  match Decimal.readInteger text with
  | .ok n => .ok n
  | .error cause => .error (.integer 10 (String.ofList text) cause)

def sizeOf (text : List Char) : Except TextFault Int :=
  match text with
  | [] => .error .empty
  | ['0'] => .ok 0
  | '0' :: 'b' :: digits => integerIn 2 digits
  | '0' :: 'x' :: digits => integerIn 16 digits
  | '0' :: _ => integerIn 8 text
  | _ => do
    if text.contains ':' then
      let parts ← (Text.splitAt ':' text).mapM decimalInteger
      return parts.foldl (fun total part => 60 * total + part) 0
    else decimalInteger text

def readInteger (text : String) : Except TextFault Int :=
  match withoutBars text with
  | [] => .error .empty
  | chars =>
    let (negative, body) := Decimal.splitSign chars
    (sizeOf body).map fun size => if negative then -size else size

def decimalReal (text : List Char) : Except TextFault Binary64 :=
  match Decimal.readReal text with
  | some x => .ok x
  | none => .error (.real (String.ofList text))

/-- The sum of the parts, the last of which counts once, the one before it sixty times. What a part
counts is an integer, which must have a double even where the part is zero. -/
def sexagesimal (parts : List Binary64) : Except TextFault Binary64 := do
  let step (state : Binary64 × Int) (part : Binary64) : Except TextFault (Binary64 × Int) :=
    let unit := Binary64.ofInt state.2
    if unit.isFinite then .ok (state.1.add (part.mul unit), state.2 * 60) else .error .overflow
  return (← parts.reverse.foldlM step (.ofInt 0, 1)).1

def realSize (text : List Char) : Except TextFault Binary64 :=
  if text = ".inf".toList then .ok (.infinite false)
  else if text = ".nan".toList then .ok .nan
  else if text.contains ':' then do
    sexagesimal (← (Text.splitAt ':' text).mapM decimalReal)
  else decimalReal text

def readReal (text : String) : Except TextFault Binary64 :=
  match (withoutBars text).map Char.toLower with
  | [] => .error .empty
  | chars =>
    let (negative, body) := Decimal.splitSign chars
    (realSize body).map fun size => if negative then negate size else size

end Guildhall.Yaml
