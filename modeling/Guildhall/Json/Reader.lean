import Guildhall.Json.Value
import Guildhall.Decimal.Integer
import Guildhall.Text.Hex

/-!
Reading JSON text. Besides standard JSON the words `NaN`, `Infinity` and `-Infinity` are numbers.
Whole numbers obey the digit limit and nesting has a limit of its own.
-/

namespace Guildhall.Json

def isSpace (c : Char) : Bool := c = ' ' || c = '\t' || c = '\n' || c = '\r'

def skipSpace (input : List Char) : List Char := input.dropWhile isSpace

def readHex4 : List Char → Option (Nat × List Char)
  | a :: b :: c :: d :: rest => do
    let a ← Text.hexValue? a
    let b ← Text.hexValue? b
    let c ← Text.hexValue? c
    let d ← Text.hexValue? d
    some (((a * 16 + b) * 16 + c) * 16 + d, rest)
  | _ => none

def isHighHalf (unit : Nat) : Bool := 0xD800 ≤ unit && unit < 0xDC00
def isLowHalf (unit : Nat) : Bool := 0xDC00 ≤ unit && unit < 0xE000

def readUnicodeEscape (input : List Char) : Option (Char × List Char) :=
  match readHex4 input with
  | none => none
  | some (unit, rest) =>
    if isHighHalf unit then
      match rest with
      | '\\' :: 'u' :: rest =>
        match readHex4 rest with
        | some (second, rest) =>
          if isLowHalf second then
            some (Char.ofNat (0x10000 + (unit - 0xD800) * 0x400 + (second - 0xDC00)), rest)
          else none
        | none => none
      | _ => none
    else if isLowHalf unit then none
    else some (Char.ofNat unit, rest)

def simpleEscape? (c : Char) : Option Char :=
  if c = '"' ∨ c = '\\' ∨ c = '/' then some c
  else if c = 'b' then some (Char.ofNat 8)
  else if c = 'f' then some (Char.ofNat 12)
  else if c = 'n' then some '\n'
  else if c = 'r' then some '\r'
  else if c = 't' then some '\t'
  else none

/-- The rest of a text after its opening quote; `done` holds the characters so far in reverse. -/
def readText : (fuel : Nat) → (done : List Char) → List Char → Option (String × List Char)
  | 0, _, _ => none
  | _ + 1, _, [] => none
  | fuel + 1, done, c :: rest =>
    if c = '"' then some (String.ofList done.reverse, rest)
    else if c.toNat < 0x20 then none
    else if c = '\\' then
      match rest with
      | [] => none
      | e :: tail =>
        if e = 'u' then
          match readUnicodeEscape tail with
          | some (value, tail) => readText fuel (value :: done) tail
          | none => none
        else
          match simpleEscape? e with
          | some value => readText fuel (value :: done) tail
          | none => none
    else readText fuel (c :: done) rest

def isAsciiDigit (c : Char) : Bool := '0' ≤ c && c ≤ '9'

def naturalOf (digits : List Char) : Nat :=
  digits.foldl (fun total c => 10 * total + (c.toNat - '0'.toNat)) 0

def readWhole (input : List Char) : Option (List Char × List Char) :=
  let digits := input.takeWhile isAsciiDigit
  let rest := input.dropWhile isAsciiDigit
  match digits with
  | [] => none
  | '0' :: _ :: _ => none
  | _ => some (digits, rest)

def readDecimals : List Char → Option (Option (List Char) × List Char)
  | '.' :: rest =>
    let digits := rest.takeWhile isAsciiDigit
    if digits.isEmpty then none else some (some digits, rest.dropWhile isAsciiDigit)
  | rest => some (none, rest)

def readExponent : List Char → Option (Option Int × List Char)
  | [] => some (none, [])
  | c :: rest =>
    if c = 'e' ∨ c = 'E' then
      let (negative, rest) := Decimal.splitSign rest
      let digits := rest.takeWhile isAsciiDigit
      if digits.isEmpty then none
      else some (some (Decimal.signed negative (naturalOf digits)), rest.dropWhile isAsciiDigit)
    else some (none, c :: rest)

def startsWith (word : String) (input : List Char) : Option (List Char) :=
  if word.toList.isPrefixOf input then some (input.drop word.length) else none

def readNumber (input : List Char) : Option (Json × List Char) :=
  let (negative, body) := match input with
    | '-' :: rest => (true, rest)
    | rest => (false, rest)
  match startsWith "Infinity" body with
  | some rest => some (.real (.infinite negative), rest)
  | none => do
    let (front, rest) ← readWhole body
    let (decimals, rest) ← readDecimals rest
    let (exponent, rest) ← readExponent rest
    match decimals, exponent with
    | none, none =>
      if Decimal.digitLimit < front.length then none
      else some (.whole (Decimal.signed negative (naturalOf front)), rest)
    | _, _ =>
      let places := decimals.getD []
      some (.real (.ofDecimal negative (naturalOf (front ++ places))
        (exponent.getD 0 - places.length)), rest)

def readWord (input : List Char) : Option (Json × List Char) :=
  match startsWith "null" input, startsWith "true" input, startsWith "false" input,
      startsWith "NaN" input with
  | some rest, _, _, _ => some (.null, rest)
  | _, some rest, _, _ => some (.flag true, rest)
  | _, _, some rest, _ => some (.flag false, rest)
  | _, _, _, some rest => some (.real .nan, rest)
  | _, _, _, _ => none

mutual

def readValue : (fuel depth : Nat) → List Char → Option (Json × List Char)
  | 0, _, _ => none
  | fuel + 1, depth, input =>
    match skipSpace input with
    | [] => none
    | '"' :: rest =>
      match readText (rest.length + 1) [] rest with
      | some (value, rest) => some (.text value, rest)
      | none => none
    | '[' :: rest =>
      match depth with
      | 0 => none
      | depth + 1 =>
        match skipSpace rest with
        | ']' :: rest => some (.list [], rest)
        | rest => readItems fuel depth [] rest
    | '{' :: rest =>
      match depth with
      | 0 => none
      | depth + 1 =>
        match skipSpace rest with
        | '}' :: rest => some (.object [], rest)
        | rest => readFields fuel depth [] rest
    | c :: rest =>
      if isAsciiDigit c || c = '-' then readNumber (c :: rest) else readWord (c :: rest)

def readItems : (fuel depth : Nat) → (done : List Json) → List Char → Option (Json × List Char)
  | 0, _, _, _ => none
  | fuel + 1, depth, done, input =>
    match readValue fuel depth input with
    | none => none
    | some (item, rest) =>
      match skipSpace rest with
      | ',' :: rest => readItems fuel depth (item :: done) rest
      | ']' :: rest => some (.list (item :: done).reverse, rest)
      | _ => none

def readFields : (fuel depth : Nat) → (done : List (String × Json)) → List Char →
    Option (Json × List Char)
  | 0, _, _, _ => none
  | fuel + 1, depth, done, input =>
    match skipSpace input with
    | '"' :: rest =>
      match readText (rest.length + 1) [] rest with
      | none => none
      | some (name, rest) =>
        match skipSpace rest with
        | ':' :: rest =>
          match readValue fuel depth rest with
          | none => none
          | some (value, rest) =>
            match skipSpace rest with
            | ',' :: rest => readFields fuel depth ((name, value) :: done) rest
            | '}' :: rest => some (.object ((name, value) :: done).reverse, rest)
            | _ => none
        | _ => none
    | _ => none

end

def depthLimit : Nat := 200

def read? (input : String) : Option Json :=
  let chars := input.toList
  match readValue (2 * chars.length + 2) depthLimit chars with
  | some (value, rest) => if (skipSpace rest).isEmpty then some value else none
  | none => none

end Guildhall.Json
