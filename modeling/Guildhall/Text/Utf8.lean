/-!
Characters as bytes. Bytes that are no characters are read as replacement characters, one for each
longest part that could have begun a character.
-/

namespace Guildhall.Text

def utf8Char (c : Char) : List Nat :=
  let n := c.toNat
  if n < 0x80 then [n]
  else if n < 0x800 then [0xC0 + n / 64, 0x80 + n % 64]
  else if n < 0x10000 then [0xE0 + n / 4096, 0x80 + n / 64 % 64, 0x80 + n % 64]
  else [0xF0 + n / 262144, 0x80 + n / 4096 % 64, 0x80 + n / 64 % 64, 0x80 + n % 64]

def utf8 (text : List Char) : List Nat := text.flatMap utf8Char

def replacement : Char := Char.ofNat 0xFFFD

/-- A character that has begun: its bits so far, the bytes still to come, and the bounds of the
next one. -/
structure Begun where
  bits : Nat
  missing : Nat
  low : Nat
  high : Nat
  deriving DecidableEq, Repr

/-- The bounds exclude surrogates, needlessly long forms and numbers beyond the last character. -/
def begin? (byte : Nat) : Option Begun :=
  if 0xC2 ≤ byte ∧ byte ≤ 0xDF then some ⟨byte - 0xC0, 1, 0x80, 0xBF⟩
  else if 0xE0 ≤ byte ∧ byte ≤ 0xEF then
    some ⟨byte - 0xE0, 2, if byte = 0xE0 then 0xA0 else 0x80, if byte = 0xED then 0x9F else 0xBF⟩
  else if 0xF0 ≤ byte ∧ byte ≤ 0xF4 then
    some ⟨byte - 0xF0, 3, if byte = 0xF0 then 0x90 else 0x80, if byte = 0xF4 then 0x8F else 0xBF⟩
  else none

def freshByte (byte : Nat) : List Char × Option Begun :=
  if byte < 0x80 then ([Char.ofNat byte], none)
  else
    match begin? byte with
    | some begun => ([], some begun)
    | none => ([replacement], none)

def nextByte (begun : Option Begun) (byte : Nat) : List Char × Option Begun :=
  match begun with
  | none => freshByte byte
  | some ⟨bits, missing, low, high⟩ =>
    if low ≤ byte ∧ byte ≤ high then
      let bits := bits * 64 + (byte - 0x80)
      if missing ≤ 1 then ([Char.ofNat bits], none) else ([], some ⟨bits, missing - 1, 0x80, 0xBF⟩)
    else
      let (chars, begun) := freshByte byte
      (replacement :: chars, begun)

def ofUtf8From : Option Begun → List Nat → List Char
  | begun, [] => if begun.isSome then [replacement] else []
  | begun, byte :: rest =>
    let (chars, begun) := nextByte begun byte
    chars ++ ofUtf8From begun rest

def ofUtf8 (bytes : List Nat) : List Char := ofUtf8From none bytes

end Guildhall.Text
