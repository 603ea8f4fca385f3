import Guildhall.Text.Utf8
import Guildhall.Text.Hex

/-!
Text in addresses: bytes that are not allowed there stand as a percent sign and two hexadecimal
digits.
-/

namespace Guildhall.Text

/-- A percent sign without two digits behind it stands for itself. -/
def percentBytes : List Char → List Nat
  | [] => []
  | '%' :: a :: b :: rest =>
    match hexValue? a, hexValue? b with
    | some high, some low => (16 * high + low) :: percentBytes rest
    | _, _ => utf8Char '%' ++ percentBytes (a :: b :: rest)
  | c :: rest => utf8Char c ++ percentBytes rest

def ofPercent (text : List Char) : List Char := ofUtf8 (percentBytes text)

def percentByte (byte : Nat) : List Char := '%' :: (hexDigits 2 byte).map Char.toUpper

def isPlain (c : Char) : Bool := c.isAlphanum || c = '_' || c = '.' || c = '-' || c = '~'

def percent (allowed : List Char) (text : List Char) : List Char :=
  text.flatMap fun c =>
    if isPlain c || allowed.contains c then [c] else (utf8Char c).flatMap percentByte

end Guildhall.Text
