/-!
Blank characters, and text without the blanks at its ends.
-/

namespace Guildhall.Text

def isAsciiBlank (c : Char) : Bool :=
  c = ' ' || (9 ≤ c.toNat && c.toNat ≤ 13)

/-- Unicode white space together with the four separator controls `U+001C` to `U+001F`. -/
def isBlank (c : Char) : Bool :=
  isAsciiBlank c || (0x1C ≤ c.toNat && c.toNat ≤ 0x1F) || c.toNat = 0x85 || c.toNat = 0xA0 ||
    c.toNat = 0x1680 || (0x2000 ≤ c.toNat && c.toNat ≤ 0x200A) || c.toNat = 0x2028 ||
    c.toNat = 0x2029 || c.toNat = 0x202F || c.toNat = 0x205F || c.toNat = 0x3000

def isSpace (c : Char) : Bool :=
  isBlank c && !(0x1C ≤ c.toNat && c.toNat ≤ 0x1F)

def strip (blank : Char → Bool) (text : List Char) : List Char :=
  ((text.dropWhile blank).reverse.dropWhile blank).reverse

end Guildhall.Text
