/-!
Capital and small letters as far as a comparison with an ASCII word can see them.
-/

namespace Guildhall.Text

/-- The capital form of a letter. A letter whose capital form has no ASCII letter in it is left
alone, since no ASCII word can match either form. -/
def capital (c : Char) : List Char :=
  match c.toNat with
  | 0xDF => ['S', 'S']
  | 0x131 => ['I']
  | 0x149 => [Char.ofNat 0x2BC, 'N']
  | 0x17F => ['S']
  | 0x1F0 => ['J', Char.ofNat 0x30C]
  | 0x1E96 => ['H', Char.ofNat 0x331]
  | 0x1E97 => ['T', Char.ofNat 0x308]
  | 0x1E98 => ['W', Char.ofNat 0x30A]
  | 0x1E99 => ['Y', Char.ofNat 0x30A]
  | 0x1E9A => ['A', Char.ofNat 0x2BE]
  | 0xFB00 => ['F', 'F']
  | 0xFB01 => ['F', 'I']
  | 0xFB02 => ['F', 'L']
  | 0xFB03 => ['F', 'F', 'I']
  | 0xFB04 => ['F', 'F', 'L']
  | 0xFB05 => ['S', 'T']
  | 0xFB06 => ['S', 'T']
  | _ => [c.toUpper]

def capitals (text : String) : String := String.ofList (text.toList.flatMap capital)

def small (c : Char) : List Char :=
  match c.toNat with
  | 0x130 => ['i', Char.ofNat 0x307]
  | 0x212A => ['k']
  | _ => [c.toLower]

def smalls (text : String) : String := String.ofList (text.toList.flatMap small)

def infixOf (needle : List Char) : List Char → Bool
  | [] => needle.isEmpty
  | text@(_ :: rest) => needle.isPrefixOf text || infixOf needle rest

def contains (text needle : String) : Bool := infixOf needle.toList text.toList

end Guildhall.Text
