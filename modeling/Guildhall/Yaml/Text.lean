/-!
The characters of a document, each with its place. A null character marks the end, so that there is
always a character to look at.
-/

namespace Guildhall.Yaml

structure Placed where
  char : Char
  index : Nat
  line : Nat
  column : Nat
  deriving DecidableEq, Repr

abbrev Source := List Placed

def endMark : Char := Char.ofNat 0
def byteOrderMark : Char := Char.ofNat 0xFEFF

def isAllowed (c : Char) : Bool :=
  let n := c.toNat
  n = 0x09 || n = 0x0A || n = 0x0D || (0x20 ≤ n && n ≤ 0x7E) || n = 0x85 ||
    (0xA0 ≤ n && n ≤ 0xD7FF) || (0xE000 ≤ n && n ≤ 0xFFFD) || 0x10000 ≤ n

def isBreak (c : Char) : Bool :=
  c = '\n' || c.toNat = 0x85 || c.toNat = 0x2028 || c.toNat = 0x2029

def isBreakOrEnd (c : Char) : Bool := c = endMark || isBreak c
def isSpaceOrEnd (c : Char) : Bool := c = ' ' || isBreakOrEnd c
def isGap (c : Char) : Bool := c = '\t' || isSpaceOrEnd c
def isBlank (c : Char) : Bool := c = ' ' || c = '\t'

/-- The text of a break in a scalar: the plain breaks all count as a line feed. -/
def breakText (c : Char) : Char := if c.toNat = 0x2028 ∨ c.toNat = 0x2029 then c else '\n'

/-- A carriage return, alone or with a line feed behind it, is one line feed. -/
def unifyBreaks : List Char → List Char
  | '\r' :: '\n' :: rest => '\n' :: unifyBreaks rest
  | '\r' :: rest => '\n' :: unifyBreaks rest
  | c :: rest => c :: unifyBreaks rest
  | [] => []

def placeFrom : (index line column : Nat) → List Char → Source
  | index, line, column, [] => [⟨endMark, index, line, column⟩]
  | index, line, column, c :: rest =>
    ⟨c, index, line, column⟩ ::
      if isBreak c then placeFrom (index + 1) (line + 1) 0 rest
      else placeFrom (index + 1) line (if c = byteOrderMark then column else column + 1) rest

def placed (text : List Char) : Source := placeFrom 0 0 0 text

def charAt (source : Source) (k : Nat) : Char :=
  match source[k]? with
  | some place => place.char
  | none => endMark

def current (source : Source) : Char := charAt source 0

def columnOf (source : Source) : Nat := (source.head?.map Placed.column).getD 0
def lineOf (source : Source) : Nat := (source.head?.map Placed.line).getD 0
def indexOf (source : Source) : Nat := (source.head?.map Placed.index).getD 0

def front (p : Char → Bool) (source : Source) : List Char :=
  (source.takeWhile fun place => p place.char).map Placed.char

def beyond (p : Char → Bool) (source : Source) : Source :=
  source.dropWhile fun place => p place.char

def isSeparator (source : Source) : Bool :=
  let mark := (source.take 3).map Placed.char
  (mark = ['-', '-', '-'] || mark = ['.', '.', '.']) && isGap (charAt source 3)

end Guildhall.Yaml
