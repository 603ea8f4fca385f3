import Guildhall.Text.Pattern

/-!
Search for a text within another one. The query is made into a pattern; letters of ASCII match in
either case, and neither in the pattern nor in the content is anything looked at behind a null
character.
-/

namespace Guildhall.Text

def nul : Char := Char.ofNat 0

def searched (text : List Char) : List Char :=
  (text.takeWhile fun c => c ≠ nul).map Char.toLower

def found (query content : String) : Bool :=
  match Pattern.read (searched (Pattern.around query.toList)) with
  | some pattern => pattern.accepts (searched content.toList)
  | none => false

def patternLimit : Nat := 50000

def patternSize (query : String) : Nat :=
  (String.ofList (Pattern.around query.toList)).utf8ByteSize

end Guildhall.Text
