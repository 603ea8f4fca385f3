/-!
Patterns that stand for whole texts. A percent sign stands for any run of characters, an underscore
for any single one, and a character behind a backslash for itself.
-/

namespace Guildhall.Text

inductive PatternPart where
  | run
  | any
  | just (c : Char)
  deriving DecidableEq, Repr

abbrev Pattern := List PatternPart

def someEnd (p : List Char → Bool) : List Char → Bool
  | [] => p []
  | c :: rest => p (c :: rest) || someEnd p rest

namespace Pattern

def read : List Char → Option Pattern
  | [] => some []
  | ['\\'] => none
  | '\\' :: c :: rest => (read rest).map (.just c :: ·)
  | '%' :: rest => (read rest).map (.run :: ·)
  | '_' :: rest => (read rest).map (.any :: ·)
  | c :: rest => (read rest).map (.just c :: ·)

def accepts : Pattern → List Char → Bool
  | [], text => text.isEmpty
  | .run :: rest, text => someEnd (accepts rest) text
  | .any :: rest, _ :: text => accepts rest text
  | .just c :: rest, d :: text => c = d && accepts rest text
  | .any :: _, [] | .just _ :: _, [] => false

def marks : List Char := ['\\', '%', '_']

/-- The way to write a text in a pattern so that it stands for itself. -/
def escaped (text : List Char) : List Char :=
  text.flatMap fun c => if marks.contains c then ['\\', c] else [c]

def around (text : List Char) : List Char := '%' :: escaped text ++ ['%']

end Pattern

end Guildhall.Text
