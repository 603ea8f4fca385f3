import Guildhall.Yaml.Text
import Guildhall.Yaml.Token
import Guildhall.Yaml.Fault
import Guildhall.Text.Hex

/-!
Reading single tokens other than scalars: names, tags and directives. Every reader starts at its
first character and gives what is left behind its last one.
-/

namespace Guildhall.Yaml

def isWordChar (c : Char) : Bool := c.isAlphanum || c = '-' || c = '_'

def hexNumber (count : Nat) (source : Source) : Except Fault Nat :=
  let read := (List.range count).mapM fun k => Text.hexValue? (charAt source k)
  read.elim (.error .token) fun digits =>
    .ok (digits.foldl (fun total digit => 16 * total + digit) 0)

def skipSpaces (source : Source) : Source := beyond (· = ' ') source

def skipComment (source : Source) : Source :=
  if current source = '#' then beyond (fun c => !isBreakOrEnd c) source else source

def skipLineRest (source : Source) : Except Fault Source :=
  let rest := skipComment (skipSpaces source)
  if isBreak (current rest) then .ok (rest.drop 1)
  else if current rest = endMark then .ok rest
  else .error .token

def isNameEnd (c : Char) : Bool := isGap c || "?:,]\x7d%@\x60".toList.contains c

def readName (source : Source) : Except Fault (String × Source) :=
  let body := source.drop 1
  let name := front isWordChar body
  let rest := beyond isWordChar body
  if name.isEmpty || !isNameEnd (current rest) then .error .token
  else .ok (String.ofList name, rest)

def isTagChar (c : Char) : Bool :=
  c.isAlphanum || "-;/?:@&=+$,_.!~*'()[]%".toList.contains c

def readEscapes : (fuel : Nat) → Source → Except Fault (List Nat × Source)
  | 0, source => .ok ([], source)
  | fuel + 1, source =>
    if current source = '%' then do
      let byte ← hexNumber 2 (source.drop 1)
      let (bytes, rest) ← readEscapes fuel (source.drop 3)
      return (byte :: bytes, rest)
    else .ok ([], source)

def decodeBytes (bytes : List Nat) : Except Fault (List Char) :=
  match String.fromUTF8? (ByteArray.mk (bytes.map UInt8.ofNat).toArray) with
  | some text => .ok text.toList
  | none => .error .token

def readTagText : (fuel : Nat) → Source → Except Fault (List Char × Source)
  | 0, source => .ok ([], source)
  | fuel + 1, source =>
    if current source = '%' then do
      let (bytes, rest) ← readEscapes fuel source
      let text ← decodeBytes bytes
      let (more, rest) ← readTagText fuel rest
      return (text ++ more, rest)
    else if isTagChar (current source) then do
      let (more, rest) ← readTagText fuel (source.drop 1)
      return (current source :: more, rest)
    else .ok ([], source)

def readTagSuffix (source : Source) : Except Fault (String × Source) := do
  let (text, rest) ← readTagText source.length source
  if isTagChar (current source) then return (String.ofList text, rest) else .error .token

/-- A handle is one exclamation mark, or a word between two of them. -/
def readHandle (source : Source) : Except Fault (String × Source) :=
  if current source ≠ '!' then .error .token
  else
    let body := source.drop 1
    let word := front isWordChar body
    let rest := beyond isWordChar body
    if current body = ' ' then .ok ("!", body)
    else if current rest = '!' then .ok (String.ofList ('!' :: word ++ ['!']), rest.drop 1)
    else .error .token

def hasHandle (source : Source) : Bool :=
  (front (fun c => !isSpaceOrEnd c) (source.drop 1)).contains '!'

def readTag (source : Source) : Except Fault (Token × Source) := do
  let next := charAt source 1
  let (token, rest) ←
    if next = '<' then do
      let (suffix, rest) ← readTagSuffix (source.drop 2)
      if current rest = '>' then pure (Token.tag none suffix, rest.drop 1) else .error .token
    else if isGap next then pure (Token.tag none "!", source.drop 1)
    else do
      let (handle, rest) ←
        if hasHandle source then readHandle source else pure ("!", source.drop 1)
      let (suffix, rest) ← readTagSuffix rest
      pure (Token.tag (some handle) suffix, rest)
  if isSpaceOrEnd (current rest) then return (token, rest) else .error .token

def readNumber (source : Source) : Except Fault (Nat × Source) :=
  let digits := front Char.isDigit source
  if digits.isEmpty then .error .token
  else .ok (digits.foldl (fun total c => 10 * total + (c.toNat - '0'.toNat)) 0,
    beyond Char.isDigit source)

def readVersion (source : Source) : Except Fault (Directive × Source) := do
  let (major, rest) ← readNumber (skipSpaces source)
  if current rest ≠ '.' then .error .token
  let (minor, rest) ← readNumber (rest.drop 1)
  if isSpaceOrEnd (current rest) then return (.version major minor, rest) else .error .token

def readTagDirective (source : Source) : Except Fault (Directive × Source) := do
  let (handle, rest) ← readHandle (skipSpaces source)
  if current rest ≠ ' ' then .error .token
  let (expansion, rest) ← readTagSuffix (skipSpaces rest)
  if isSpaceOrEnd (current rest) then return (.tag handle expansion, rest) else .error .token

def readDirective (source : Source) : Except Fault (Token × Source) := do
  let body := source.drop 1
  let name := front isWordChar body
  let rest := beyond isWordChar body
  if name.isEmpty || !isSpaceOrEnd (current rest) then .error .token
  let (directive, rest) ←
    if name = "YAML".toList then readVersion rest
    else if name = "TAG".toList then readTagDirective rest
    else pure (Directive.other, beyond (fun c => !isBreakOrEnd c) rest)
  return (.directive directive, ← skipLineRest rest)

end Guildhall.Yaml
