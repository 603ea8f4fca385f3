import Guildhall.Yaml.Scalar

/-!
The tokens of a document. Block collections are bounded by indentation, and a key may be recognised
only at the colon behind it; its tokens then go in front of what was read since. A token is handed
on as soon as no key can go in front of it, so that a fault stops only what comes behind it.
-/

namespace Guildhall.Yaml

/-- A place where a key without a mark may have begun. -/
structure SimpleKey where
  level : Nat
  number : Nat
  required : Bool
  index : Nat
  line : Nat
  column : Nat
  deriving DecidableEq, Repr

/-- The state of the scanner. Tokens that are not yet handed on wait in `queue`; `level` counts the
flow collections around the current place. -/
structure Scanner where
  source : Source
  indent : Int
  indents : List Int
  level : Nat
  allowsKey : Bool
  keys : List SimpleKey
  queue : List Token
  taken : Nat
  finished : Bool
  deriving Repr

def keyLimit : Nat := 1024

namespace Scanner

def start (text : List Char) : Scanner :=
  ⟨placed text, -1, [], 0, true, [], [], 0, false⟩

def inFlow (s : Scanner) : Bool := 0 < s.level

def push (token : Token) (s : Scanner) : Scanner := { s with queue := s.queue ++ [token] }

def moveTo (source : Source) (s : Scanner) : Scanner := { s with source := source }

def allow (allowed : Bool) (s : Scanner) : Scanner := { s with allowsKey := allowed }

def isStale (s : Scanner) (key : SimpleKey) : Bool :=
  key.line ≠ lineOf s.source || keyLimit < indexOf s.source - key.index

def dropStale (s : Scanner) : Except Fault Scanner :=
  if s.keys.any fun key => s.isStale key && key.required then .error .token
  else .ok { s with keys := s.keys.filter fun key => !s.isStale key }

def dropKey (s : Scanner) : Except Fault Scanner :=
  if s.keys.any fun key => key.level = s.level && key.required then .error .token
  else .ok { s with keys := s.keys.filter fun key => key.level ≠ s.level }

def saveKey (s : Scanner) : Except Fault Scanner :=
  if s.allowsKey then do
    let kept ← s.dropKey
    let key : SimpleKey :=
      ⟨s.level, s.taken + s.queue.length, !s.inFlow && decide (s.indent = columnOf s.source),
        indexOf s.source, lineOf s.source, columnOf s.source⟩
    return { kept with keys := key :: kept.keys }
  else .ok s

def unwound (column : Int) : (indent : Int) → (outer : List Int) → Int × List Int × Nat
  | indent, [] => (indent, [], 0)
  | indent, next :: outer =>
    if column < indent then
      let (indent, outer, ended) := unwound column next outer
      (indent, outer, ended + 1)
    else (indent, next :: outer, 0)

def unwind (column : Int) (s : Scanner) : Scanner :=
  if s.inFlow then s
  else
    let (indent, indents, ended) := unwound column s.indent s.indents
    { s with
      indent := indent
      indents := indents
      queue := s.queue ++ List.replicate ended .blockEnd }

def isDeeper (column : Nat) (s : Scanner) : Bool := s.indent < column

def deepen (column : Nat) (s : Scanner) : Scanner :=
  if s.isDeeper column then { s with indent := column, indents := s.indent :: s.indents } else s

def skipToToken : (inComment broke : Bool) → Source → Bool × Source
  | _, broke, [] => (broke, [])
  | inComment, broke, place :: rest =>
    if isBreak place.char then skipToToken false true rest
    else if place.char = endMark then (broke, place :: rest)
    else if inComment then skipToToken true broke rest
    else if place.char = ' ' then skipToToken false broke rest
    else if place.char = '#' then skipToToken true broke rest
    else (broke, place :: rest)

def toNextToken (s : Scanner) : Scanner :=
  let source :=
    if indexOf s.source = 0 ∧ current s.source = byteOrderMark then s.source.drop 1 else s.source
  let (broke, rest) := skipToToken false false source
  { s with source := rest, allowsKey := s.allowsKey || (broke && !s.inFlow) }

def advance (count : Nat) (s : Scanner) : Scanner := s.moveTo (s.source.drop count)

def streamEnd (s : Scanner) : Except Fault Scanner := do
  let s ← (s.unwind (-1)).dropKey
  return { (s.push .streamEnd) with allowsKey := false, keys := [], finished := true }

def directive (s : Scanner) : Except Fault Scanner := do
  let s ← (s.unwind (-1)).dropKey
  let (token, rest) ← readDirective s.source
  return ((s.allow false).push token).moveTo rest

def separator (token : Token) (s : Scanner) : Except Fault Scanner := do
  let s ← (s.unwind (-1)).dropKey
  return ((s.allow false).push token).advance 3

def flowStart (token : Token) (s : Scanner) : Except Fault Scanner := do
  let s ← s.saveKey
  return { ((s.allow true).push token).advance 1 with level := s.level + 1 }

def flowEnd (token : Token) (s : Scanner) : Except Fault Scanner := do
  let s ← s.dropKey
  return { ((s.allow false).push token).advance 1 with level := s.level - 1 }

def flowEntry (s : Scanner) : Except Fault Scanner := do
  let s ← (s.allow true).dropKey
  return (s.push .flowEntry).advance 1

def openBlock (token : Token) (s : Scanner) : Except Fault Scanner :=
  if s.inFlow then .ok s
  else if !s.allowsKey then .error .token
  else if s.isDeeper (columnOf s.source) then .ok ((s.push token).deepen (columnOf s.source))
  else .ok s

def blockEntry (s : Scanner) : Except Fault Scanner := do
  let s ← s.openBlock .blockListStart
  let s ← (s.allow true).dropKey
  return (s.push .blockEntry).advance 1

def key (s : Scanner) : Except Fault Scanner := do
  let s ← s.openBlock .blockMapStart
  let s ← (s.allow !s.inFlow).dropKey
  return (s.push .key).advance 1

/-- The colon behind a key without a mark puts the key's tokens in front of it. -/
def valueOfKey (found : SimpleKey) (s : Scanner) : Scanner :=
  let place := found.number - s.taken
  let opens := !s.inFlow && s.isDeeper found.column
  let opening := if opens then [Token.blockMapStart, .key] else [.key]
  let s := { s with
    keys := s.keys.filter fun key => key.level ≠ s.level
    queue := s.queue.take place ++ opening ++ s.queue.drop place
    allowsKey := false }
  let s := if opens then s.deepen found.column else s
  (s.push .value).advance 1

def value (s : Scanner) : Except Fault Scanner :=
  match s.keys.find? fun key => key.level = s.level with
  | some found => .ok (s.valueOfKey found)
  | none => do
    let s ← s.openBlock .blockMapStart
    let s ← (s.allow !s.inFlow).dropKey
    return (s.push .value).advance 1

def keyed (read : Source → Except Fault (Token × Source)) (s : Scanner) : Except Fault Scanner := do
  let s ← s.saveKey
  let (token, rest) ← read s.source
  return ((s.allow false).push token).moveTo rest

def named (token : String → Token) (source : Source) : Except Fault (Token × Source) := do
  let (name, rest) ← readName source
  return (token name, rest)

def quoted (source : Source) : Except Fault (Token × Source) := do
  let (text, rest) ← readQuoted source
  return (.scalar text false, rest)

def block (s : Scanner) : Except Fault Scanner := do
  let s ← (s.allow true).dropKey
  let (text, rest) ← readBlock s.indent s.source
  return (s.push (.scalar text false)).moveTo rest

def plain (s : Scanner) : Except Fault Scanner := do
  let s ← s.saveKey
  let (text, crossed, rest) := plainText s.inFlow (s.indent + 1) s.source.length s.source
  return ((s.allow crossed).push (.scalar (String.ofList text) true)).moveTo rest

def indicators : List Char := "-?:,[]\x7b\x7d#&*!|>'\"%@\x60".toList

def beginsPlain (s : Scanner) : Bool :=
  let c := current s.source
  let next := charAt s.source 1
  !(isGap c || indicators.contains c) ||
    (!isGap next && (c = '-' || (!s.inFlow && (c = '?' || c = ':'))))

def marks (s : Scanner) : Bool := s.inFlow || isGap (charAt s.source 1)

def fetch (s : Scanner) : Except Fault Scanner := do
  let s ← s.toNextToken.dropStale
  let s := s.unwind (columnOf s.source)
  let c := current s.source
  let atMargin := columnOf s.source = 0
  if c = endMark then s.streamEnd
  else if c = '%' ∧ atMargin then s.directive
  else if c = '-' ∧ atMargin ∧ isSeparator s.source then s.separator .documentStart
  else if c = '.' ∧ atMargin ∧ isSeparator s.source then s.separator .documentEnd
  else if c = '[' then s.flowStart .flowListStart
  else if c = '\x7b' then s.flowStart .flowMapStart
  else if c = ']' then s.flowEnd .flowListEnd
  else if c = '\x7d' then s.flowEnd .flowMapEnd
  else if c = ',' then s.flowEntry
  else if c = '-' ∧ isGap (charAt s.source 1) then s.blockEntry
  else if c = '?' ∧ s.marks then s.key
  else if c = ':' ∧ s.marks then s.value
  else if c = '*' then s.keyed (named .alias)
  else if c = '&' then s.keyed (named .anchor)
  else if c = '!' then s.keyed readTag
  else if (c = '|' ∨ c = '>') ∧ !s.inFlow then s.block
  else if c = '\'' ∨ c = '"' then s.keyed quoted
  else if s.beginsPlain then s.plain
  else .error .token

def handOn : (held : Nat → Bool) → (taken : Nat) → List Token → List Token × Nat × List Token
  | _, taken, [] => ([], taken, [])
  | held, taken, token :: rest =>
    if held taken then ([], taken, token :: rest)
    else
      let (handed, taken, waiting) := handOn held (taken + 1) rest
      (token :: handed, taken, waiting)

def isHeld (s : Scanner) (number : Nat) : Bool := s.keys.any fun key => key.number = number

abbrev Scanned := List Token × Option Fault

/-- Fetches and hands on until the end. Every fetch reads a character or finishes. -/
def run : (fuel : Nat) → Scanner → Scanned
  | 0, _ => ([], some .token)
  | fuel + 1, s =>
    if s.finished then (s.queue, none)
    else
      match s.fetch with
      | .error fault => ([], some fault)
      | .ok s =>
        match s.dropStale with
        | .error fault => ([], some fault)
        | .ok s =>
          let (handed, taken, waiting) := handOn s.isHeld s.taken s.queue
          let (rest, fault) := run fuel { s with taken := taken, queue := waiting }
          (handed ++ rest, fault)

end Scanner

def tokensOf (text : List Char) : Scanner.Scanned :=
  if text.all isAllowed then Scanner.run (text.length + 2) (.start text)
  else ([], some .character)

end Guildhall.Yaml
