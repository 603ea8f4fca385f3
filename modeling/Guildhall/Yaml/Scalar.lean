import Guildhall.Text.Utf8
import Guildhall.Yaml.Lexeme

/-!
Reading scalars: plain, in quotes, and as blocks. A single line break inside a scalar becomes a
space; blank lines are kept.
-/

namespace Guildhall.Yaml

def endsWord (flow : Bool) (c next : Char) : Bool :=
  isGap c || (c = ':' && (isGap next || (flow && ",[]\x7b\x7d".toList.contains next))) ||
    (flow && ",?[]\x7b\x7d".toList.contains c)

def plainWord (flow : Bool) : Source → List Char × Source
  | [] => ([], [])
  | place :: rest =>
    if endsWord flow place.char (current rest) then ([], place :: rest)
    else
      let (word, tail) := plainWord flow rest
      (place.char :: word, tail)

def plainBreaks : Source → Option (List Char) × Source
  | [] => (some [], [])
  | place :: rest =>
    if place.char = ' ' then plainBreaks rest
    else if isBreak place.char then
      if isSeparator rest then (none, rest)
      else
        let (breaks, tail) := plainBreaks rest
        (breaks.map (breakText place.char :: ·), tail)
    else (some [], place :: rest)

def folded (lineBreak : Char) (breaks : List Char) : List Char :=
  if lineBreak ≠ '\n' then lineBreak :: breaks else if breaks.isEmpty then [' '] else breaks

def plainGap (source : Source) : List Char × Bool × Source :=
  let spaces := front (· = ' ') source
  match beyond (· = ' ') source with
  | [] => (spaces, false, [])
  | place :: rest =>
    if isBreak place.char then
      if isSeparator rest then ([], true, rest)
      else
        match plainBreaks rest with
        | (none, tail) => ([], true, tail)
        | (some breaks, tail) => (folded (breakText place.char) breaks, true, tail)
    else (spaces, false, place :: rest)

def plainText (flow : Bool) (indent : Int) : (fuel : Nat) → Source → List Char × Bool × Source
  | 0, source => ([], false, source)
  | fuel + 1, source =>
    let (word, rest) := plainWord flow source
    let (gap, crossed, tail) := plainGap rest
    if gap.isEmpty || current tail = '#' || (!flow && decide ((columnOf tail : Int) < indent)) then
      (word, crossed, tail)
    else
      let (next, _) := plainWord flow tail
      if next.isEmpty then (word, crossed, tail)
      else
        let (more, crossed, tail) := plainText flow indent fuel tail
        (word ++ gap ++ more, crossed, tail)

def quotedBreaks : (fuel : Nat) → Source → Except Fault ((List Char) × Source)
  | 0, source => .ok ([], source)
  | fuel + 1, source =>
    if isSeparator source then .error .token
    else
      let rest := beyond isBlank source
      if isBreak (current rest) then do
        let (breaks, tail) ← quotedBreaks fuel (rest.drop 1)
        return (breakText (current rest) :: breaks, tail)
      else .ok ([], rest)

def quotedGap (source : Source) : Except Fault ((List Char) × Source) :=
  let rest := beyond isBlank source
  if current rest = endMark then .error .token
  else if isBreak (current rest) then do
    let (breaks, tail) ← quotedBreaks rest.length (rest.drop 1)
    return (folded (breakText (current rest)) breaks, tail)
  else .ok (front isBlank source, rest)

def escapes : List (Char × Nat) := [
  ('0', 0x00), ('a', 0x07), ('b', 0x08), ('t', 0x09), ('\t', 0x09), ('n', 0x0A), ('v', 0x0B),
  ('f', 0x0C), ('r', 0x0D), ('e', 0x1B), (' ', 0x20), ('"', 0x22), ('\\', 0x5C), ('/', 0x2F),
  ('N', 0x85), ('_', 0xA0), ('L', 0x2028), ('P', 0x2029)]

def escapeWidths : List (Char × Nat) := [('x', 2), ('u', 4), ('U', 8)]

/-- Half of a surrogate pair is no character; another one stands in for it. -/
def characterOf (code : Nat) : Char :=
  if code.isValidChar then Char.ofNat code else Text.replacement

def readEscape (source : Source) : Except Fault ((List Char) × Source) :=
  let c := current source
  match escapes.lookup c, escapeWidths.lookup c with
  | some code, _ => .ok ([Char.ofNat code], source.drop 1)
  | none, some width => do
    let code ← hexNumber width (source.drop 1)
    if code < 0x110000 then return ([characterOf code], source.drop (width + 1))
    else .error (.text (.codePoint code))
  | none, none =>
    if isBreak c then quotedBreaks source.length (source.drop 1) else .error .token

/-- The text up to the closing quote. In single quotes a quote is written twice; in double quotes a
backslash escapes. -/
def quotedText (quote : Char) : (fuel : Nat) → Source → Except Fault ((List Char) × Source)
  | 0, _ => .error .token
  | fuel + 1, source => do
    let c := current source
    if c = quote then
      if quote = '\'' ∧ charAt source 1 = quote then
        let (more, rest) ← quotedText quote fuel (source.drop 2)
        return (quote :: more, rest)
      else return ([], source.drop 1)
    else
      let (part, rest) ←
        if c = '\\' ∧ quote = '"' then readEscape (source.drop 1)
        else if isGap c then quotedGap source
        else pure ([c], source.drop 1)
      let (more, rest) ← quotedText quote fuel rest
      return (part ++ more, rest)

def readQuoted (source : Source) : Except Fault (String × Source) := do
  let (text, rest) ← quotedText (current source) source.length (source.drop 1)
  return (String.ofList text, rest)

inductive Chomping where
  | strip
  | clip
  | keep
  deriving DecidableEq, Repr

def chomping? (c : Char) : Option Chomping :=
  if c = '+' then some .keep else if c = '-' then some .strip else none

def increment? (c : Char) : Option Nat := if c.isDigit then some (c.toNat - '0'.toNat) else none

def blockHeader (source : Source) : Except Fault ((Chomping × Option Nat) × Source) := do
  let (chomping, increment, rest) :=
    match chomping? (current source) with
    | some chomping =>
      match increment? (charAt source 1) with
      | some n => (chomping, some n, source.drop 2)
      | none => (chomping, none, source.drop 1)
    | none =>
      match increment? (current source) with
      | some n =>
        match chomping? (charAt source 1) with
        | some chomping => (chomping, some n, source.drop 2)
        | none => (Chomping.clip, some n, source.drop 1)
      | none => (Chomping.clip, none, source)
  if increment = some 0 || !isSpaceOrEnd (current rest) then .error .token
  return ((chomping, increment), ← skipLineRest rest)

def blockFront : (widest : Nat) → Source → List Char × Nat × Source
  | widest, [] => ([], widest, [])
  | widest, place :: rest =>
    if place.char = ' ' then blockFront (max widest (columnOf rest)) rest
    else if isBreak place.char then
      let (breaks, widest, tail) := blockFront widest rest
      (breakText place.char :: breaks, widest, tail)
    else ([], widest, place :: rest)

def blockBreaks (indent : Nat) : Source → List Char × Source
  | [] => ([], [])
  | place :: rest =>
    if place.char = ' ' ∧ place.column < indent then blockBreaks indent rest
    else if isBreak place.char then
      let (breaks, tail) := blockBreaks indent rest
      (breakText place.char :: breaks, tail)
    else ([], place :: rest)

/-- The lines of a block. Gives the text before the last line break, that break, and the blank
lines behind it. -/
def blockLines (fold : Bool) (indent : Nat) :
    (fuel : Nat) → (breaks : List Char) → Source → List Char × List Char × List Char × Source
  | 0, breaks, source => ([], [], breaks, source)
  | fuel + 1, breaks, source =>
    let line := front (fun c => !isBreakOrEnd c) source
    let rest := beyond (fun c => !isBreakOrEnd c) source
    let lineBreak := if isBreak (current rest) then [breakText (current rest)] else []
    let (after, tail) := blockBreaks indent (if isBreak (current rest) then rest.drop 1 else rest)
    if columnOf tail = indent ∧ current tail ≠ endMark then
      let joined := fold && decide (lineBreak = ['\n']) && !isBlank (current source) &&
        !isBlank (current tail)
      let between := if joined then (if after.isEmpty then [' '] else []) else lineBreak
      let (more, last, end', tail) := blockLines fold indent fuel after tail
      (breaks ++ line ++ between ++ more, last, end', tail)
    else (breaks ++ line, lineBreak, after, tail)

def readBlock (indent : Int) (source : Source) : Except Fault (String × Source) := do
  let ((chomping, increment), rest) ← blockHeader (source.drop 1)
  let least := (max 1 (indent + 1)).toNat
  let (column, breaks, rest) :=
    match increment with
    | some n =>
      let column := least + n - 1
      let (breaks, rest) := blockBreaks column rest
      (column, breaks, rest)
    | none =>
      let (breaks, widest, rest) := blockFront 0 rest
      (max least widest, breaks, rest)
  let (text, last, after, rest) :=
    if columnOf rest = column ∧ current rest ≠ endMark then
      blockLines (current source = '>') column rest.length breaks rest
    else ([], [], breaks, rest)
  let chomped := match chomping with
    | .strip => text
    | .clip => text ++ last
    | .keep => text ++ last ++ after
  return (String.ofList chomped, rest)

end Guildhall.Yaml
