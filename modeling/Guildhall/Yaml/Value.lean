import Guildhall.Calendar.DateTime
import Guildhall.Decimal.Shortest
import Guildhall.Decimal.Misread
import Guildhall.Text.Quoted

/-!
The values of a document, and their text forms: the bare form of a text or a time is what it says,
the shown form tells the kinds apart.
-/

namespace Guildhall.Yaml

open Calendar

inductive Value where
  | null
  | flag (value : Bool)
  | int (value : Int)
  | real (value : Binary64)
  | text (value : String)
  | bytes (values : List Nat)
  | date (value : Day)
  | time (value : DateTime)
  | list (items : List Value)
  /-- A list of pairs, whose keys may be of any kind and occur more than once. -/
  | pairs (fields : List (Value × Value))
  | map (fields : List (Value × Value))
  | set (items : List Value)
  /-- A list or map around, which holds this value itself. -/
  | loop (isMap : Bool)
  deriving Repr

def byteDigits (n : Nat) : List Char := Text.hexDigits 2 n

def byteText (quote : Char) (byte : Nat) : List Char :=
  let c := Char.ofNat byte
  if c = quote ∨ c = '\\' then ['\\', c]
  else if c = '\t' then ['\\', 't']
  else if c = '\n' then ['\\', 'n']
  else if c = '\r' then ['\\', 'r']
  else if byte < 0x20 ∨ 0x7F ≤ byte then '\\' :: 'x' :: byteDigits byte
  else [c]

def bytesText (bytes : List Nat) : String :=
  let holds (c : Char) : Bool := bytes.contains c.toNat
  let quote := if holds '\'' && !holds '"' then '"' else '\''
  String.ofList ('b' :: quote :: bytes.flatMap (byteText quote) ++ [quote])

def commas (parts : List String) : String := ", ".intercalate parts

def clockParts (w : WallTime) : List String :=
  [toString w.hour, toString w.minute] ++
    (if w.micro ≠ 0 then [toString w.second, toString w.micro]
    else if w.second ≠ 0 then [toString w.second] else [])

def zoneText (minutes : Int) : String :=
  if minutes = 0 then "datetime.timezone.utc"
  else
    let seconds := minutes * 60
    let days := seconds.fdiv 86400
    let rest := seconds.fmod 86400
    "datetime.timezone(datetime.timedelta(" ++
      commas ((if days = 0 then [] else [s!"days={days}"]) ++
        (if rest = 0 then [] else [s!"seconds={rest}"])) ++ "))"

def dateShown (d : Day) : String := s!"datetime.date({d.year}, {d.month}, {d.day})"

def timeShown (t : DateTime) : String :=
  let w := t.wall
  "datetime.datetime(" ++
    commas ([toString w.year, toString w.month, toString w.day] ++ clockParts w ++
      (t.offset.map fun minutes => "tzinfo=" ++ zoneText minutes).toList) ++ ")"

namespace Value

mutual

def shown : Value → String
  | .null => "None"
  | .flag b => if b then "True" else "False"
  | .int n => toString n
  | .real x => x.text
  | .text s => Text.quoted s
  | .bytes values => bytesText values
  | .date d => dateShown d
  | .time t => timeShown t
  | .list items => "[" ++ commas (shownItems items) ++ "]"
  | .pairs fields => "[" ++ commas (shownPairs fields) ++ "]"
  | .map fields => "\x7b" ++ commas (shownFields fields) ++ "\x7d"
  | .set items => if items.isEmpty then "set()" else "\x7b" ++ commas (shownItems items) ++ "\x7d"
  | .loop isMap => if isMap then "\x7b...\x7d" else "[...]"

def shownItems : List Value → List String
  | [] => []
  | item :: rest => item.shown :: shownItems rest

def shownPairs : List (Value × Value) → List String
  | [] => []
  | (key, value) :: rest => ("(" ++ key.shown ++ ", " ++ value.shown ++ ")") :: shownPairs rest

def shownFields : List (Value × Value) → List String
  | [] => []
  | (key, value) :: rest => (key.shown ++ ": " ++ value.shown) :: shownFields rest

end

def bare : Value → String
  | .text s => s
  | .date d =>
    String.ofList (dateText ⟨d.year.toNat, d.month, d.day, 0, 0, 0, 0⟩)
  | .time t =>
    String.ofList (dateText t.wall ++ ' ' :: clockText t.wall ++ fractionText t.wall ++
      (t.offset.map offsetText).getD [])
  | value => value.shown

mutual

def isWritable : Value → Bool
  | .int n => Decimal.isWritable n
  | .list items | .set items => areWritable items
  | .pairs fields | .map fields => haveWritable fields
  | _ => true

def areWritable : List Value → Bool
  | [] => true
  | item :: rest => item.isWritable && areWritable rest

def haveWritable : List (Value × Value) → Bool
  | [] => true
  | (key, value) :: rest => key.isWritable && value.isWritable && haveWritable rest

end

def isEmpty : Value → Bool
  | .null => true
  | .flag b => !b
  | .int n => n = 0
  | .real x => x.isZero
  | .text s => s.isEmpty
  | .bytes values => values.isEmpty
  | .list items => items.isEmpty
  | .pairs fields | .map fields => fields.isEmpty
  | .set items => items.isEmpty
  | .date _ | .time _ | .loop _ => false

def isKey : Value → Bool
  | .list _ | .pairs _ | .map _ | .set _ | .loop _ => false
  | _ => true

def integer? : Value → Option Int
  | .flag b => some (if b then 1 else 0)
  | .int n => some n
  | .real x => x.whole?
  | _ => none

/-- Equal keys: numbers by their value, times by their instant where both have an offset. -/
def sameKey (a b : Value) : Bool :=
  match a.integer?, b.integer? with
  | some m, some n => m = n
  | none, none =>
    match a, b with
    | .null, .null => true
    | .real x, .real y => x = y
    | .text s, .text t => s = t
    | .bytes s, .bytes t => s = t
    | .date d, .date e => d = e
    | .time t, .time u =>
      if t.offset.isSome && u.offset.isSome then t.instant = u.instant
      else t.offset.isNone && u.offset.isNone && decide (t.wall = u.wall)
    | _, _ => false
  | _, _ => false

def insert (fields : List (Value × Value)) (key value : Value) : List (Value × Value) :=
  if fields.any fun field => field.1.sameKey key then
    fields.map fun field => if field.1.sameKey key then (field.1, value) else field
  else fields ++ [(key, value)]

def ofFields (fields : List (Value × Value)) : List (Value × Value) :=
  fields.foldl (fun built field => insert built field.1 field.2) []

end Value

end Guildhall.Yaml
