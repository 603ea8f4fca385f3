import Guildhall.Yaml.Node
import Guildhall.Yaml.Number
import Guildhall.Yaml.Value
import Guildhall.Text.Capital

/-!
The value of a document. Scalars are read as their tag says. The nodes of a collection are made
into values before those further down, so that of several faults the one nearest to the top counts.
-/

namespace Guildhall.Yaml

open Calendar

def flagOf? (word : String) : Option Bool :=
  if ["yes", "true", "on"].contains word then some true
  else if ["no", "false", "off"].contains word then some false
  else none

def sextet? (c : Char) : Option Nat :=
  if 'A' ≤ c ∧ c ≤ 'Z' then some (c.toNat - 'A'.toNat)
  else if 'a' ≤ c ∧ c ≤ 'z' then some (c.toNat - 'a'.toNat + 26)
  else if c.isDigit then some (c.toNat - '0'.toNat + 52)
  else if c = '+' then some 62
  else if c = '/' then some 63
  else none

/-- Bytes of text in base 64: four characters stand for three bytes, and a last group that is short
is filled up. Other characters are passed over. -/
def bytesOf : (group : List Nat) → (fill : Nat) → List Char → Option (List Nat)
  | group, _, [] => if group.isEmpty then some [] else none
  | group, fill, c :: rest =>
    if c = '=' then
      if 2 ≤ group.length ∧ 4 ≤ group.length + fill + 1 then some []
      else bytesOf group (if 2 ≤ group.length then fill + 1 else fill) rest
    else
      match sextet? c, group with
      | none, _ => bytesOf group fill rest
      | some d, [] => bytesOf [d] 0 rest
      | some d, [a] => (bytesOf [a, d] 0 rest).map ((a * 4 + d / 16) :: ·)
      | some d, [a, b] => (bytesOf [a, b, d] 0 rest).map ((b % 16 * 16 + d / 4) :: ·)
      | some d, [_, _, c] => (bytesOf [] 0 rest).map ((c % 4 * 64 + d) :: ·)
      | some _, _ => none

def checkDay (t : WrittenTime) : Except CalendarFault Unit :=
  if t.year = 0 then .error (.year t.year)
  else if t.month = 0 ∨ 12 < t.month then .error .month
  else if t.day = 0 ∨ monthLength t.year t.month < t.day then .error .day
  else .ok ()

def checkClock (clock : Clock) : Except CalendarFault Unit :=
  if 23 < clock.hour then .error .hour
  else if 59 < clock.minute then .error .minute
  else if 59 < clock.second then .error .second
  else .ok ()

def checkOffset (offset : Option Int) : Except CalendarFault Unit :=
  match offset with
  | some minutes => if 1440 ≤ minutes.natAbs then .error (.offset minutes) else .ok ()
  | none => .ok ()

def WrittenTime.value (t : WrittenTime) : Except CalendarFault Value := do
  match t.clock with
  | none =>
    checkDay t
    return .date ⟨t.year, t.month, t.day⟩
  | some clock =>
    checkOffset t.offset
    checkDay t
    checkClock clock
    return .time ⟨⟨t.year, t.month, t.day, clock.hour, clock.minute, clock.second, clock.micro⟩,
      t.offset⟩

def timeValue (text : String) : Except TextFault Value :=
  match readWrittenTime text.toList with
  | none => .error .timestamp
  | some written =>
    match written.value with
    | .ok value => .ok value
    | .error cause => .error (.calendar cause)

def ofText (made : Except TextFault Value) : Except Fault Value :=
  match made with
  | .ok value => .ok value
  | .error cause => .error (.text cause)

def scalarKinds : List String := ["null", "bool", "int", "float", "binary", "timestamp", "str"]

def isScalarTag (tag : String) : Bool := scalarKinds.any fun kind => tag = coreTag kind

def scalarValue (tag text : String) : Except Fault Value :=
  if tag = coreTag "str" then .ok (.text text)
  else if tag = coreTag "null" then .ok .null
  else if tag = coreTag "bool" then
    let word := Text.smalls text
    match flagOf? word with
    | some b => .ok (.flag b)
    | none => .error (.text (.word word))
  else if tag = coreTag "int" then ofText ((readInteger text).map .int)
  else if tag = coreTag "float" then ofText ((readReal text).map .real)
  else if tag = coreTag "timestamp" then ofText (timeValue text)
  else if tag = coreTag "binary" then
    if text.toList.all (fun c => decide (c.toNat < 0x80)) then
      match bytesOf [] 0 text.toList with
      | some bytes => .ok (.bytes bytes)
      | none => .error .node
    else .error .node
  else .error .node

def listKinds : List String := ["seq", "map", "set", "omap", "pairs"]

def isCollectionTag (tag : String) : Bool := listKinds.any fun kind => tag = coreTag kind

abbrev Made (α : Type) := Except (Nat × Fault) α

def madeAt {α : Type} (depth : Nat) (made : Except Fault α) : Made α :=
  match made with
  | .ok value => .ok value
  | .error fault => .error (depth, fault)

/-- Of two faults the one nearer to the top counts, and of equally near ones the first. -/
def both {α β : Type} (a : Made α) (b : Made β) : Made (α × β) :=
  match a, b with
  | .ok a, .ok b => .ok (a, b)
  | .error fault, .ok _ => .error fault
  | .ok _, .error fault => .error fault
  | .error first, .error second => .error (if second.1 < first.1 then second else first)

def misfit (depth : Nat) (tag : String) : Made Value :=
  .error (if isCollectionTag tag then depth + 1 else depth, .node)

def keyOf (depth : Nat) (made : Made Value) : Made Value :=
  match made with
  | .ok key => if key.isKey then .ok key else .error (depth, .node)
  | .error (place, fault) => .error (if depth < place then (depth, .node) else (place, fault))

def listOf : List (Made Value) → Made (List Value)
  | [] => .ok []
  | item :: rest => (both item (listOf rest)).map fun (made, others) => made :: others

def pairsOf : List (Made Value × Made Value) → Made (List (Value × Value))
  | [] => .ok []
  | (key, value) :: rest =>
    (both (both key value) (pairsOf rest)).map fun (field, fields) => field :: fields

namespace Node

def tag : Node → String
  | scalar tag _ | list _ tag _ | map _ tag _ => tag
  | loop _ => ""

def place? : Node → Option Nat
  | list place _ _ | map place _ _ | loop place => some place
  | scalar .. => none

def resolved (finished : List Node) (node : Node) : Node :=
  match node with
  | loop place => (finished.find? fun other => other.place? = some place).getD node
  | _ => node

mutual

def scalarText? : Node → Option String
  | .scalar _ text => some text
  | .map _ _ fields => fieldText? fields
  | .list .. | .loop _ => none

def fieldText? : List (Node × Node) → Option String
  | [] => none
  | (key, value) :: rest =>
    if key.tag = coreTag "value" then value.scalarText? else fieldText? rest

end

def valueKey (depth : Nat) (key : Node) : Made Value :=
  madeAt depth (match key with
    | .scalar _ text => .ok (.text text)
    | _ => .error .node)

def isMerge (field : Node × Node) : Bool := field.1.tag = coreTag "merge"

/-- The fields of a map behind those of the maps that it merges; of a list of maps to merge the
first one counts most. A map that is being merged already adds its own fields only. -/
def merged (finished : List Node) :
    (fuel : Nat) → (around : List Nat) → Node → Except Fault (List (Node × Node))
  | fuel + 1, around, .map place _ fields => do
    let own := fields.filter fun field => !isMerge field
    if around.contains place then return own
    let added (node : Node) := merged finished fuel (place :: around) (node.resolved finished)
    let parts ← (fields.filter isMerge).mapM fun field =>
      match field.2.resolved finished with
      | .list _ _ items => (items.reverse.mapM added).map List.flatten
      | node => added node
    return parts.flatten ++ own
  | _, _, _ => .error .node

def fieldsMade (depth : Nat) (made : Node → Made Value)
    (fields : Except Fault (List (Node × Node))) : Made (List (Value × Value)) :=
  match fields with
  | .ok fields => pairsOf (fields.map fun (key, value) =>
      (keyOf depth (if key.tag = coreTag "value" then key.valueKey depth else made key),
        made value))
  | .error fault => .error (depth, fault)

def pairsMade (finished : List Node) (depth : Nat) (made : Node → Made Value) :
    List Node → Made (List (Value × Value))
  | [] => .ok []
  | item :: rest =>
    match item.resolved finished with
    | .map _ _ [(key, value)] =>
      (both (both (made key) (made value)) (pairsMade finished depth made rest)).map
        fun (field, fields) => field :: fields
    | _ => .error (depth, .node)

/-- The value of a node. No collection is entered inside itself, so that as much fuel suffices as
there are collections. The outermost one is not counted among those around: what is read from a
document are its fields, each of which shows what leads out of it in full. -/
def value (finished : List Node) :
    (fuel : Nat) → (around : List Nat) → (depth : Nat) → Node → Made Value
  | 0, _, depth, _ => .error (depth, .node)
  | fuel + 1, around, depth, node =>
    let made (place : Nat) : Node → Made Value :=
      value finished fuel (if depth = 0 then [] else place :: around) (depth + 1)
    match node.resolved finished with
    | .scalar tag text =>
      if isCollectionTag tag then misfit depth tag else madeAt depth (scalarValue tag text)
    | .list place tag items =>
      if around.contains place then .ok (.loop false)
      else if tag = coreTag "seq" then (listOf (items.map (made place))).map .list
      else if tag = coreTag "omap" ∨ tag = coreTag "pairs" then
        (pairsMade finished (depth + 1) (made place) items).map .pairs
      else misfit depth tag
    | .map place tag fields =>
      let fieldsOf := fieldsMade (depth + 1) (made place)
        (merged finished (finished.length + 1) [] (.map place tag fields))
      if around.contains place then .ok (.loop true)
      else if tag = coreTag "map" then
        fieldsOf.map fun built => .map (Value.ofFields built)
      else if tag = coreTag "set" then
        fieldsOf.map fun built => .set ((Value.ofFields built).map Prod.fst)
      else if isScalarTag tag then
        match fieldText? fields with
        | some text => madeAt depth (scalarValue tag text)
        | none => .error (depth, .node)
      else misfit depth tag
    | .loop _ => .error (depth, .node)

end Node

def readDocument (text : String) : Except Fault Value := do
  match ← nodeOf (unifyBreaks text.toList) with
  | none => return .null
  | some (root, finished) =>
    match root.value finished (finished.length + 2) [] 0 with
    | .ok value => return value
    | .error (_, fault) => throw fault

end Guildhall.Yaml
