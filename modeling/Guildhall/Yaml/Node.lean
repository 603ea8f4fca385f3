import Guildhall.Yaml.Event
import Guildhall.Yaml.Kind

/-!
The nodes of a document, each with its tag. Lists and maps are numbered as they begin. An alias
stands for the node of its anchor, and inside that node for the way back to it.
-/

namespace Guildhall.Yaml

inductive Node where
  | scalar (tag text : String)
  | list (place : Nat) (tag : String) (items : List Node)
  | map (place : Nat) (tag : String) (fields : List (Node × Node))
  /-- The way back to the list or map of this number. -/
  | loop (place : Nat)
  deriving Repr

/-- A collection whose end is still to come; its last items stand first. -/
inductive Frame where
  | list (place : Nat) (anchor : Option String) (tag : String) (items : List Node)
  | map (place : Nat) (anchor : Option String) (tag : String) (fields : List (Node × Node))
      (key : Option Node)
  deriving Repr

/-- `finished` holds the lists and maps that have ended, and `begun` counts all that have begun. -/
structure Composer where
  frames : List Frame
  anchors : List (String × Node)
  finished : List Node
  begun : Nat
  root : Option Node
  deriving Repr

namespace Composer

def start : Composer := ⟨[], [], [], 0, none⟩

def place (node : Node) (c : Composer) : Composer :=
  match c.frames with
  | [] => { c with root := some node }
  | .list place anchor tag items :: outer =>
    { c with frames := .list place anchor tag (node :: items) :: outer }
  | .map place anchor tag fields none :: outer =>
    { c with frames := .map place anchor tag fields (some node) :: outer }
  | .map place anchor tag fields (some key) :: outer =>
    { c with frames := .map place anchor tag ((key, node) :: fields) none :: outer }

def name (anchor : Option String) (node : Node) (c : Composer) : Composer :=
  match anchor with
  | some name => { c with anchors := (name, node) :: c.anchors }
  | none => c

def checkNew (anchor : Option String) (c : Composer) : Except Fault Unit :=
  if anchor.any fun name => (c.anchors.lookup name).isSome then .error .reference else .ok ()

def openFrame (anchor : Option String) (frame : Nat → Frame) (c : Composer) : Composer :=
  let c := c.name anchor (.loop c.begun)
  { c with frames := frame c.begun :: c.frames, begun := c.begun + 1 }

def finish (anchor : Option String) (node : Node) (c : Composer) : Composer :=
  ({ c with finished := node :: c.finished }.name anchor node).place node

def close (c : Composer) : Composer :=
  match c.frames with
  | [] => c
  | .list place anchor tag items :: outer =>
    { c with frames := outer }.finish anchor (.list place tag items.reverse)
  | .map place anchor tag fields _ :: outer =>
    { c with frames := outer }.finish anchor (.map place tag fields.reverse)

def step (c : Composer) : Event → Except Fault Composer
  | .documentStart => if c.root.isSome then .error .reference else .ok c
  | .documentEnd | .streamEnd => .ok c
  | .alias name =>
    match c.anchors.lookup name with
    | some node => .ok (c.place node)
    | none => .error .reference
  | .scalar anchor tag text => do
    c.checkNew anchor
    let node := Node.scalar (tag.getD (kindOf text)) text
    return (c.name anchor node).place node
  | .listStart anchor tag => do
    c.checkNew anchor
    return c.openFrame anchor fun place => .list place anchor tag []
  | .mapStart anchor tag => do
    c.checkNew anchor
    return c.openFrame anchor fun place => .map place anchor tag [] none
  | .listEnd | .mapEnd => .ok c.close

end Composer

def nodeOf (text : List Char) : Except Fault (Option (Node × List Node)) := do
  let (tokens, fault) := tokensOf text
  let (events, fault) := eventsOf tokens fault
  let composed ← events.foldlM Composer.step .start
  match fault with
  | some fault => .error fault
  | none => .ok (composed.root.map fun root => (root, composed.finished))

end Guildhall.Yaml
