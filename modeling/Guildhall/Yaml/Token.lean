/-!
The tokens of a document: its marks, names, tags and scalars, and the bounds of block collections,
which indentation alone shows.
-/

namespace Guildhall.Yaml

inductive Directive where
  | version (major minor : Nat)
  | tag (handle expansion : String)
  | other
  deriving DecidableEq, Repr

inductive Token where
  | streamEnd
  | directive (directive : Directive)
  | documentStart
  | documentEnd
  | blockListStart
  | blockMapStart
  | blockEnd
  | flowListStart
  | flowListEnd
  | flowMapStart
  | flowMapEnd
  | blockEntry
  | flowEntry
  | key
  | value
  | alias (name : String)
  | anchor (name : String)
  /-- A tag with its handle; a verbatim tag has none. -/
  | tag (handle : Option String) (suffix : String)
  | scalar (text : String) (plain : Bool)
  deriving DecidableEq, Repr

end Guildhall.Yaml
