import Guildhall.Settings.Basic
import Guildhall.Yaml.Construct
import Guildhall.Text.Parts

/-!
Where settings come from: variables of the environment, and the first file that there is.
-/

namespace Guildhall

abbrev Environment := String → Option String

inductive Lookup where
  | absent
  | refused (reason : String)
  | file (text : String)
  deriving DecidableEq, Repr

instance : Coe (Option String) Lookup where
  coe found := found.elim .absent .file

abbrev Files := String → Lookup

/-- What makes a value of the text of a document. -/
abbrev DocumentReader := String → Except Yaml.Fault Yaml.Value

/-- A path without its empty parts and those that mean the directory they stand in. Two slashes in
front, but not three, are kept. -/
def plainPath (path : String) : String :=
  let chars := path.toList
  let slashes := (chars.takeWhile (· = '/')).length
  let root := if slashes = 2 then "//" else if 0 < slashes then "/" else ""
  let parts := (Text.splitAt '/' chars).filter fun part => !(part.isEmpty || part = ['.'])
  match root ++ "/".intercalate (parts.map String.ofList) with
  | "" => "."
  | plain => plain

namespace Settings

def fileVariable : String := "RETROCAST_CONFIG"

def usualFiles : List String := ["retrocast.yaml", "/etc/retrocast/config.yaml"]

def given? (env : Environment) (name : String) : Option String :=
  match env name with
  | some "" | none => none
  | some text => some text

def candidates (env : Environment) (path : Option String) : List String :=
  let asked := match path with
    | some path => [path]
    | none => (given? env fileVariable).toList ++ usualFiles
  asked.map plainPath

def source? (files : Files) : List String → Except SettingFault (Option (String × String))
  | [] => .ok none
  | path :: rest =>
    match files path with
    | .absent => source? files rest
    | .refused reason => .error (.refused reason)
    | .file text => .ok (some (path, text))

abbrev Entries := List (String × Yaml.Value)

def entryOf (field : Yaml.Value × Yaml.Value) : Except SettingFault (String × Yaml.Value) :=
  if field.1.isWritable then .ok (Text.capitals field.1.bare, field.2) else .error .unwritable

def entriesOf (path : String) (document : Yaml.Value) : Except SettingFault Entries :=
  if document.isEmpty then .ok []
  else
    match document with
    | .map fields => fields.mapM entryOf
    | _ => .error (.notMap path)

section

variable (read : DocumentReader)

def entriesIn (path text : String) : Except SettingFault Entries :=
  match read text with
  | .ok document => entriesOf path document
  | .error fault => .error (.document fault)

def fileEntries (files : Files) (paths : List String) : Except SettingFault Entries := do
  match ← source? files paths with
  | some (path, text) => entriesIn read path text
  | none => return []

end

/-- The last entry of a key, unless it is null or an empty text. -/
def entry? (entries : Entries) (name : String) : Option Yaml.Value :=
  match (entries.reverse.find? fun entry => entry.1 = name).map Prod.snd with
  | some .null | some (.text "") | none => none
  | some value => some value

def chosen? (env : Environment) (entries : Entries) (key : SettingKey) : Option Yaml.Value :=
  match given? env key.name with
  | some text => some (.text text)
  | none => entry? entries key.name

end Settings

end Guildhall
