import Guildhall.Proofs.Settings.Masking

/-!
How the reading of the settings ends: with settings, with a fault that the program reports, or with
one that it does not. The last comes from paths and documents that cannot be read, from integers too
long to be written, and from infinite numbers where an integer is needed.
-/

namespace Guildhall

open Yaml (Value)

namespace SettingKey

def isInteger : SettingKey → Bool
  | poolSize | maxOverflow | poolTimeout | poolRecycle | workerId | processId => true
  | databaseUrl | echo | logLevel => false

/-- A setting can be made of what is chosen for the key. Only the database must be given. -/
def Accepts : SettingKey → Option Value → Prop
  | databaseUrl, chosen => ∃ value ∈ chosen, value.isEmpty = false ∧ value.isWritable = true
  | echo, chosen | logLevel, chosen => ∀ value ∈ chosen, value.isWritable = true
  | _, chosen => ∀ value ∈ chosen, (Settings.integer? value).isSome = true

/-- The value can neither be made into a setting nor be shown in a report: it is an infinite number
for an integer, or there is an integer in it that is too long to be written. Where an integer is
needed such an integer does no harm itself. -/
def Breaks (key : SettingKey) (value : Value) : Prop :=
  (key.isInteger = true ∧ ∃ negative, value = .real (.infinite negative)) ∨
    (value.isWritable = false ∧ (key.isInteger = true → ∀ n, value ≠ .int n))

end SettingKey

namespace Settings

/-- Why the settings end the program without a report. -/
inductive Escapes (read : DocumentReader) (env : Environment) (files : Files)
    (path : Option String) : Prop where
  /-- The system stops the search for a file. -/
  | refused {fault : SettingFault} (source : source? files (candidates env path) = .error fault)
  | document {place text : String} {fault : Yaml.Fault}
      (source : source? files (candidates env path) = .ok (some (place, text)))
      (unread : read text = .error fault)
  | key {place text : String} {document : Value} {fields : List (Value × Value)}
      {field : Value × Value}
      (source : source? files (candidates env path) = .ok (some (place, text)))
      (opened : read text = .ok document) (found : fieldsOf document = some fields)
      (member : field ∈ fields) (overlong : field.1.isWritable = false)
  /-- The first setting that cannot be made is at fault. -/
  | value {entries : Entries} {before after : List SettingKey} {key : SettingKey} {value : Value}
      (opened : fileEntries read files (candidates env path) = .ok entries)
      (order : SettingKey.all = before ++ key :: after)
      (made : ∀ other ∈ before, other.Accepts (chosen? env entries other))
      (unmasked : isGiven env key = false) (found : entry? entries key.name = some value)
      (breaks : key.Breaks value)

section Order

variable (chosen : SettingKey → Option Value)

def check (key : SettingKey) : Except SettingFault Unit :=
  match key with
  | .databaseUrl => (url (chosen key)).map fun _ => ()
  | .echo => (orElse false flag (chosen key)).map fun _ => ()
  | .logLevel => (orElse .info level (chosen key)).map fun _ => ()
  | key => (orElse 0 (integer key) (chosen key)).map fun _ => ()

end Order

section Values

variable {value : Value}

end Values

/-- How a reading ends: something is made of what is accepted, and else there is a fault, which is
reported unless the reading breaks. -/
inductive Ends {α : Type} (accepted breaks : Prop) : Except SettingFault α → Prop
  | made {result : α} (fine : accepted) (harmless : ¬breaks) : Ends accepted breaks (.ok result)
  | reported {fault : SettingFault} (refused : ¬accepted) (harmless : ¬breaks)
      (shown : fault.isReported = true) : Ends accepted breaks (.error fault)
  | broken {fault : SettingFault} (refused : ¬accepted) (harmful : breaks)
      (silent : fault.isReported = false) : Ends accepted breaks (.error fault)

namespace Ends

variable {α : Type} {accepted breaks : Prop} {outcome : Except SettingFault α}

end Ends

section Readings

variable {α β : Type} {accepted breaks : Prop} {key : SettingKey} {value : Value}

end Readings

section Outcomes

variable {read : DocumentReader} {env : Environment} {files : Files} {path : Option String}

end Outcomes

end Settings

end Guildhall
