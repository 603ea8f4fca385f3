import Guildhall.Settings.Source

/-!
Reading the settings. Of several faults the one of the first key counts.
-/

namespace Guildhall.Settings

def integerOfBytes (bytes : List Nat) : Except Decimal.Misread Int :=
  if bytes.all (· < 0x80) then Decimal.readInteger (bytes.map Char.ofNat) else .error .malformed

def integer? : Yaml.Value → Option Int
  | .flag b => some (if b then 1 else 0)
  | .int n => some n
  | .real x => x.truncate?
  | .text s => (Decimal.readInteger s.toList).toOption
  | .bytes bytes => (integerOfBytes bytes).toOption
  | _ => none

def isInfinite : Yaml.Value → Bool
  | .real (.infinite _) => true
  | _ => false

def integer (key : SettingKey) (value : Yaml.Value) : Except SettingFault Int :=
  match integer? value with
  | some n => .ok n
  | none =>
    if isInfinite value then .error .infinite
    else if value.isWritable then .error (.notInteger key value.shown)
    else .error .unwritable

def word (value : Yaml.Value) : Except SettingFault String :=
  if value.isWritable then
    .ok (String.ofList (Text.strip Text.isBlank value.bare.toList))
  else .error .unwritable

def affirmations : List String := ["1", "true", "yes", "on"]

def flag (value : Yaml.Value) : Except SettingFault Bool :=
  match value with
  | .flag b => .ok b
  | _ => (word value).map fun said => affirmations.contains (Text.smalls said)

def levelOf (said : String) : LogLevel :=
  let name := if said = "WARN" then LogLevel.warning.name else said
  (LogLevel.all.find? fun level => level.name = name).getD .info

def level (value : Yaml.Value) : Except SettingFault LogLevel :=
  (word value).map fun said => levelOf (Text.capitals said)

def url (chosen : Option Yaml.Value) : Except SettingFault String :=
  match chosen with
  | none => .error .noDatabase
  | some value =>
    if value.isEmpty then .error .noDatabase
    else if value.isWritable then .ok value.bare
    else .error .unwritable

def orElse {α : Type} (usual : α) (read : Yaml.Value → Except SettingFault α) :
    Option Yaml.Value → Except SettingFault α
  | none => .ok usual
  | some value => read value

def ofChosen (chosen : SettingKey → Option Yaml.Value) : Except SettingFault Settings := do
  let usual := ofUrl (← url (chosen .databaseUrl))
  let int (key : SettingKey) (size : Int) : Except SettingFault Int :=
    orElse size (integer key) (chosen key)
  return {
    databaseUrl := usual.databaseUrl
    poolSize := ← int .poolSize usual.poolSize
    maxOverflow := ← int .maxOverflow usual.maxOverflow
    poolTimeout := ← int .poolTimeout usual.poolTimeout
    poolRecycle := ← int .poolRecycle usual.poolRecycle
    echo := ← orElse usual.echo flag (chosen .echo)
    logLevel := ← orElse usual.logLevel level (chosen .logLevel)
    workerId := ← int .workerId usual.workerId
    processId := ← int .processId usual.processId }

/-- The settings under an environment, from the file at the given path or else from the usual
places. -/
def loadBy (read : DocumentReader) (env : Environment) (files : Files) (path : Option String) :
    Except SettingFault Settings := do
  let entries ← fileEntries read files (candidates env path)
  ofChosen (chosen? env entries)

def load : Environment → Files → Option String → Except SettingFault Settings :=
  loadBy Yaml.readDocument

end Guildhall.Settings
