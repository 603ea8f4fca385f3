import Guildhall.Program.Job
import Std.Time.DateTime.Timestamp

/-!
The command line: gathers the environment, the files and the time, and carries out what the run
asks for.
-/

namespace Guildhall.Program

def readEnvironment : IO Environment := do
  let names := Settings.fileVariable :: SettingKey.all.map SettingKey.name
  let found ← names.filterMapM fun name => do
    return (← IO.getEnv name).map fun text => (name, text)
  return fun name => found.lookup name

def readFile? (path : String) : IO (Option String) := do
  try
    let bytes ← IO.FS.readBinFile path
    return some (String.ofList (Text.ofUtf8 (bytes.toList.map UInt8.toNat)))
  catch _ => return none

def readFiles (paths : List String) : IO Files := do
  let found ← paths.filterMapM fun path => do
    return (← readFile? path).map fun text => (path, text)
  return fun path => found.lookup path

/-- A file that is not there is created, so as to see whether it can be. -/
def findPlace (path : String) : IO Place := do
  match ← readFile? path with
  | some text => return .file text
  | none =>
    try
      let _ ← IO.FS.Handle.mk path .append
      return .absent
    catch _ => return .unreachable

def nanos : IO Int := do
  return (← Std.Time.Timestamp.now).toNanosecondsSinceUnixEpoch.val

def timeOf (nanos : Int) : Calendar.DateTime :=
  match Calendar.Instant.wall? (nanos.fdiv 1000) with
  | some wall => ⟨wall, some 0⟩
  | none => ⟨⟨1970, 1, 1, 0, 0, 0, 0⟩, some 0⟩

def readingCount : Nat := 64

def readings : IO (List Int) :=
  (List.range readingCount).mapM fun _ => return Snowflake.millisOf (← nanos)

def padded (name : String) : String :=
  name ++ String.ofList (List.replicate (8 - name.length) ' ')

def writeLog (now : Calendar.DateTime) (lines : List LogLine) : IO Unit := do
  let err ← IO.getStderr
  for line in lines do
    err.putStrLn (String.ofList (Calendar.clockText now.wall) ++ " │ " ++ padded line.level.name ++
      " │ " ++ line.source.name ++ " │ " ++ line.text)

def finish (now : Calendar.DateTime) (report : Report) : IO UInt32 := do
  writeLog now report.log
  IO.print report.printed
  match report.ending with
  | .exit code => return code.toUInt32
  | .quit code =>
    if code ≠ 0 then IO.eprint usage
    return code.toUInt32
  | .escape cause =>
    IO.eprintln cause.message
    return 1

def carryOut (job : Job) : IO UInt32 := do
  let now := timeOf (← nanos)
  let place ← match job.location with
    | .file path => findPlace path
    | .memory | .server => pure .absent
  let (report, left) := job.run now (← readings) (job.location.storage place)
  match job.location, left with
  | .file path, some storage => IO.FS.writeFile path (Snapshot.text storage)
  | _, _ => pure ()
  finish now report

def runWith (arguments : List String) : IO UInt32 := do
  let env ← readEnvironment
  let asked := match Reading.of arguments with
    | .request request => request.file
    | _ => none
  let files ← readFiles (Settings.candidates env asked)
  match start env files arguments with
  | .finished report => finish (timeOf (← nanos)) report
  | .job job => carryOut job

end Guildhall.Program

def main (arguments : List String) : IO UInt32 := Guildhall.Program.runWith arguments
