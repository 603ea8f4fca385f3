import Guildhall.Connection.Basic
import Guildhall.Program.Log
import Guildhall.Program.Usage
import Guildhall.Settings.Reader
import Guildhall.Store.Snapshot

/-!
A run of the program: from its arguments and settings to a job on a storage, and from the storage
that is found to a report. A run that ends in the ordinary way has the exit code 0 or 1. What a
`.env` file adds counts as part of the environment.
-/

namespace Guildhall.Program

open Calendar Snowflake

/-- What ends a run although the program does not report it. -/
inductive Escape where
  | setting (fault : SettingFault)
  | connection (fault : ConnectionFault)
  | node (fault : NodeError)
  | failure (failure : Failure)
  /-- The clock gave no further reading. -/
  | clock
  deriving DecidableEq, Repr

def Escape.message : Escape → String
  | setting fault => fault.message
  | connection fault => fault.message
  | node fault => fault.message
  | failure cause => cause.message
  | clock => "the clock gives no further reading"

inductive Ending where
  | exit (code : Nat)
  /-- The arguments alone decided: help was asked for, or nothing could be made of them. -/
  | quit (code : Nat)
  | escape (cause : Escape)
  deriving DecidableEq, Repr

structure Report where
  ending : Ending
  printed : String
  log : List LogLine
  deriving DecidableEq, Repr

namespace Report

def ofEnding (ending : Ending) : Report := ⟨ending, "", []⟩

def printing (ending : Ending) (text : String) : Report := ⟨ending, text, []⟩

end Report

inductive Location where
  /-- In the memory of this run alone. -/
  | memory
  | file (path : String)
  | server
  deriving DecidableEq, Repr

inductive Place where
  | absent
  | unreachable
  | file (text : String)
  deriving DecidableEq, Repr

structure Job where
  work : Work
  settings : Settings
  connection : Connection
  deriving DecidableEq, Repr

inductive Start where
  | finished (report : Report)
  | job (job : Job)
  deriving DecidableEq, Repr

def begin (env : Environment) (files : Files) (work : Work) (file : Option String) : Start :=
  match Settings.load env files file with
  | .error fault =>
    .finished (if fault.isReported then ⟨.exit 1, "", [.badSettings fault]⟩
      else .ofEnding (.escape (.setting fault)))
  | .ok settings =>
    match Connection.open? settings with
    | .error fault => .finished (.ofEnding (.escape (.connection fault)))
    | .ok connection => .job ⟨work, settings, connection⟩

def start (env : Environment) (files : Files) (arguments : List String) : Start :=
  match Reading.of arguments with
  | .misuse => .finished (.ofEnding (.quit 2))
  | .help => .finished (.printing (.quit 0) helpText)
  | .helpOn action => .finished (.printing (.quit 0) (helpTextOn action))
  | .request ⟨_, .version⟩ => .finished (.printing (.exit 0) (version ++ "\n"))
  | .request ⟨file, .perform work⟩ => begin env files work file

def locationOf (connection : Connection) : Location :=
  match connection.dialect, connection.address.database with
  | .postgresql, _ => .server
  | .sqlite, none | .sqlite, some "" | .sqlite, some ":memory:" => .memory
  | .sqlite, some path => .file path

def Job.location (job : Job) : Location := locationOf job.connection

/-- The storage at a place. A file that was not written by this program is none. -/
def Place.storage : Place → Except StoreError Storage
  | .absent => .ok .blank
  | .unreachable => .error (.unavailable "unable to open database file")
  | .file text =>
    match Snapshot.read? text with
    | some storage => .ok storage
    | none => .error (.other "file is not a database")

def noServer : StoreError := .unavailable "connection to server failed"

def Location.storage (place : Place) : Location → Except StoreError Storage
  | .memory => .ok .blank
  | .file _ => place.storage
  | .server => .error noServer

namespace Job

def failed (job : Job) (error : StoreError) : Ending × List LogLine :=
  (.exit 1, (LogLine.ofError? error).toList ++ [.failed job.work.name error])

def announcement (guild : Int) : String := s!"Demo guild id: {guild}\n"

structure Result where
  ending : Ending
  printed : String
  log : List LogLine
  storage : Storage
  deriving DecidableEq, Repr

def seed (job : Job) (now : DateTime) (readings : List Int) (storage : Storage) : Result :=
  match Node.ofInts job.settings.workerId job.settings.processId with
  | .error fault => ⟨.escape (.node fault), "", [], storage⟩
  | .ok node =>
    let (outcome, progress) := Demo.seed now node readings storage
    let written := progress.written.reverse.filterMap LogLine.ofWrite?
    match outcome with
    | .ok none => ⟨.exit 0, "", written ++ [.alreadySeeded], progress.storage⟩
    | .ok (some drawn) =>
      let guild := drawn.id .guild
      ⟨.exit 0, announcement guild, written ++ [.seeded guild], progress.storage⟩
    | .error (.store (.store error)) =>
      let (ending, lines) := job.failed error
      ⟨ending, "", written ++ lines, progress.storage⟩
    | .error (.store failure) => ⟨.escape (.failure failure), "", written, progress.storage⟩
    | .error .clock => ⟨.escape .clock, "", written, progress.storage⟩

def perform (job : Job) (now : DateTime) (readings : List Int) (storage : Storage) : Result :=
  match job.work with
  | .setUp => ⟨.exit 0, "", [], storage⟩
  | .seed => job.seed now readings storage

def run (job : Job) (now : DateTime) (readings : List Int)
    (found : Except StoreError Storage) : Report × Option Storage :=
  let connected := LogLine.connected job.connection.target
  let kept (lines : List LogLine) : List LogLine :=
    lines.filter (LogLine.isKept job.settings.logLevel)
  match found with
  | .error error =>
    let (ending, lines) := job.failed error
    (⟨ending, "", kept (connected :: lines)⟩, none)
  | .ok storage =>
    let result := job.perform now readings storage.setUp
    (⟨result.ending, result.printed, kept (connected :: .tablesReady :: result.log)⟩,
      some result.storage)

end Job

end Guildhall.Program
