import Guildhall.Yaml.Value
import Guildhall.Yaml.Fault

/-!
The settings of the program, their keys, and what can be wrong with them.
-/

namespace Guildhall

inductive LogLevel where
  | debug
  | info
  | warning
  | error
  | critical
  deriving DecidableEq, Repr

namespace LogLevel

def all : List LogLevel := [debug, info, warning, error, critical]

def name : LogLevel → String
  | debug => "DEBUG"
  | info => "INFO"
  | warning => "WARNING"
  | error => "ERROR"
  | critical => "CRITICAL"

def weight : LogLevel → Nat
  | debug => 10
  | info => 20
  | warning => 30
  | error => 40
  | critical => 50

end LogLevel

inductive SettingKey where
  | databaseUrl
  | poolSize
  | maxOverflow
  | poolTimeout
  | poolRecycle
  | echo
  | logLevel
  | workerId
  | processId
  deriving DecidableEq, Repr

def SettingKey.all : List SettingKey :=
  [databaseUrl, poolSize, maxOverflow, poolTimeout, poolRecycle, echo, logLevel, workerId,
    processId]

def SettingKey.name : SettingKey → String
  | databaseUrl => "DATABASE_URL"
  | poolSize => "DB_POOL_SIZE"
  | maxOverflow => "DB_MAX_OVERFLOW"
  | poolTimeout => "DB_POOL_TIMEOUT"
  | poolRecycle => "DB_POOL_RECYCLE"
  | echo => "DB_ECHO"
  | logLevel => "LOG_LEVEL"
  | workerId => "SNOWFLAKE_WORKER_ID"
  | processId => "SNOWFLAKE_PROCESS_ID"

structure Settings where
  databaseUrl : String
  poolSize : Int
  maxOverflow : Int
  poolTimeout : Int
  poolRecycle : Int
  echo : Bool
  logLevel : LogLevel
  workerId : Int
  processId : Int
  deriving DecidableEq, Repr

def Settings.ofUrl (url : String) : Settings := ⟨url, 5, 10, 10, 3600, false, .info, 0, 0⟩

inductive SettingFault where
  | noDatabase
  | notInteger (key : SettingKey) (shown : String)
  | notMap (path : String)
  /-- An infinite number was given where an integer is needed. -/
  | infinite
  /-- An integer has too many digits to be written. -/
  | unwritable
  | document (fault : Yaml.Fault)
  /-- The system does not let a path be looked at. -/
  | refused (reason : String)
  deriving DecidableEq, Repr

namespace SettingFault

def message : SettingFault → String
  | noDatabase => "DATABASE_URL is not set.  Export it or add it to retrocast.yaml."
  | notInteger key shown => key.name ++ " must be an integer, got " ++ shown
  | notMap path => "Config file " ++ path ++ " must contain a mapping at top level."
  | infinite => "cannot convert float infinity to integer"
  | unwritable => Decimal.unwritableMessage
  | document (.text cause) => cause.message
  | document _ => ""
  | refused reason => reason

/-- Whether the program itself reports the fault. The others end it. -/
def isReported : SettingFault → Bool
  | noDatabase | notInteger .. | notMap _ => true
  | infinite | unwritable | document _ | refused _ => false

end SettingFault

end Guildhall
