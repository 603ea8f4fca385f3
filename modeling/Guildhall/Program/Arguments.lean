import Guildhall.Text.Digit

/-!
The arguments of the program: options, then a command. An option counts only in front of the
command, and a long one may be cut short as long as it stays the only one of its kind.
-/

namespace Guildhall.Program

inductive Work where
  | setUp
  | seed
  deriving DecidableEq, Repr

def Work.name : Work → String
  | .setUp => "init-db"
  | .seed => "seed"

inductive Action where
  | perform (work : Work)
  | version
  deriving DecidableEq, Repr

def Action.all : List Action := [.perform .setUp, .perform .seed, .version]

def Action.name : Action → String
  | .perform work => work.name
  | .version => "version"

def Action.ofName? (name : String) : Option Action := all.find? fun action => action.name = name

def Action.summary : Action → String
  | .perform .setUp => "Create all tables that do not exist yet"
  | .perform .seed => "Create tables and insert demo data"
  | .version => "Print the package version"

structure Request where
  file : Option String
  action : Action
  deriving DecidableEq, Repr

inductive Reading where
  | request (request : Request)
  | help
  | helpOn (action : Action)
  | misuse
  deriving DecidableEq, Repr

inductive Argument where
  | help
  /-- Letters behind the short option for help, which are options themselves. -/
  | helpWith (letters : List Char)
  | file (value : Option String)
  | unknown
  | misused
  | plain
  /-- Two dashes, behind which there are no options. -/
  | dashes
  deriving DecidableEq, Repr

def helpWord : List Char := "--help".toList
def fileWord : List Char := "--config".toList

def isDigit (c : Char) : Bool := (Text.digit? c).isSome

def isNegative : List Char → Bool
  | '-' :: rest =>
    match rest.dropWhile isDigit with
    | [] => !rest.isEmpty
    | '.' :: places => !places.isEmpty && places.all isDigit
    | _ => false
  | _ => false

def valueOf (text : List Char) : Option (List Char) :=
  match text.dropWhile (· ≠ '=') with
  | _ :: value => some value
  | [] => none

def longOption (fileKnown : Bool) (text : List Char) : Option Argument :=
  let name := text.takeWhile (· ≠ '=')
  let value := valueOf text
  let isHelp := name.isPrefixOf helpWord
  let isFile := fileKnown && name.isPrefixOf fileWord
  if isHelp && isFile then some .misused
  else if isHelp then some (if value.isSome then .misused else .help)
  else if isFile then some (.file (value.map String.ofList))
  else none

def shortOption (fileKnown : Bool) : List Char → Option Argument
  | ['-', 'h'] => some .help
  | ['-', 'h', '='] => some .misused
  | '-' :: 'h' :: '=' :: letters => some (.helpWith letters)
  | '-' :: 'h' :: letters => some (.helpWith letters)
  | ['-', 'c'] => if fileKnown then some (.file none) else none
  | '-' :: 'c' :: '=' :: value =>
    if fileKnown then some (.file (some (String.ofList value))) else none
  | '-' :: 'c' :: value => if fileKnown then some (.file (some (String.ofList value))) else none
  | _ => none

/-- Besides options, whatever starts with a dash and is neither a number nor holds a space is
unknown. -/
def Argument.of (fileKnown : Bool) (text : String) : Argument :=
  let chars := text.toList
  let option : Option Argument :=
    match chars with
    | '-' :: '-' :: _ => longOption fileKnown chars
    | _ => shortOption fileKnown chars
  if chars.head? ≠ some '-' || chars = ['-'] then .plain
  else if chars = ['-', '-'] then .dashes
  else
    match option with
    | some argument => argument
    | none => if isNegative chars || chars.contains ' ' then .plain else .unknown

def asksForFile (letters : List Char) : Bool := letters.dropWhile (· = 'h') = ['c']

def readBehind (request : Request) : (extra : Bool) → List String → Reading
  | extra, [] => if extra then .misuse else .request request
  | _, text :: rest =>
    match Argument.of false text with
    | .help | .helpWith _ => .helpOn request.action
    | .misused | .dashes => .misuse
    | .file _ | .unknown | .plain => readBehind request true rest

def startsPlain : List String → Bool
  | text :: _ => Argument.of true text = .plain
  | [] => false

def readFrom (file : Option String) (extra : Bool) : List String → Reading
  | [] => .misuse
  | text :: rest =>
    match Argument.of true text with
    | .plain =>
      match Action.ofName? text with
      | some action => readBehind ⟨file, action⟩ extra rest
      | none => .misuse
    | .file (some value) => readFrom (some value) extra rest
    | .file none =>
      match rest with
      | value :: rest => if startsPlain [value] then readFrom (some value) extra rest else .misuse
      | [] => .misuse
    | .help => .help
    | .helpWith letters => if asksForFile letters && !startsPlain rest then .misuse else .help
    | .unknown => readFrom file true rest
    | .misused | .dashes => .misuse

/-- Two dashes and a value name no option and every option at once. -/
def isAmbiguous (text : String) : Bool := "--=".toList.isPrefixOf text.toList

def Reading.of (arguments : List String) : Reading :=
  if (arguments.takeWhile (· ≠ "--")).any isAmbiguous then .misuse
  else readFrom none false arguments

end Guildhall.Program
