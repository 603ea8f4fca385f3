import Guildhall.Program.Arguments

/-!
What the program says about its arguments.
-/

namespace Guildhall.Program

def programName : String := "retrocast"

def version : String := "0.1.0"

def actionNames : String := "\x7b" ++ ",".intercalate (Action.all.map Action.name) ++ "\x7d"

def usage : String :=
  "usage: " ++ programName ++ " [-h] [--config CONFIG] " ++ actionNames ++ " ...\n"

def helpLine (indent width : Nat) (name summary : String) : String :=
  let start := String.ofList (List.replicate indent ' ') ++ name
  let blanks (count : Nat) : String := String.ofList (List.replicate count ' ')
  if start.length + 2 ≤ width then start ++ blanks (width - start.length) ++ summary ++ "\n"
  else start ++ "\n" ++ blanks width ++ summary ++ "\n"

def helpText : String :=
  usage ++ "\nRetrocast persistence admin tool\n\npositional arguments:\n  " ++ actionNames ++
    "\n" ++
    String.join (Action.all.map fun action => helpLine 4 24 action.name action.summary) ++
    "\noptions:\n" ++ helpLine 2 24 "-h, --help" "show this help message and exit" ++
    helpLine 2 24 "--config CONFIG, -c CONFIG" "Path to a YAML config file"

def helpTextOn (action : Action) : String :=
  "usage: " ++ programName ++ " " ++ action.name ++ " [-h]\n\noptions:\n" ++
    helpLine 2 14 "-h, --help" "show this help message and exit"

end Guildhall.Program
