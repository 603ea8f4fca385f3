import Guildhall.Text.Quoted

/-!
The dialects in which a row can be put in place of the one with its key.
-/

namespace Guildhall

inductive Dialect where
  | postgresql
  | sqlite
  deriving DecidableEq, Repr

namespace Dialect

def all : List Dialect := [.postgresql, .sqlite]

def name : Dialect → String
  | .postgresql => "postgresql"
  | .sqlite => "sqlite"

def ofName? (name : String) : Option Dialect := all.find? (fun dialect => dialect.name = name)

def unsupported (name : String) : String :=
  "Upserts are not supported on dialect " ++ Text.quoted name

end Dialect

end Guildhall
