import Guildhall.Store.Error
import Guildhall.Text.Capital
import Guildhall.Text.Blank

/-!
Telling a store's faults apart by what the database driver reports. A code decides where the
driver gives one; without a code the wording does.
-/

namespace Guildhall

/-- The driver's own error. Codes and names that are empty count as absent. -/
structure DriverReport where
  text : String
  code : Option String
  state : Option String
  constraintName : Option String
  deriving DecidableEq, Repr

inductive DatabaseFault where
  | integrity (report : Option DriverReport)
  /-- The connection, the pool or the time ran out. -/
  | connection (text : String)
  | other (text : String)
  deriving DecidableEq, Repr

def uniqueCode : String := "23505"
def referenceCodes : List String := ["23503", "23502", "23514"]

def present? : Option String → Option String
  | some "" => none
  | value => value

def afterFirst (mark : List Char) : List Char → Option (List Char)
  | [] => if mark.isEmpty then some [] else none
  | c :: rest =>
    if mark.isPrefixOf (c :: rest) then some ((c :: rest).drop mark.length)
    else afterFirst mark rest

def failedMark : String := "constraint failed:"

namespace DriverReport

def constraint? (report : DriverReport) : Option String :=
  match present? report.constraintName with
  | some name => some name
  | none => (afterFirst failedMark.toList report.text.toList).map
      (fun rest => String.ofList (Text.strip Text.isBlank rest))

def detail (report : DriverReport) : String := (present? report.constraint?).getD report.text

def isUnique (report : DriverReport) : Bool :=
  match (present? report.code).or (present? report.state) with
  | some code => code = uniqueCode
  | none =>
    let capitals := Text.capitals report.text
    Text.contains capitals "UNIQUE CONSTRAINT" || Text.contains capitals "PRIMARY KEY" ||
      Text.contains capitals "DUPLICATE"

end DriverReport

def absentReport : DriverReport := ⟨"None", none, none, none⟩

def DatabaseFault.classify : DatabaseFault → StoreError
  | .integrity report =>
    let report := report.getD absentReport
    if report.isUnique then .conflict report.detail report.constraint?
    else
      match present? report.code with
      | some code =>
        if referenceCodes.contains code then .invalidReference report.detail
        else .other report.text
      | none => .invalidReference report.detail
  | .connection text => .unavailable text
  | .other text => .other text

end Guildhall
