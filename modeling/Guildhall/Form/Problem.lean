import Guildhall.Decimal.Misread

/-!
What can be wrong with a form: the place, the kind of fault, and its wording.
-/

namespace Guildhall.Form

inductive Step where
  | field (name : String)
  | item (index : Nat)
  deriving DecidableEq, Repr

inductive Fault where
  | missing
  | notInteger
  | unreadableInteger
  | integerTooLong
  | fractionalInteger
  | notFinite
  | unreadableId (shown : String) (cause : Decimal.Misread)
  | notText
  | notFlag
  | unreadableFlag
  | notList
  | notChoice (choices : String)
  | notTime
  | unreadableTime
  | unreadableDate
  | notEntity
  | notObject
  | notJson
  deriving DecidableEq, Repr

structure Problem where
  place : List Step
  fault : Fault
  deriving DecidableEq, Repr

def Problem.under (step : Step) (problem : Problem) : Problem :=
  { problem with place := step :: problem.place }

def Fault.code : Fault → String
  | .missing => "missing"
  | .notInteger => "int_type"
  | .unreadableInteger => "int_parsing"
  | .integerTooLong => "int_parsing_size"
  | .fractionalInteger => "int_from_float"
  | .notFinite => "finite_number"
  | .unreadableId .. => "value_error"
  | .notText => "string_type"
  | .notFlag => "bool_type"
  | .unreadableFlag => "bool_parsing"
  | .notList => "list_type"
  | .notChoice _ => "enum"
  | .notTime => "datetime_type"
  | .unreadableTime => "datetime_parsing"
  | .unreadableDate => "datetime_from_date_parsing"
  | .notEntity => "model_attributes_type"
  | .notObject => "model_type"
  | .notJson => "json_invalid"

def Fault.message : Fault → Option String
  | .missing => some "Field required"
  | .notInteger => some "Input should be a valid integer"
  | .unreadableInteger =>
    some "Input should be a valid integer, unable to parse string as an integer"
  | .integerTooLong => some "Unable to parse input string as an integer, exceeded maximum size"
  | .fractionalInteger =>
    some "Input should be a valid integer, got a number with a fractional part"
  | .notFinite => some "Input should be a finite number"
  | .unreadableId shown cause => some ("Value error, " ++ cause.message 10 shown)
  | .notText => some "Input should be a valid string"
  | .notFlag => some "Input should be a valid boolean"
  | .unreadableFlag => some "Input should be a valid boolean, unable to interpret input"
  | .notList => some "Input should be a valid list"
  | .notChoice choices => some ("Input should be " ++ choices)
  | .notTime | .unreadableTime | .unreadableDate | .notJson => none
  | .notEntity =>
    some "Input should be a valid dictionary or object to extract fields from"
  | .notObject => some "Input should be an object"

end Guildhall.Form
