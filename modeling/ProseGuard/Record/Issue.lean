import ProseGuard.Text.Basic

/-!
# Issues of a record

What can be wrong with a value that should be a record, and where in it. A reader of records
reports every issue, so an issue carries the path from the record to the value at fault.
-/

namespace ProseGuard.Record

/-- One step from a value into a part of it. -/
inductive Step where
  | field (name : Text)
  | index (position : Nat)
deriving DecidableEq

/-- What is wrong with a value. -/
inductive Flaw where
  | missing
  | notText
  /-- The text holds half of a surrogate pair alone. -/
  | brokenText
  | notList
  | notRecord
  | notFlag
  | flagSpelling
  | notChoice
  | notInteger
  | integerSpelling
  | fraction
  | notFinite
  | tooManyDigits
  | belowMinimum
  | tooShort
  | unknownField
deriving DecidableEq

/-- The code that stands for a flaw in answers. -/
def Flaw.code : Flaw → Text
  | .missing => "missing"
  | .notText => "string_type"
  | .brokenText => "string_unicode"
  | .notList => "list_type"
  | .notRecord => "model_type"
  | .notFlag => "bool_type"
  | .flagSpelling => "bool_parsing"
  | .notChoice => "literal_error"
  | .notInteger => "int_type"
  | .integerSpelling => "int_parsing"
  | .fraction => "int_from_float"
  | .notFinite => "finite_number"
  | .tooManyDigits => "int_parsing_size"
  | .belowMinimum => "greater_than_equal"
  | .tooShort => "string_too_short"
  | .unknownField => "extra_forbidden"

/-- A flaw at a place. -/
structure Issue where
  path : List Step
  flaw : Flaw
deriving DecidableEq

/-- The issue seen from one level further out. -/
def Issue.under (step : Step) (issue : Issue) : Issue :=
  { issue with path := step :: issue.path }

end ProseGuard.Record
