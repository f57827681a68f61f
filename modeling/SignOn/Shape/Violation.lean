import SignOn.Json.Basic

/-!
What is wrong with a value that should have a certain shape, and where.
-/

namespace SignOn

/-- The ways in which a value can miss a shape. -/
inductive Violation.Kind where
  | missing
  | notText
  | unreadableText
  | notObject
  | notRecord
  | notBody
  | notList
  | notSet
  | notReal
  | unreadableReal
  | notInt
  | unreadableInt
  | fractionalInt
  | notFinite
  | notMoment
  | unreadableMoment
  | momentOutOfRange
  | frozen
  | rejected
  | notJson
  deriving DecidableEq

def Violation.Kind.label : Violation.Kind → String
  | .missing => "missing"
  | .notText => "string_type"
  | .unreadableText => "string_unicode"
  | .notObject => "dict_type"
  | .notRecord => "model_type"
  | .notBody => "model_attributes_type"
  | .notList => "list_type"
  | .notSet => "frozen_set_type"
  | .notReal => "float_type"
  | .unreadableReal => "float_parsing"
  | .notInt => "int_type"
  | .unreadableInt => "int_parsing"
  | .fractionalInt => "int_from_float"
  | .notFinite => "finite_number"
  | .notMoment => "datetime_type"
  | .unreadableMoment => "datetime_from_date_parsing"
  | .momentOutOfRange => "datetime_parsing"
  | .frozen => "frozen_instance"
  | .rejected => "value_error"
  | .notJson => "json_invalid"

/-- A kind at a place: the names and numbers of the members and items on the way to it. -/
structure Violation where
  path : List String
  kind : Violation.Kind
  deriving DecidableEq

namespace Violation

def location (v : Violation) : String :=
  ".".intercalate v.path

def within (name : String) (v : Violation) : Violation :=
  { v with path := name :: v.path }

/-- A row of violations as a value: the place and the label of each. -/
def report (vs : List Violation) : Json :=
  .arr (vs.map fun v => .arr [.str v.location, .str v.kind.label])

/-- What stands in a message's place for violations. -/
def summary (vs : List Violation) : Json :=
  .obj [("validation", report vs)]

end Violation

end SignOn
