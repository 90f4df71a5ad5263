namespace PromptChart

/-- Why a value does not fit its place. -/
inductive Mismatch where
  | missing
  | unexpected
  | notText
  | textTooShort
  | textTooLong
  | notReal
  | unreadableReal
  | notWhole
  | unreadableWhole
  | oversizedWhole
  | fractional
  | notFinite
  | notTruth
  | unreadableTruth
  | notMember
  | notWord
  | notList
  | listTooShort
  | listTooLong
  | notMap
  | notRecord
  | notBody
  | notPositive
  | notDate
  | unreadableDate
  | inexactDate
  | inconsistent
  | unreadableBody
  deriving DecidableEq, Repr

def Mismatch.code : Mismatch → String
  | .missing => "missing"
  | .unexpected => "extra_forbidden"
  | .notText => "string_type"
  | .textTooShort => "string_too_short"
  | .textTooLong => "string_too_long"
  | .notReal => "float_type"
  | .unreadableReal => "float_parsing"
  | .notWhole => "int_type"
  | .unreadableWhole => "int_parsing"
  | .oversizedWhole => "int_parsing_size"
  | .fractional => "int_from_float"
  | .notFinite => "finite_number"
  | .notTruth => "bool_type"
  | .unreadableTruth => "bool_parsing"
  | .notMember => "enum"
  | .notWord => "literal_error"
  | .notList => "list_type"
  | .listTooShort => "too_short"
  | .listTooLong => "too_long"
  | .notMap => "dict_type"
  | .notRecord => "model_type"
  | .notBody => "model_attributes_type"
  | .notPositive => "greater_than"
  | .notDate => "date_type"
  | .unreadableDate => "date_from_datetime_parsing"
  | .inexactDate => "date_from_datetime_inexact"
  | .inconsistent => "value_error"
  | .unreadableBody => "json_invalid"

/-- A mismatch and the keys that lead to it. -/
structure Issue where
  path : List String
  mismatch : Mismatch
  deriving DecidableEq, Repr

def Issue.under (key : String) (i : Issue) : Issue := { i with path := key :: i.path }

end PromptChart
