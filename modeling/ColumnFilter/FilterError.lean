import ColumnFilter.Json.Encoding

set_option autoImplicit false

/-!
# Filter errors

What can be wrong with input from outside before a filter exists. Evaluation never fails.
-/

namespace ColumnFilter

/-- What has no place among the values. -/
inductive Unsupported where
  | object
  | number (n : Json.Number)
  | nonFinite (x : Binary64)
  deriving DecidableEq

inductive NonObject where
  | null
  | bool
  | number
  | string
  | array
  deriving DecidableEq

inductive FilterError where
  | unknownOperator (name : String)
  | notAnObject (found : NonObject)
  | unsupportedValue (reason : Unsupported)
  | json (error : Json.Error)
  deriving DecidableEq

def Unsupported.describe : Unsupported → String
  | .object => "objects are not filter values"
  | .number n => "number " ++ String.ofList n.write
  | .nonFinite x => "non-finite float " ++ String.ofList (FloatFormat.plain.write x)

def NonObject.describe : NonObject → String
  | .null => "null"
  | .bool => "bool"
  | .number => "number"
  | .string => "string"
  | .array => "array"

/-- The message of a JSON error, unless the text is not JSON at all. -/
def Json.Error.message? : Json.Error → Option String
  | .malformed => none
  | .data error => some (error.message .json)

namespace FilterError

/-- The stable name of an error's class. -/
def className : FilterError → String
  | .unknownOperator _ => "unknown_operator"
  | .notAnObject _ => "not_an_object"
  | .unsupportedValue _ => "unsupported_value"
  | .json _ => "json"

/-- The message of an error, unless it speaks of a text that is not JSON. -/
def message? : FilterError → Option String
  | .unknownOperator name => some ("unknown filter operator '" ++ name ++ "'")
  | .notAnObject found => some ("expected a filter object, found " ++ found.describe)
  | .unsupportedValue reason => some ("unsupported filter value: " ++ reason.describe)
  | .json error => error.message?.map ("malformed filter payload: " ++ ·)

end FilterError

end ColumnFilter
