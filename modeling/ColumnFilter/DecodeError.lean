import ColumnFilter.Decimal.Notation
import ColumnFilter.Text.Literal

set_option autoImplicit false

/-!
# Decoding errors

What a decoder met and what it wanted instead. A `Wording` settles how the message speaks
of nulls and of floating point numbers: JSON has its own words for both.
-/

namespace ColumnFilter

/-- What a decoder found where it wanted something else. -/
inductive Found where
  | unit
  | option
  | bool (b : Bool)
  | integer (i : Int)
  | float (x : Binary64)
  | text (s : String)
  | sequence
  | map
  deriving DecidableEq

inductive Expected where
  | value
  | map
  | clause
  | float
  | unit
  deriving DecidableEq

inductive DecodeError where
  | invalidType (found : Found) (expected : Expected)
  | nonFinite (x : Binary64)
  | nonFinitePayload
  | unknownOperator (name : String)
  | missingWhere
  | repeatedWhere
  | emptyClause
  deriving DecidableEq

/-- How messages speak of a value without content and of floating point numbers. -/
structure Wording where
  unit : String
  float : FloatFormat

def Wording.json : Wording := ⟨"null", .json⟩

def Wording.general : Wording := ⟨"unit value", .diagnostic⟩

/-- Names what was found, with its value if it is a scalar. -/
def Found.describe (wording : Wording) : Found → String
  | .unit => wording.unit
  | .option => "Option value"
  | .bool b => "boolean `" ++ (if b then "true" else "false") ++ "`"
  | .integer i => "integer `" ++ toString i ++ "`"
  | .float x => "floating point `" ++ String.ofList (wording.float.write x) ++ "`"
  | .text s => "string " ++ Text.literal s
  | .sequence => "sequence"
  | .map => "map"

def Expected.describe : Expected → String
  | .value => "a scalar or a sequence of scalars"
  | .map => "a map"
  | .clause => "struct WhereClause"
  | .float => "f64"
  | .unit => "unit"

def DecodeError.message (wording : Wording) : DecodeError → String
  | .invalidType found expected =>
      "invalid type: " ++ found.describe wording ++ ", expected " ++ expected.describe
  | .nonFinite x =>
      "invalid value: " ++ (Found.float x).describe wording ++ ", expected a finite float"
  | .nonFinitePayload => "non-finite float64 payload"
  | .unknownOperator name => "unknown variant `" ++ name ++ "`, expected `eq` or `in`"
  | .missingWhere => "missing field `where`"
  | .repeatedWhere => "duplicate field `where`"
  | .emptyClause => "invalid length 0, expected struct WhereClause with 1 element"

end ColumnFilter
