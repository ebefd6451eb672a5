import ColumnFilter.KeyMap
import ColumnFilter.Value.Conversion
import ColumnFilter.Value.Json
import Std.Data.HashMap

set_option autoImplicit false

/-!
# Rows

A row tells for the name of a field whether it holds a value there. Maps of values, JSON
objects and structures with listed fields are rows. A field of a JSON object that has no
value, because it is or contains an object, is unreadable rather than missing.
-/

namespace ColumnFilter

/-- What a row has to say about a field. -/
inductive Field where
  | present (value : Value)
  /-- The row has the field, but no target can equal what it holds. -/
  | unreadable
  | missing
  deriving DecidableEq

/-- Things with fields to filter by. -/
class Row (ρ : Type) where
  field : ρ → String → Field

def Field.ofOption : Option Value → Field
  | some value => .present value
  | none => .missing

instance : Row (KeyMap String Value) where
  field row name := .ofOption (row.get? name)

instance : Row (Std.HashMap String Value) where
  field row name := .ofOption row[name]?

def Field.ofJson (json : Json) : Field :=
  match Value.ofJson json with
  | .ok value => .present value
  | .error _ => .unreadable

instance : Row (KeyMap String Json) where
  field row name :=
    match row.get? name with
    | some json => .ofJson json
    | none => .missing

/-- Structures whose listed fields can be filtered by. Fields that are not listed do not
show. -/
class Record (ρ : Type) where
  fields : List (String × (ρ → Value))

instance {ρ : Type} [Record ρ] : Row ρ where
  field row name := .ofOption ((Record.fields.lookup name).map fun project => project row)

def Record.listed {ρ α : Type} [ToValue α] (name : String) (project : ρ → α) :
    String × (ρ → Value) :=
  (name, fun row => toValue (project row))

/-- A row together with its place in a list. -/
instance {ρ : Type} [Row ρ] : Row (ρ × Nat) where
  field row := Row.field row.1

/-- How a field that the row does not have is evaluated. -/
inductive MissingPolicy where
  | noMatch
  | treatAsNull
  deriving DecidableEq, Inhabited

def MissingPolicy.name : MissingPolicy → String
  | .noMatch => "no_match"
  | .treatAsNull => "treat_as_null"

end ColumnFilter
