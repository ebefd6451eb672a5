import ColumnFilter.Event
import ColumnFilter.Filter.Json
import Std.Data.HashMap

set_option autoImplicit false

/-!
# Shapes

A filter may be written by column or, for one column, by operator. Untagged objects are
told apart by their keys alone: an object is read by operator if all its keys name
operators. The empty object fits both readings.
-/

namespace ColumnFilter

/-- Things with the keys of an object. -/
class Keyed (σ : Type) where
  objectKeys : σ → List String

export Keyed (objectKeys)

instance {α : Type} : Keyed (KeyMap String α) := ⟨KeyMap.keys⟩

instance {α : Type} : Keyed (Std.HashMap String α) := ⟨Std.HashMap.keys⟩

instance : Keyed Filter := ⟨fun f => f.columns.keys⟩

instance : Keyed Predicate := ⟨fun p => p.targets.keys.map Operator.name⟩

namespace ShapeKind

variable {σ : Type} [Keyed σ]

/-- True of objects that can be read by operator: every key names one. -/
def fitsByOperator (object : σ) : Bool :=
  (objectKeys object).all fun key => (Operator.ofName? key).isSome

/-- True of objects that can be read by column: those without keys, and those that cannot
be read by operator. -/
def fitsByColumn (object : σ) : Bool :=
  (objectKeys object).isEmpty || !fitsByOperator object

/-- The reading of an object with keys. Without keys it has no reading of its own. -/
def classify (object : σ) : Option ShapeKind :=
  if (objectKeys object).isEmpty then none
  else if fitsByOperator object then some .byOperator
  else some .byColumn

instance : Json.Encodable ShapeKind where
  encode kind := Json.Encoding.string kind.name

end ShapeKind

inductive Shape where
  | byColumn (f : Filter)
  | byOperator (p : Predicate)
  deriving DecidableEq

namespace Shape

def kind : Shape → ShapeKind
  | .byColumn _ => .byColumn
  | .byOperator _ => .byOperator

/-- True of shapes that are written as the empty object. -/
def isEmpty : Shape → Bool
  | .byColumn f => f.isEmpty
  | .byOperator p => p.isEmpty

def canonical : Shape → Shape
  | .byColumn f => .byColumn f.canonical
  | .byOperator p => .byOperator p.canonical

/-- A shape is written without its kind. -/
instance : Json.Encodable Shape where
  encode
    | .byColumn f => Json.encode f
    | .byOperator p => Json.encode p

/-- The filter of a shape, for which a predicate is attached to a column. The predicate
that asks nothing gives the filter without columns. -/
def attach (column : String) : Shape → Filter
  | .byColumn f => f
  | .byOperator p => if p.isEmpty then .empty else p.forColumn column

/-- Decodes an object as the shape that its keys announce. Only success is reported. -/
def ofObject (object : KeyMap String Json) : Traced (Except FilterError Shape) :=
  let kind := (ShapeKind.classify object).getD .byColumn
  let input := (Json.object object.entries).toInput
  let shape :=
    match kind with
    | .byColumn => Shape.byColumn <$> Filter.ofInput input
    | .byOperator => Shape.byOperator <$> Predicate.ofInput input
  match shape with
  | .ok shape => do
      Traced.report (.shapeClassified kind)
      pure (.ok shape)
  | .error error => pure (.error (.json (.data error)))

/-- Decodes a JSON tree, which must be an object. -/
def ofJson : Json → Traced (Except FilterError Shape)
  | .object members => ofObject (.ofList members)
  | .null => pure (.error (.notAnObject .null))
  | .bool _ => pure (.error (.notAnObject .bool))
  | .number _ => pure (.error (.notAnObject .number))
  | .string _ => pure (.error (.notAnObject .string))
  | .array _ => pure (.error (.notAnObject .array))

/-- Decodes a JSON text. The whole text is read first, so it must be JSON to its end. -/
def ofText (text : String) : Traced (Except FilterError Shape) :=
  match Json.ofText text with
  | .ok json => ofJson json
  | .error error => pure (.error (.json error))

end Shape

end ColumnFilter
