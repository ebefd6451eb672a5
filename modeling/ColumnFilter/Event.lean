import ColumnFilter.Value.Basic
import ColumnFilter.Operator.Basic

set_option autoImplicit false

/-!
# Events

The library reports what happens as events. A `Traced` computation answers a value and the
events reported on the way, in order; where they go is decided by who runs it.
-/

namespace ColumnFilter

/-- The two ways to write a filter: by column, or the predicate of one column. -/
inductive ShapeKind where
  | byColumn
  | byOperator
  deriving DecidableEq

def ShapeKind.name : ShapeKind → String
  | .byColumn => "ByColumn"
  | .byOperator => "ByOperator"

inductive Event where
  | shapeClassified (kind : ShapeKind)
  /-- An operator met a target of the wrong arity, which matches nothing. -/
  | malformedTarget (op : Operator) (found : ValueKind)
  | rowsFiltered (scanned matched : UInt64)
  deriving DecidableEq

/-- A number as a count of sixty-four bits. Larger numbers count as the largest. -/
def saturate (n : Nat) : UInt64 :=
  UInt64.ofNat (min n 0xffffffffffffffff)

/-- A value, and the events reported while it was computed. -/
structure Traced (α : Type) where
  value : α
  events : List Event
  deriving DecidableEq

namespace Traced

instance : Monad Traced where
  pure a := ⟨a, []⟩
  bind x f := ⟨(f x.value).value, x.events ++ (f x.value).events⟩

instance : LawfulMonad Traced :=
  .mk' Traced
    (fun _ => congrArg (Traced.mk _) (List.append_nil _))
    (fun _ _ => congrArg (Traced.mk _) (List.nil_append _))
    (fun _ _ _ => congrArg (Traced.mk _) (List.append_assoc _ _ _))

def report (event : Event) : Traced Unit := ⟨(), [event]⟩

end Traced

end ColumnFilter
