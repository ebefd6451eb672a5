import ColumnFilter.KeyMap
import ColumnFilter.Operator.Basic
import ColumnFilter.Value.Conversion

set_option autoImplicit false

/-!
# Predicates

A `Predicate` holds what is asked of one column: a target for some of the operators. All of
them have to hold, so the predicate without targets asks nothing.
-/

namespace ColumnFilter

/-- The targets asked of one column, by operator. -/
structure Predicate where
  targets : KeyMap Operator Value
  deriving DecidableEq

namespace Predicate

def empty : Predicate := ⟨.empty⟩

instance : Inhabited Predicate := ⟨empty⟩

def isEmpty (p : Predicate) : Bool := p.targets.isEmpty

def size (p : Predicate) : Nat := p.targets.size

def entries (p : Predicate) : List (Operator × Value) := p.targets.entries

def target? (p : Predicate) (op : Operator) : Option Value := p.targets.get? op

/-- Asks one thing more. A target already present for the operator is replaced. -/
def insert (p : Predicate) (op : Operator) (target : Value) : Predicate :=
  ⟨p.targets.insert op target⟩

/-- Collects targets. Of several for one operator the last stays. -/
def ofList (entries : List (Operator × Value)) : Predicate :=
  ⟨.ofList entries⟩

/-- The predicate with one operator. Whether the target suits it is not checked. -/
def single (op : Operator) (target : Value) : Predicate :=
  empty.insert op target

def equals {α : Type} [ToValue α] (target : α) : Predicate :=
  single .equals (toValue target)

def oneOf {α : Type} [ToValue α] (targets : List α) : Predicate :=
  single .oneOf (.ofItems targets)

/-- The predicate with every target under the canonical integer rule. -/
def canonical (p : Predicate) : Predicate :=
  ⟨p.targets.map Value.canonical⟩

end Predicate

end ColumnFilter
