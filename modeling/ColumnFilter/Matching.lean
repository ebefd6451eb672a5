import ColumnFilter.Event
import ColumnFilter.Filter.Basic
import ColumnFilter.Row

set_option autoImplicit false

/-!
# Matching rows

A filter matches a row if every predicate holds of its column. Columns are looked at in
order, and operators in order within a column, up to the first that fails; later ones are
not evaluated and report nothing.
-/

namespace ColumnFilter

/-- Compares a value with a target. Membership in a target that is not a list is reported
and does not hold. -/
def Operator.holds (actual : Value) (op : Operator) (target : Value) : Traced Bool :=
  match op with
  | .equals => pure (actual == target)
  | .oneOf =>
      match target.items? with
      | some items => pure (items.any fun item => actual == item)
      | none => do
          Traced.report (.malformedTarget .oneOf target.kind)
          pure false

/-- All targets of a predicate, up to the first that fails. -/
def Predicate.holds (p : Predicate) (actual : Value) : Traced Bool :=
  p.entries.allM fun entry => entry.1.holds actual entry.2

/-- A predicate on a field of a row. One that asks nothing holds of every field. -/
def Predicate.matchesField (p : Predicate) (policy : MissingPolicy) (field : Field) :
    Traced Bool :=
  if p.isEmpty then pure true
  else
    match field, policy with
    | .present value, _ => p.holds value
    | .unreadable, _ => pure false
    | .missing, .noMatch => pure false
    | .missing, .treatAsNull => p.holds .null

/-- All predicates of a filter, up to the first that fails. -/
def Filter.matchesRow {ρ : Type} [Row ρ] (f : Filter) (policy : MissingPolicy) (row : ρ) :
    Traced Bool :=
  f.entries.allM fun entry => entry.2.matchesField policy (Row.field row entry.1)

end ColumnFilter
