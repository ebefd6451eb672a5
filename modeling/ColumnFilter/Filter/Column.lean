import ColumnFilter.Filter.Clause

set_option autoImplicit false

/-!
# Building clauses

The functions `whereEquals` and `whereOneOf` build clauses of one term. A `Column` knows
the type of its fields, so that it can only be compared with members of that type.
-/

namespace ColumnFilter

/-- The clause of one term. Whether the target suits the operator is not checked. -/
def Clause.ofTerm (term : Term) : Clause :=
  ⟨(Predicate.single term.op term.target).forColumn term.column⟩

def whereEquals {α : Type} [ToValue α] (column : String) (target : α) : Clause :=
  .ofTerm ⟨column, .equals, toValue target⟩

def whereOneOf {α : Type} [ToValue α] (column : String) (targets : List α) : Clause :=
  .ofTerm ⟨column, .oneOf, .ofItems targets⟩

/-- A column whose fields are members of a type, so that only those can be asked for. -/
structure Column (α : Type) where
  name : String
  deriving DecidableEq

namespace Column

variable {α : Type}

def equals [ToValue α] (column : Column α) (target : α) : Clause :=
  whereEquals column.name target

def oneOf [ToValue α] (column : Column α) (targets : List α) : Clause :=
  whereOneOf column.name targets

def describe (column : Column α) : String :=
  "Column(" ++ Text.literal column.name ++ ")"

end Column

end ColumnFilter
