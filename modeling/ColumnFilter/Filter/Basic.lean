import ColumnFilter.Predicate.Basic

set_option autoImplicit false

/-!
# Filters

A `Filter` asks a predicate of each of its columns. Columns it does not name are free, and
the filter without columns matches every row. Its terms are the triples of column, operator
and target, in the order of columns and operators; they carry its whole meaning.
-/

namespace ColumnFilter

/-- One thing asked of one column. -/
structure Term where
  column : String
  op : Operator
  target : Value
  deriving DecidableEq

/-- The predicates asked of columns. -/
structure Filter where
  columns : KeyMap String Predicate
  deriving DecidableEq

namespace Filter

def empty : Filter := ⟨.empty⟩

instance : Inhabited Filter := ⟨empty⟩

def isEmpty (f : Filter) : Bool := f.columns.isEmpty

def size (f : Filter) : Nat := f.columns.size

def entries (f : Filter) : List (String × Predicate) := f.columns.entries

def column? (f : Filter) (column : String) : Option Predicate := f.columns.get? column

/-- Constrains one more column. A predicate already present for it is replaced. -/
def insert (f : Filter) (column : String) (p : Predicate) : Filter :=
  ⟨f.columns.insert column p⟩

/-- Collects columns. Of several predicates for one column the last stays. -/
def ofList (entries : List (String × Predicate)) : Filter :=
  ⟨.ofList entries⟩

/-- The filter with every target under the canonical integer rule. -/
def canonical (f : Filter) : Filter :=
  ⟨f.columns.map Predicate.canonical⟩

end Filter

def Predicate.terms (column : String) (p : Predicate) : List Term :=
  p.entries.map fun entry => ⟨column, entry.1, entry.2⟩

/-- The filter that asks a predicate of one column, even one that asks nothing. -/
def Predicate.forColumn (p : Predicate) (column : String) : Filter :=
  Filter.empty.insert column p

namespace Filter

/-- Everything the filter asks, in the order of columns and operators. -/
def terms (f : Filter) : List Term :=
  f.entries.flatMap fun entry => entry.2.terms entry.1

def termCount (f : Filter) : Nat :=
  f.entries.foldl (fun count entry => count + entry.2.size) 0

end Filter

end ColumnFilter
