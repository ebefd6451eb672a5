import ColumnFilter.Matching

set_option autoImplicit false

/-!
# Filter programs

A `Program` is a filter prepared for many rows: the columns that ask something, and the
policy for missing fields. Batches of rows keep their order, and each batch reports how
many rows it looked at and how many it kept.
-/

namespace ColumnFilter

/-- The columns of a filter that ask something, and a policy for missing fields. -/
structure Program where
  columns : List (String × Predicate)
  policy : MissingPolicy
  deriving DecidableEq

namespace Program

/-- Drops the columns that ask nothing. -/
def compile (f : Filter) : Program :=
  ⟨f.entries.filter fun entry => !entry.2.isEmpty, .noMatch⟩

def withPolicy (program : Program) (policy : MissingPolicy) : Program :=
  { program with policy }

/-- True of the program without columns, which matches every row. -/
def isTrivial (program : Program) : Bool := program.columns.isEmpty

/-- What the program asks, in the order of columns and operators. -/
def terms (program : Program) : List Term :=
  program.columns.flatMap fun entry => entry.2.terms entry.1

variable {ρ : Type} [Row ρ]

/-- All predicates of the program, up to the first that fails. -/
def eval (program : Program) (row : ρ) : Traced Bool :=
  program.columns.allM fun entry =>
    entry.2.matchesField program.policy (Row.field row entry.1)

def reportBatch (scanned matched : Nat) : Traced Unit :=
  Traced.report (.rowsFiltered (saturate scanned) (saturate matched))

/-- Looks at the rows one after the other, and counts them on the way. -/
def scanRows (program : Program) : List ρ → Nat → Traced (List ρ × Nat)
  | [], scanned => pure ([], scanned)
  | row :: rest, scanned => do
      let keep ← program.eval row
      let (kept, total) ← program.scanRows rest (scanned + 1)
      pure (if keep then row :: kept else kept, total)

/-- The rows that match, in order. -/
def filterRows (program : Program) (rows : List ρ) : Traced (List ρ) := do
  let (kept, scanned) ← program.scanRows rows 0
  reportBatch scanned kept.length
  pure kept

/-- Drops the rows that do not match, and keeps the others in order. -/
def retain (program : Program) (rows : List ρ) : Traced (List ρ) := do
  let kept ← rows.filterM program.eval
  reportBatch rows.length kept.length
  pure kept

end Program

end ColumnFilter
