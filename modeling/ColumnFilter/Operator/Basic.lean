set_option autoImplicit false

/-!
# Operators

A column is compared with a target by one of two operators. Their names are part of the
wire form and their tags are part of fingerprints; neither ever changes.
-/

namespace ColumnFilter

inductive Operator where
  | equals
  | oneOf
  deriving DecidableEq, Inhabited

/-- Whether an operator compares with one value or with a list of them. -/
inductive Arity where
  | single
  | array
  deriving DecidableEq

namespace Operator

/-- Every operator, in the order in which a predicate is evaluated. -/
def all : List Operator := [.equals, .oneOf]

def rank : Operator → Nat
  | .equals => 0
  | .oneOf => 1

instance : LE Operator := ⟨fun a b => a.rank ≤ b.rank⟩

instance : LT Operator := ⟨fun a b => a.rank < b.rank⟩

instance : DecidableLT Operator := fun a b => inferInstanceAs (Decidable (a.rank < b.rank))

instance : DecidableLE Operator := fun a b => inferInstanceAs (Decidable (a.rank ≤ b.rank))

theorem rank_injective {a b : Operator} (same : a.rank = b.rank) : a = b := by
  cases a <;> cases b <;> simp_all [rank]

instance : Std.IsLinearOrder Operator where
  le_refl a := Nat.le_refl a.rank
  le_trans _ _ _ := Nat.le_trans
  le_antisymm _ _ below above := rank_injective (Nat.le_antisymm below above)
  le_total a b := Nat.le_total a.rank b.rank

instance : Std.LawfulOrderLT Operator where
  lt_iff a b := Nat.lt_iff_le_and_not_ge (m := a.rank) (n := b.rank)

/-- The name on the wire. -/
def name : Operator → String
  | .equals => "eq"
  | .oneOf => "in"

def ofName? (name : String) : Option Operator :=
  if name = "eq" then some .equals
  else if name = "in" then some .oneOf
  else none

/-- The byte that stands for an operator in fingerprints. -/
def tag : Operator → UInt8
  | .equals => 1
  | .oneOf => 2

/-- Equality takes one value, membership a list. -/
def arity : Operator → Arity
  | .equals => .single
  | .oneOf => .array

def takesValue (op : Operator) : Bool := op.arity = .single

def takesList (op : Operator) : Bool := op.arity = .array

end Operator

end ColumnFilter
