import ColumnFilter.Float64.Basic

set_option autoImplicit false

/-!
# Values

A `Value` is what a filter compares with and what a row holds in a field: a scalar or a
list of values. `Value.int` holds the integers of sixty-four bits with a sign;
`Value.uint` is meant for the larger ones alone, which is the canonical integer rule.
Equality never crosses constructors: an integer differs from a float of the same size.
-/

namespace ColumnFilter

inductive Value where
  | null
  | bool (b : Bool)
  | int (i : Int64)
  | uint (n : UInt64)
  | float (x : Float64)
  | text (s : String)
  | list (items : List Value)
  deriving Inhabited

inductive ValueKind where
  | bool
  | float
  | int
  | list
  | null
  | text
  | uint
  deriving DecidableEq

/-- The byte that stands for a kind of value in fingerprints. It never changes. -/
def ValueKind.tag : ValueKind → UInt8
  | .bool => 1
  | .float => 2
  | .int => 3
  | .list => 4
  | .null => 5
  | .text => 6
  | .uint => 7

def ValueKind.label : ValueKind → String
  | .bool => "Bool"
  | .float => "Float64"
  | .int => "Int"
  | .list => "List"
  | .null => "Null"
  | .text => "Text"
  | .uint => "Uint"

namespace Value

def kind : Value → ValueKind
  | .null => .null
  | .bool _ => .bool
  | .int _ => .int
  | .uint _ => .uint
  | .float _ => .float
  | .text _ => .text
  | .list _ => .list

def isNull : Value → Bool
  | .null => true
  | _ => false

def isList : Value → Bool
  | .list _ => true
  | _ => false

def items? : Value → Option (List Value)
  | .list items => some items
  | _ => none

def text? : Value → Option String
  | .text s => some s
  | _ => none

/-- The value of an integer without a sign, by the canonical integer rule. -/
def ofUInt64 (n : UInt64) : Value :=
  if n.toNat < 0x8000000000000000 then .int n.toInt64 else .uint n

mutual

/-- Structural equality. Values of different constructors differ. -/
def beq : Value → Value → Bool
  | .null, .null => true
  | .bool a, .bool b => a == b
  | .int a, .int b => a == b
  | .uint a, .uint b => a == b
  | .float a, .float b => a == b
  | .text a, .text b => a == b
  | .list a, .list b => beqItems a b
  | _, _ => false
termination_by structural value => value

def beqItems : List Value → List Value → Bool
  | [], [] => true
  | a :: rest, b :: others => beq a b && beqItems rest others
  | _, _ => false
termination_by structural items => items

end

instance : BEq Value := ⟨beq⟩

mutual

theorem eq_of_beq : ∀ {a b : Value}, beq a b = true → a = b
  | .null, b, same => by cases b <;> simp_all [beq]
  | .bool _, b, same => by cases b <;> simp_all [beq]
  | .int _, b, same => by cases b <;> simp_all [beq]
  | .uint _, b, same => by cases b <;> simp_all [beq]
  | .float _, b, same => by cases b <;> simp_all [beq]
  | .text _, b, same => by cases b <;> simp_all [beq]
  | .list items, b, same => by
      cases b with
      | list others => exact congrArg Value.list (eq_of_beqItems same)
      | _ => simp [beq] at same

theorem eq_of_beqItems : ∀ {a b : List Value}, beqItems a b = true → a = b
  | [], b, same => by cases b <;> simp_all [beqItems]
  | item :: rest, b, same => by
      cases b with
      | nil => simp [beqItems] at same
      | cons other others =>
          simp only [beqItems, Bool.and_eq_true] at same
          rw [eq_of_beq same.1, eq_of_beqItems same.2]

end

mutual

theorem beq_self : ∀ a : Value, beq a a = true
  | .null | .bool _ | .int _ | .uint _ | .float _ | .text _ => by simp [beq]
  | .list items => beqItems_self items

theorem beqItems_self : ∀ items : List Value, beqItems items items = true
  | [] => rfl
  | item :: rest => by simp [beqItems, beq_self item, beqItems_self rest]

end

instance : LawfulBEq Value where
  eq_of_beq := eq_of_beq
  rfl := beq_self _

instance : DecidableEq Value := fun a b => decidable_of_iff ((a == b) = true) beq_iff_eq

mutual

/-- The value under the canonical integer rule at every depth. -/
def canonical : Value → Value
  | .uint n => ofUInt64 n
  | .list items => .list (canonicalItems items)
  | value => value
termination_by structural value => value

def canonicalItems : List Value → List Value
  | [] => []
  | item :: rest => canonical item :: canonicalItems rest
termination_by structural items => items

end

end Value

end ColumnFilter
