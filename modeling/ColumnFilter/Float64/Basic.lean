import ColumnFilter.Binary64.Rounding

set_option autoImplicit false

/-!
# Finite floating point numbers with one zero

A `Float64` is finite and is never negative zero. On such numbers the numeric equality,
the equality of bit patterns and the total order of bit patterns agree, so they can be
compared, hashed and written by their bits.
-/

namespace ColumnFilter

/-- A finite floating point number other than negative zero. -/
structure Float64 where
  toBinary64 : Binary64
  finite : toBinary64.isFinite = true
  canonical : toBinary64.isZero = true → toBinary64 = .zero

namespace Float64

def bits (x : Float64) : UInt64 := x.toBinary64.bits

/-- Zero, which is also what negative zero is taken to. -/
def zero : Float64 := ⟨.zero, by decide, fun _ => rfl⟩

instance : Inhabited Float64 := ⟨zero⟩

/-- A finite number, with negative zero taken to zero. -/
def ofFinite (x : Binary64) (finite : x.isFinite = true) : Float64 :=
  if isZero : x.isZero then zero else ⟨x, finite, fun contrary => absurd contrary isZero⟩

/-- Keeps the finite numbers. Infinities and what is not a number are refused. -/
def ofBinary64? (x : Binary64) : Option Float64 :=
  if finite : x.isFinite then some (ofFinite x finite) else none

/-- An integer of thirty-two bits. All of them are exact. -/
def ofInt32 (n : Int32) : Float64 :=
  (ofBinary64? (.ofInt n.toInt)).getD zero

instance : BEq Float64 where
  beq x y := x.toBinary64.numericEq y.toBinary64

instance : Hashable Float64 where
  hash x := hash x.bits

/-- Comparison by the places of the bit patterns in their total order. -/
instance : Ord Float64 where
  compare x y := compare x.toBinary64.orderKey y.toBinary64.orderKey

instance : LT Float64 := ⟨fun x y => compare x y = .lt⟩

instance : LE Float64 := ⟨fun x y => compare x y ≠ .gt⟩

instance : DecidableLT Float64 := fun x y => inferInstanceAs (Decidable (compare x y = .lt))

instance : DecidableLE Float64 := fun x y => inferInstanceAs (Decidable (compare x y ≠ .gt))

theorem eq_of_toBinary64_eq {x y : Float64} (same : x.toBinary64 = y.toBinary64) : x = y := by
  cases x
  cases y
  cases same
  rfl

/-- Two numbers are equal as numbers only if they are one. -/
theorem beq_eq_true_iff {x y : Float64} : (x == y) = true ↔ x = y := by
  have notNaN : ∀ z : Float64, z.toBinary64.isNaN = false := fun z => by
    have finite := z.finite
    simp only [Binary64.isFinite, Binary64.isNaN, decide_eq_true_eq,
      decide_eq_false_iff_not] at finite ⊢
    omega
  constructor
  · intro equal
    change Binary64.numericEq _ _ = true at equal
    simp only [Binary64.numericEq, notNaN, Bool.not_false, Bool.true_and, Bool.or_eq_true,
      Bool.and_eq_true, beq_iff_eq] at equal
    apply eq_of_toBinary64_eq
    rcases equal with bits | ⟨left, right⟩
    · generalize x.toBinary64 = a at bits
      generalize y.toBinary64 = b at bits
      cases a
      cases b
      cases bits
      rfl
    · rw [x.canonical left, y.canonical right]
  · rintro rfl
    change Binary64.numericEq _ _ = true
    simp [Binary64.numericEq, notNaN]

instance : LawfulBEq Float64 where
  eq_of_beq := beq_eq_true_iff.mp
  rfl := beq_eq_true_iff.mpr rfl

instance : DecidableEq Float64 := fun x y =>
  decidable_of_iff ((x == y) = true) beq_eq_true_iff

end Float64

end ColumnFilter
