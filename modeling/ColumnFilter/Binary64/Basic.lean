set_option autoImplicit false

/-!
# Binary floating point numbers

A `Binary64` is sixty-four bits: one sign, eleven exponent and fifty-two fraction bits.
The bits below the sign are its magnitude. Magnitudes below `infinity` are finite and
stand, in order, for the multiples `units` of `2 ^ -1074`; so the value of a finite number
is the exact integer `scaled`, in units of `2 ^ -1074`.
-/

namespace ColumnFilter

/-- The sixty-four bits of a floating point number, in any pattern. -/
structure Binary64 where
  bits : UInt64
  deriving DecidableEq, Hashable

namespace Binary64

/-- What the sign bit counts for, `2 ^ 63`. -/
def signUnit : Nat := 0x8000000000000000

/-- What the lowest bit of the exponent counts for, `2 ^ 52`. -/
def exponentUnit : Nat := 0x10000000000000

/-- The magnitude of the infinities. Larger magnitudes are not numbers. -/
def infinity : Nat := 2047 * exponentUnit

/-- The number with a given sign and magnitude. The magnitude is taken below `signUnit`. -/
def ofMagnitude (negative : Bool) (magnitude : Nat) : Binary64 :=
  ⟨UInt64.ofNat ((if negative then signUnit else 0) + magnitude % signUnit)⟩

def negative (x : Binary64) : Bool :=
  signUnit ≤ x.bits.toNat

/-- Exponent and fraction, read as one natural number. -/
def magnitude (x : Binary64) : Nat :=
  x.bits.toNat % signUnit

def isFinite (x : Binary64) : Bool :=
  x.magnitude < infinity

def isNaN (x : Binary64) : Bool :=
  infinity < x.magnitude

def isZero (x : Binary64) : Bool :=
  x.magnitude = 0

def zero : Binary64 := ⟨0⟩

/-- What a finite magnitude stands for, in units of `2 ^ -1074`. Below `exponentUnit` it
counts the units itself; above, the exponent scales a significand of fifty-three bits. -/
def units (magnitude : Nat) : Nat :=
  if magnitude < exponentUnit then magnitude
  else
    (exponentUnit + magnitude % exponentUnit) <<< (magnitude / exponentUnit - 1)

/-- The exact value of a finite number, in units of `2 ^ -1074`. -/
def scaled (x : Binary64) : Int :=
  if x.negative then -(units x.magnitude : Int) else (units x.magnitude : Int)

/-- Equality of floating point numbers: what is not a number equals nothing, and the two
zeros are equal. -/
def numericEq (x y : Binary64) : Bool :=
  !x.isNaN && !y.isNaN && (x.bits == y.bits || (x.isZero && y.isZero))

/-- The place of a bit pattern in the total order of all patterns: negative patterns come
first, the larger magnitude before the smaller. -/
def orderKey (x : Binary64) : Int :=
  if x.negative then -1 - (x.magnitude : Int) else (x.magnitude : Int)

end Binary64

end ColumnFilter
