import ColumnFilter.Binary64.Basic

set_option autoImplicit false

/-!
# Rounding to the nearest floating point number

`nearest` rounds a quotient of natural numbers to the nearest multiple of `2 ^ -1074` that
a magnitude can stand for, and of two equally near to the even one. `ofDecimal` rounds a
decimal number in the same way, to `infinity` if it is too large to be finite.
-/

namespace ColumnFilter

/-- The quotient rounded to the nearest natural number, a half to the even neighbour. -/
def roundedQuotient (numerator denominator : Nat) : Nat :=
  let quotient := numerator / denominator
  let twice := 2 * (numerator % denominator)
  if denominator < twice ∨ (twice = denominator ∧ quotient % 2 = 1) then quotient + 1
  else quotient

namespace Binary64

/-- The magnitude nearest to `numerator / denominator` units of `2 ^ -1074`. A significand
that rounds up to the next power of two carries into the exponent field by itself. -/
def nearest (numerator denominator : Nat) : Nat :=
  let scale := (numerator / denominator).log2 - 52
  scale * exponentUnit + roundedQuotient numerator (denominator <<< scale)

/-- The magnitude nearest to `significand * 10 ^ exponent`. Powers of ten far beyond the
finite numbers are settled by their size alone. -/
def ofDecimal (significand : Nat) (exponent : Int) : Nat :=
  if significand = 0 then 0
  else if 400 < exponent then infinity
  else if exponent + significand.log2 < -400 then 0
  else
    min infinity
      (nearest ((significand * Nat.pow 10 exponent.toNat) <<< 1074)
        (Nat.pow 10 (-exponent).toNat))

def ofInt (n : Int) : Binary64 :=
  ofMagnitude (n < 0) (ofDecimal n.natAbs 0)

end Binary64

end ColumnFilter
