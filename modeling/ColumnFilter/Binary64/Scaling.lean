import ColumnFilter.Binary64.Rounding

set_option autoImplicit false

/-!
# Scaling by powers of ten

`scaleByTen` multiplies a magnitude by a power of ten, or divides it by one. Up to
`10 ^ maxPlaces` it takes one product or quotient with the magnitude nearest to the power.
Beyond, a product is too large, and a quotient is taken `maxPlaces` at a time. Each step
rounds, so the result need not be the magnitude nearest to the exact one.
-/

namespace ColumnFilter.Binary64

/-- The magnitude nearest to the product of two finite magnitudes. -/
def product (x y : Nat) : Nat :=
  min infinity (nearest (units x * units y) (1 <<< 1074))

/-- The magnitude nearest to the quotient of two finite magnitudes. -/
def quotient (x y : Nat) : Nat :=
  min infinity (nearest (units x <<< 1074) (units y))

/-- The exponent of the largest power of ten that is finite. -/
def maxPlaces : Nat := 308

/-- The magnitude nearest to `10 ^ places`. It is finite up to `maxPlaces`. -/
def powerOfTen (places : Nat) : Nat :=
  ofDecimal 1 places

/-- A finite magnitude divided by `10 ^ places`, at most `maxPlaces` at a time. -/
def shrinkByTen (magnitude places : Nat) : Nat :=
  if magnitude = 0 then 0
  else if places ≤ maxPlaces then quotient magnitude (powerOfTen places)
  else shrinkByTen (quotient magnitude (powerOfTen maxPlaces)) (places - maxPlaces)
termination_by places
decreasing_by
  have : 0 < maxPlaces := by decide
  omega

/-- A finite magnitude times `10 ^ exponent`, or `infinity` if that is too large. -/
def scaleByTen (magnitude : Nat) : Int → Nat
  | .ofNat places =>
      if magnitude = 0 then 0
      else if places ≤ maxPlaces then product magnitude (powerOfTen places)
      else infinity
  | .negSucc places => shrinkByTen magnitude (places + 1)

end ColumnFilter.Binary64
