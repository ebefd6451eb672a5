import ColumnFilter.Binary64.Rounding

set_option autoImplicit false

/-!
# The shortest decimal number that rounds to a magnitude

Every finite floating point number is a decimal number with at most 1074 places, `exact`.
`shortest` cuts its digits after one, two, up to seventeen of them and takes the nearer of
the two neighbours on that grid which `Binary64.ofDecimal` rounds to the number at hand.
Should no grid hold one, all digits are kept; so the result always rounds to that number.
-/

namespace ColumnFilter

/-- A natural number times a power of ten. -/
structure Decimal where
  significand : Nat
  exponent : Int
  deriving DecidableEq

/-- Which neighbour a number takes that lies halfway between two. -/
inductive Tie where
  | toEven
  | up
  deriving DecidableEq

namespace Decimal

/-- The magnitude of the floating point number nearest to a decimal number. -/
def magnitude (d : Decimal) : Nat :=
  Binary64.ofDecimal d.significand d.exponent

/-- A finite magnitude as a decimal number, with all its places. -/
def exact (magnitude : Nat) : Decimal :=
  ⟨Binary64.units magnitude * Nat.pow 5 1074, -1074⟩

/-- The digits without the zeros at their end. Cutting those off moves no digit. -/
def digits (d : Decimal) : List Char :=
  ((Nat.toDigits 10 d.significand).reverse.dropWhile (· == '0')).reverse

/-- How many digits stand before the decimal point. Not positive if the number starts with
zeros behind the point. -/
def point (d : Decimal) : Int :=
  (Nat.toDigits 10 d.significand).length + d.exponent

/-- The two neighbours of a number once its last `dropped` digits are cut off, the nearer
neighbour first. -/
def neighbours (tie : Tie) (d : Decimal) (dropped : Nat) : List Decimal :=
  let unit := Nat.pow 10 dropped
  let below := d.significand / unit
  let twice := 2 * (d.significand % unit)
  let lower : Decimal := ⟨below, d.exponent + dropped⟩
  let upper : Decimal := ⟨below + 1, d.exponent + dropped⟩
  let lowerFirst :=
    twice < unit || (twice == unit && tie == .toEven && below % 2 == 0)
  if lowerFirst then [lower, upper] else [upper, lower]

/-- The decimal number with the fewest digits that rounds to this magnitude. Of two with
equally many digits it is the nearer. -/
def shortest (tie : Tie) (magnitude : Nat) : Decimal :=
  let whole := exact magnitude
  let length := (Nat.toDigits 10 whole.significand).length
  let candidates := (List.range 17).flatMap fun kept => neighbours tie whole (length - 1 - kept)
  (candidates.find? fun d => d.magnitude == magnitude).getD whole

end Decimal

end ColumnFilter
