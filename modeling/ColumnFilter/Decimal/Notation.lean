import ColumnFilter.Decimal.Shortest

set_option autoImplicit false

/-!
# Written floating point numbers

A `FloatFormat` decides how the digits of a floating point number are laid out. Three
formats are in use: `json` in JSON text, `plain` for display and `diagnostic` in messages.
-/

namespace ColumnFilter

/-- The decisions left open once the digits of a number are known. -/
structure FloatFormat where
  /-- The neighbour taken by a number halfway between two shortest ones. -/
  tie : Tie
  /-- The decimal exponents that are written without an exponent part. -/
  positional : Int → Bool
  /-- Whether a whole number keeps a fraction of one zero. -/
  wholeFraction : Bool

namespace FloatFormat

/-- JSON numbers always carry a fraction or an exponent. They are positional while their
first digit stands between the fifth place behind the point and the sixteenth before it. -/
def json : FloatFormat := ⟨.toEven, fun exponent => -5 ≤ exponent && exponent ≤ 15, true⟩

/-- Display never writes an exponent, nor a fraction for a whole number. -/
def plain : FloatFormat := ⟨.up, fun _ => true, false⟩

/-- Messages never write an exponent, and tell a whole number by its fraction. -/
def diagnostic : FloatFormat := ⟨.up, fun _ => true, true⟩

/-- Digits around a decimal point, of which `point` stand before it. -/
def layPositional (wholeFraction : Bool) (digits : List Char) (point : Int) : List Char :=
  if point ≤ 0 then
    ['0', '.'] ++ List.replicate (-point).toNat '0' ++ digits
  else
    let before := point.toNat
    if digits.length ≤ before then
      digits ++ List.replicate (before - digits.length) '0' ++
        (if wholeFraction then ['.', '0'] else [])
    else digits.take before ++ ['.'] ++ digits.drop before

/-- The digits with the point behind the first of them, and an exponent with its sign. -/
def layScientific (digits : List Char) (exponent : Int) : List Char :=
  digits.take 1 ++ (if digits.length ≤ 1 then [] else '.' :: digits.drop 1) ++
    ['e', if exponent < 0 then '-' else '+'] ++ Nat.toDigits 10 exponent.natAbs

/-- The text of a finite magnitude. -/
def writeMagnitude (format : FloatFormat) (magnitude : Nat) : List Char :=
  if magnitude = 0 then
    '0' :: (if format.wholeFraction then ['.', '0'] else [])
  else
    let shortest := Decimal.shortest format.tie magnitude
    let exponent := shortest.point - 1
    if format.positional exponent then
      layPositional format.wholeFraction shortest.digits shortest.point
    else layScientific shortest.digits exponent

def write (format : FloatFormat) (x : Binary64) : List Char :=
  if x.isNaN then ['N', 'a', 'N']
  else
    (if x.negative then ['-'] else []) ++
      (if x.isFinite then format.writeMagnitude x.magnitude else ['i', 'n', 'f'])

end FloatFormat

end ColumnFilter
