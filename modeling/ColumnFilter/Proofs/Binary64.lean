import ColumnFilter.Binary64.Rounding
import Mathlib.Algebra.Order.Field.Power
import Mathlib.Algebra.Order.Field.Rat
import Mathlib.Order.Monotone.Basic
import Mathlib.Tactic.Ring

set_option autoImplicit false

/-!
# Exact values of floating point numbers

The order of bit patterns is the order of the rational numbers that they stand for, except
that it tells the two zeros apart. It follows from the units of magnitudes, which strictly
increase across the exponents. Integers of up to fifty-three bits are rounded to themselves.
-/

namespace ColumnFilter

namespace Binary64

/-- The rational number that a finite magnitude stands for. A significand of fifty-two bits, with
a leading one unless the exponent is zero, is scaled by a power of two. -/
def magnitudeValue (magnitude : Nat) : ℚ :=
  let exponent := magnitude / exponentUnit
  let fraction := magnitude % exponentUnit
  if exponent = 0 then (fraction : ℚ) * 2 ^ (-1074 : ℤ)
  else ((exponentUnit + fraction : ℕ) : ℚ) * 2 ^ ((exponent : ℤ) - 1075)

/-- The rational number that a finite pattern stands for. -/
def value (x : Binary64) : ℚ :=
  if x.negative then -magnitudeValue x.magnitude else magnitudeValue x.magnitude

/-- The bits of a pattern as an integer with a sign. Below a sign bit all bits are flipped. -/
def totalOrderBits (x : Binary64) : Int64 :=
  let bits := x.bits.toInt64
  bits ^^^ ((bits >>> 63).toUInt64 >>> 1).toInt64

def negativeZero : Binary64 := ⟨0x8000000000000000⟩

/-! ## Units -/

theorem units_of_lt {magnitude : Nat} (small : magnitude < exponentUnit) :
    units magnitude = magnitude :=
  if_pos small

section Fields

variable {exponent fraction : Nat}

theorem div_of_fields (bound : fraction < exponentUnit) :
    (exponent * exponentUnit + fraction) / exponentUnit = exponent := by
  simp only [exponentUnit] at bound ⊢
  omega

theorem mod_of_fields (bound : fraction < exponentUnit) :
    (exponent * exponentUnit + fraction) % exponentUnit = fraction := by
  simp only [exponentUnit] at bound ⊢
  omega

theorem units_of_fields (bound : fraction < exponentUnit) :
    units ((exponent + 1) * exponentUnit + fraction) =
      (exponentUnit + fraction) * 2 ^ exponent := by
  have large : ¬ (exponent + 1) * exponentUnit + fraction < exponentUnit := by
    simp only [exponentUnit]
    omega
  rw [units, if_neg large, div_of_fields bound, mod_of_fields bound, Nat.shiftLeft_eq,
    Nat.add_sub_cancel]

theorem magnitudeValue_of_fields (bound : fraction < exponentUnit) :
    magnitudeValue ((exponent + 1) * exponentUnit + fraction) =
      ((exponentUnit + fraction : ℕ) : ℚ) * 2 ^ ((exponent + 1 : ℕ) - 1075 : ℤ) := by
  rw [magnitudeValue, div_of_fields bound, mod_of_fields bound, if_neg (Nat.succ_ne_zero exponent)]

end Fields

theorem small_or_fields (magnitude : Nat) :
    magnitude < exponentUnit ∨ ∃ exponent fraction, fraction < exponentUnit ∧
      magnitude = (exponent + 1) * exponentUnit + fraction := by
  by_cases small : magnitude < exponentUnit
  · exact .inl small
  · right
    refine ⟨magnitude / exponentUnit - 1, magnitude % exponentUnit,
      Nat.mod_lt _ (by decide), ?_⟩
    simp only [exponentUnit] at small ⊢
    omega

theorem units_lt_units_succ (magnitude : Nat) : units magnitude < units (magnitude + 1) := by
  rcases small_or_fields magnitude with small | ⟨exponent, fraction, bound, fields⟩
  · rw [units_of_lt small]
    by_cases last : magnitude + 1 < exponentUnit
    · rw [units_of_lt last]
      exact Nat.lt_succ_self magnitude
    · have next : magnitude + 1 = (0 + 1) * exponentUnit + 0 := by omega
      rw [next, units_of_fields (by decide)]
      omega
  · rw [fields, units_of_fields bound]
    by_cases last : fraction + 1 < exponentUnit
    · rw [Nat.add_assoc, units_of_fields last]
      exact Nat.mul_lt_mul_of_pos_right (by omega) (Nat.two_pow_pos exponent)
    -- the last significand of an exponent is followed by twice the first one
    · have next : (exponent + 1) * exponentUnit + fraction + 1 =
          (exponent + 1 + 1) * exponentUnit + 0 := by
        simp only [exponentUnit] at bound last ⊢
        omega
      rw [next, units_of_fields (by decide)]
      calc
        (exponentUnit + fraction) * 2 ^ exponent < (exponentUnit * 2) * 2 ^ exponent :=
          Nat.mul_lt_mul_of_pos_right (by omega) (Nat.two_pow_pos exponent)
        _ = (exponentUnit + 0) * 2 ^ (exponent + 1) := by rw [Nat.pow_succ]; ring

theorem units_strictMono : StrictMono units :=
  strictMono_nat_of_lt_succ units_lt_units_succ

theorem units_pos_iff {magnitude : Nat} : 0 < units magnitude ↔ 0 < magnitude :=
  units_strictMono.lt_iff_lt (a := 0)

/-! ## Values -/

theorem magnitudeValue_eq_units (magnitude : Nat) :
    magnitudeValue magnitude = units magnitude * 2 ^ (-1074 : ℤ) := by
  rcases small_or_fields magnitude with small | ⟨exponent, fraction, bound, fields⟩
  · rw [magnitudeValue, Nat.div_eq_of_lt small, if_pos rfl, Nat.mod_eq_of_lt small,
      units_of_lt small]
  · have scale : ((exponent + 1 : ℕ) - 1075 : ℤ) = (exponent : ℤ) + -1074 := by omega
    rw [fields, magnitudeValue_of_fields bound, units_of_fields bound, scale,
      zpow_add₀ two_ne_zero, zpow_natCast, ← mul_assoc, Nat.cast_mul, Nat.cast_pow, Nat.cast_ofNat]

theorem value_eq_scaled (x : Binary64) : x.value = x.scaled * 2 ^ (-1074 : ℤ) := by
  rw [value, scaled, magnitudeValue_eq_units]
  cases x.negative with
  | true => simp
  | false => simp

/-- The two zeros stand for one number. -/
theorem value_of_isZero {x : Binary64} (isZero : x.isZero = true) : x.value = zero.value := by
  have magnitude : x.magnitude = 0 := of_decide_eq_true isZero
  rw [value_eq_scaled, value_eq_scaled, scaled, magnitude]
  cases x.negative <;> rfl

theorem value_lt_value_iff {x y : Binary64} : x.value < y.value ↔ x.scaled < y.scaled := by
  have positive : (0 : ℚ) < 2 ^ (-1074 : ℤ) := zpow_pos two_pos _
  rw [value_eq_scaled, value_eq_scaled, mul_lt_mul_iff_left₀ positive, Int.cast_lt]

/-! ## Order -/

theorem eq_of_bits_eq {x y : Binary64} (same : x.bits = y.bits) : x = y := by
  cases x
  cases y
  cases same
  rfl

theorem magnitude_pos_of_negative {x : Binary64} (oneZero : x ≠ negativeZero)
    (negative : x.negative = true) : 0 < x.magnitude := by
  apply Nat.pos_of_ne_zero
  intro isZero
  apply oneZero
  apply eq_of_bits_eq
  apply UInt64.toNat_inj.mp
  have bound := x.bits.toNat_lt
  have sign : signUnit ≤ x.bits.toNat := of_decide_eq_true negative
  have zero : (negativeZero.bits).toNat = signUnit := rfl
  rw [zero]
  simp only [magnitude, signUnit] at isZero sign ⊢
  omega

/-- Bit patterns are ordered as their values are, as long as neither is negative zero. -/
theorem orderKey_lt_orderKey_iff {x y : Binary64} (oneZero : x ≠ negativeZero)
    (oneZeroToo : y ≠ negativeZero) : x.orderKey < y.orderKey ↔ x.scaled < y.scaled := by
  have order := units_strictMono.lt_iff_lt (a := x.magnitude) (b := y.magnitude)
  have reverse := units_strictMono.lt_iff_lt (a := y.magnitude) (b := x.magnitude)
  have positive : 0 < units x.magnitude ↔ 0 < x.magnitude := units_pos_iff
  have positiveToo : 0 < units y.magnitude ↔ 0 < y.magnitude := units_pos_iff
  rw [orderKey, orderKey, scaled, scaled]
  cases signX : x.negative with
  | true =>
      have nonzero := magnitude_pos_of_negative oneZero signX
      cases signY : y.negative with
      | true => simp only [↓reduceIte]; omega
      | false => simp only [↓reduceIte, Bool.false_eq_true]; omega
  | false =>
      cases signY : y.negative with
      | true =>
          have nonzero := magnitude_pos_of_negative oneZeroToo signY
          simp only [↓reduceIte, Bool.false_eq_true]; omega
      | false => simp only [Bool.false_eq_true, ↓reduceIte]; omega

theorem orderKey_eq (x : Binary64) : x.orderKey =
    if signUnit ≤ x.bits.toNat then -1 - (x.magnitude : Int) else (x.magnitude : Int) := by
  simp only [orderKey, negative, decide_eq_true_eq]

theorem eq_of_orderKey_eq {x y : Binary64} (same : x.orderKey = y.orderKey) : x = y := by
  have boundX := x.bits.toNat_lt
  have boundY := y.bits.toNat_lt
  apply eq_of_bits_eq
  apply UInt64.toNat_inj.mp
  rw [orderKey_eq, orderKey_eq] at same
  split at same <;> split at same <;> simp only [magnitude, signUnit] at * <;> omega

theorem xor_two_pow_sub_one {places n : Nat} (bound : n < 2 ^ places) :
    n ^^^ (2 ^ places - 1) = 2 ^ places - (n + 1) := by
  apply Nat.eq_of_testBit_eq
  intro place
  rw [Nat.testBit_xor, Nat.testBit_two_pow_sub_one, Nat.testBit_two_pow_sub_succ bound]
  by_cases inside : place < places
  · simp [inside]
  · have larger := Nat.pow_le_pow_right two_pos (Nat.not_lt.mp inside)
    simp [inside, Nat.testBit_lt_two_pow (bound.trans_le larger)]

theorem xor_belowSign {n : Nat} (sign : signUnit ≤ n) (bound : n < 2 * signUnit) :
    n ^^^ (signUnit - 1) = 2 * signUnit - 1 - n % signUnit := by
  have top : (n ^^^ (signUnit - 1)) / signUnit = n / signUnit := by
    rw [show signUnit = 2 ^ 63 from rfl, Nat.xor_div_two_pow]
    exact Nat.xor_zero _
  have below : (n ^^^ (signUnit - 1)) % signUnit = signUnit - (n % signUnit + 1) := by
    rw [show signUnit = 2 ^ 63 from rfl, Nat.xor_mod_two_pow, Nat.mod_eq_of_lt (a := 2 ^ 63 - 1)
      (by decide), xor_two_pow_sub_one (Nat.mod_lt _ (by decide))]
  have whole := Nat.div_add_mod (n ^^^ (signUnit - 1)) signUnit
  rw [top, below] at whole
  simp only [signUnit] at *
  omega

/-- Shifted down, the sign bit fills the bits below it. -/
theorem toNat_belowSign (bits : UInt64) :
    ((bits.toInt64 >>> 63).toUInt64 >>> 1).toNat =
      if signUnit ≤ bits.toNat then signUnit - 1 else 0 := by
  have bound := bits.toNat_lt
  have shifted : (bits.toInt64 >>> 63).toUInt64.toNat =
      if signUnit ≤ bits.toNat then 2 * signUnit - 1 else 0 := by
    have places : ((63 : Int64).toBitVec.smod 64).toNat = 63 := by decide
    have signBit : bits.toBitVec.msb = decide (signUnit ≤ bits.toNat) := BitVec.msb_eq_decide _
    rw [← Int64.toNat_toBitVec, Int64.toBitVec_shiftRight, BitVec.toNat_sshiftRight', places,
      UInt64.toBitVec_toInt64, signBit, UInt64.toNat_toBitVec, Nat.shiftRight_eq_div_pow,
      Nat.shiftRight_eq_div_pow]
    by_cases sign : signUnit ≤ bits.toNat
    · rw [if_pos sign, if_pos (decide_eq_true sign)]
      simp only [signUnit] at sign ⊢
      omega
    · rw [if_neg sign, if_neg (mt of_decide_eq_true sign)]
      exact Nat.div_eq_of_lt (Nat.not_le.mp sign)
  rw [UInt64.toNat_shiftRight, shifted]
  by_cases sign : signUnit ≤ bits.toNat
  · simp only [sign, ↓reduceIte]; decide
  · simp only [sign, ↓reduceIte]; decide

theorem toInt_totalOrderBits (x : Binary64) : x.totalOrderBits.toInt = x.orderKey := by
  have bound : x.bits.toNat < 2 * signUnit := x.bits.toNat_lt
  have key : x.totalOrderBits.toBitVec.toNat =
      x.bits.toNat ^^^ if signUnit ≤ x.bits.toNat then signUnit - 1 else 0 := by
    rw [totalOrderBits, Int64.toBitVec_xor, BitVec.toNat_xor, ← toNat_belowSign]
    rfl
  rw [← Int64.toInt_toBitVec, BitVec.toInt_eq_toNat_cond, key, orderKey_eq, magnitude]
  by_cases sign : signUnit ≤ x.bits.toNat
  · rw [if_pos sign, if_pos sign, xor_belowSign sign bound]
    simp only [signUnit] at *
    omega
  · rw [if_neg sign, if_neg sign, Nat.xor_zero]
    simp only [signUnit] at *
    omega

/-! ## Integers -/

theorem toNat_ofMagnitude {negative : Bool} {magnitude : Nat} (bound : magnitude < signUnit) :
    (ofMagnitude negative magnitude).bits.toNat =
      (if negative then signUnit else 0) + magnitude := by
  rw [ofMagnitude, Nat.mod_eq_of_lt bound]
  apply UInt64.toNat_ofNat_of_lt'
  simp only [signUnit, UInt64.size] at bound ⊢
  split <;> omega

theorem negative_ofMagnitude {negative : Bool} {magnitude : Nat} (bound : magnitude < signUnit) :
    (ofMagnitude negative magnitude).negative = negative := by
  rw [Binary64.negative, toNat_ofMagnitude bound]
  cases negative with
  | true => exact decide_eq_true (Nat.le_add_right signUnit magnitude)
  | false => exact decide_eq_false (by simpa using bound)

theorem magnitude_ofMagnitude {negative : Bool} {magnitude : Nat} (bound : magnitude < signUnit) :
    (ofMagnitude negative magnitude).magnitude = magnitude := by
  rw [Binary64.magnitude, toNat_ofMagnitude bound]
  cases negative with
  | true => exact (Nat.add_mod_left signUnit magnitude).trans (Nat.mod_eq_of_lt bound)
  | false => simpa using Nat.mod_eq_of_lt bound

theorem roundedQuotient_mul {n denominator : Nat} (positive : 0 < denominator) :
    roundedQuotient (n * denominator) denominator = n := by
  simp only [roundedQuotient, Nat.mul_mod_left, Nat.mul_div_cancel n positive]
  rw [if_neg]
  omega

theorem log2_mul_two_pow {n : Nat} (nonzero : n ≠ 0) (places : Nat) :
    (n * 2 ^ places).log2 = n.log2 + places := by
  have power := Nat.two_pow_pos places
  rw [Nat.log2_eq_iff (Nat.mul_ne_zero nonzero power.ne')]
  constructor
  · rw [Nat.pow_add]
    exact Nat.mul_le_mul_right _ (Nat.log2_self_le nonzero)
  · rw [Nat.add_right_comm, Nat.pow_add]
    exact Nat.mul_lt_mul_of_pos_right Nat.lt_log2_self power

/-- The places of a unit behind the binary point. -/
def unitPlaces : Nat := 1074

/-- How many units make one. -/
def unitsOfOne : Nat := 2 ^ unitPlaces

theorem unitsOfOne_pos : 0 < unitsOfOne :=
  Nat.two_pow_pos unitPlaces

theorem shiftLeft_unitPlaces (n : Nat) : n <<< unitPlaces = n * unitsOfOne :=
  Nat.shiftLeft_eq n unitPlaces

theorem two_pow_mul_two_pow {places : Nat} (bound : places ≤ 52) :
    2 ^ (52 - places) * 2 ^ (places + 1022) = unitsOfOne := by
  have exponents : 52 - places + (places + 1022) = unitPlaces := by
    simp only [unitPlaces]
    omega
  rw [← Nat.pow_add, exponents, unitsOfOne]

theorem unitsOfOne_mul : (unitsOfOne : ℚ) * 2 ^ (-1074 : ℤ) = 1 := by
  change ((2 ^ unitPlaces : ℕ) : ℚ) * 2 ^ (-(unitPlaces : ℤ)) = 1
  rw [Nat.cast_pow, Nat.cast_ofNat, zpow_neg, zpow_natCast,
    mul_inv_cancel₀ (pow_ne_zero _ two_ne_zero)]

section Natural

variable {n : Nat}

theorem log2_le_of_lt (small : n < 2 ^ 53) : n.log2 ≤ 52 := by
  by_cases nonzero : n = 0
  · subst nonzero
    decide
  · exact Nat.le_of_lt_succ ((Nat.log2_lt nonzero).mpr small)

theorem exists_fraction (nonzero : n ≠ 0) (small : n < 2 ^ 53) :
    ∃ fraction < exponentUnit, exponentUnit + fraction = n * 2 ^ (52 - n.log2) := by
  have places := log2_le_of_lt small
  have split : ∀ more, 2 ^ (52 + more) = 2 ^ (n.log2 + more) * 2 ^ (52 - n.log2) := by
    intro more
    rw [← Nat.pow_add]
    congr 1
    omega
  have lower : exponentUnit ≤ n * 2 ^ (52 - n.log2) :=
    (split 0).trans_le (Nat.mul_le_mul_right _ (Nat.log2_self_le nonzero))
  have upper : n * 2 ^ (52 - n.log2) < 2 * exponentUnit :=
    (Nat.mul_lt_mul_of_pos_right Nat.lt_log2_self (Nat.two_pow_pos _)).trans_eq (split 1).symm
  exact ⟨n * 2 ^ (52 - n.log2) - exponentUnit, by omega, by omega⟩

/-- A natural number with a place for each of its digits is not rounded. -/
theorem exists_fields_ofDecimal (nonzero : n ≠ 0) (small : n < 2 ^ 53) :
    ∃ fraction < exponentUnit,
      ofDecimal n 0 = (n.log2 + 1022 + 1) * exponentUnit + fraction ∧
        (exponentUnit + fraction) * 2 ^ (n.log2 + 1022) = n * unitsOfOne := by
  have places := log2_le_of_lt small
  obtain ⟨fraction, bound, significand⟩ := exists_fraction nonzero small
  have scaled : (exponentUnit + fraction) * 2 ^ (n.log2 + 1022) = n * unitsOfOne := by
    rw [significand, Nat.mul_assoc, two_pow_mul_two_pow places]
  refine ⟨fraction, bound, ?_, scaled⟩
  have scale : (n * unitsOfOne).log2 - 52 = n.log2 + 1022 := by
    rw [unitsOfOne, log2_mul_two_pow nonzero]
    simp only [unitPlaces]
    omega
  have near : nearest (n * unitsOfOne) 1 = (n.log2 + 1022 + 1) * exponentUnit + fraction := by
    rw [nearest, Nat.div_one, scale, Nat.shiftLeft_eq, Nat.one_mul, ← scaled,
      roundedQuotient_mul (Nat.two_pow_pos _)]
    simp only [exponentUnit]
    omega
  have finite : (n.log2 + 1022 + 1) * exponentUnit + fraction ≤ infinity := by
    simp only [infinity, exponentUnit] at bound ⊢
    omega
  have inRange : ¬ (0 : Int) + n.log2 < -400 := by omega
  rw [ofDecimal, if_neg nonzero, if_neg (by decide), if_neg inRange]
  change min infinity (nearest ((n * 1) <<< unitPlaces) 1) = _
  rw [Nat.mul_one, shiftLeft_unitPlaces, near, Nat.min_eq_right finite]

theorem ofDecimal_lt_infinity (small : n < 2 ^ 53) : ofDecimal n 0 < infinity := by
  by_cases nonzero : n = 0
  · subst nonzero
    decide
  · have places := log2_le_of_lt small
    obtain ⟨fraction, bound, fields, _⟩ := exists_fields_ofDecimal nonzero small
    rw [fields]
    simp only [infinity, exponentUnit] at bound ⊢
    omega

theorem units_ofDecimal (small : n < 2 ^ 53) : units (ofDecimal n 0) = n * unitsOfOne := by
  by_cases nonzero : n = 0
  · subst nonzero
    rw [Nat.zero_mul]
    rfl
  · obtain ⟨fraction, bound, fields, scaled⟩ := exists_fields_ofDecimal nonzero small
    rw [fields, units_of_fields bound, scaled]

end Natural

section Signed

variable {i : Int}

theorem magnitude_ofInt (small : i.natAbs < 2 ^ 53) :
    (ofInt i).magnitude = ofDecimal i.natAbs 0 := by
  have bound := ofDecimal_lt_infinity small
  exact magnitude_ofMagnitude (bound.trans (by decide))

theorem isFinite_ofInt (small : i.natAbs < 2 ^ 53) : (ofInt i).isFinite = true := by
  rw [isFinite, magnitude_ofInt small]
  exact decide_eq_true (ofDecimal_lt_infinity small)

theorem scaled_ofInt (small : i.natAbs < 2 ^ 53) : (ofInt i).scaled = i * unitsOfOne := by
  have bound := ofDecimal_lt_infinity small
  have sign : (ofInt i).negative = decide (i < 0) := negative_ofMagnitude (bound.trans (by decide))
  rw [scaled, sign, magnitude_ofInt small, units_ofDecimal small, Nat.cast_mul]
  by_cases below : i < 0
  · rw [if_pos (decide_eq_true below), ← Int.neg_mul, Int.ofNat_natAbs_of_nonpos below.le,
      Int.neg_neg]
  · rw [if_neg (mt of_decide_eq_true below), Int.natAbs_of_nonneg (Int.not_lt.mp below)]

theorem value_ofInt (small : i.natAbs < 2 ^ 53) : (ofInt i).value = i := by
  rw [value_eq_scaled, scaled_ofInt small, Int.cast_mul, Int.cast_natCast, mul_assoc,
    unitsOfOne_mul, mul_one]

theorem ofInt_of_isZero (small : i.natAbs < 2 ^ 53) (isZero : (ofInt i).isZero = true) :
    ofInt i = zero := by
  have nothing : i.natAbs * unitsOfOne = 0 := by
    rw [← units_ofDecimal small, ← magnitude_ofInt small, of_decide_eq_true isZero]
    rfl
  rcases Nat.mul_eq_zero.mp nothing with vanishes | never
  · rw [Int.natAbs_eq_zero.mp vanishes]
    rfl
  · exact absurd never unitsOfOne_pos.ne'

end Signed

end Binary64

end ColumnFilter
