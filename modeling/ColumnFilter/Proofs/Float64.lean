import ColumnFilter.Matching
import ColumnFilter.Proofs.Binary64
import ColumnFilter.Proofs.Fingerprint
import ColumnFilter.Proofs.Members
import ColumnFilter.Proofs.Value.Json
import ColumnFilter.Value.Hash

set_option autoImplicit false

/-!
# Floating point numbers as keys

Equality compares floating point numbers as numbers, their order compares bit patterns, and
hashes and fingerprints are taken of bits. All of them agree, because a number comes without
negative zero wherever it comes from. So they agree about values, which hold such numbers at
any depth.
-/

namespace ColumnFilter

namespace Binary64

/-- Negative zero is taken to zero. Other patterns stay. -/
def withoutNegativeZero (x : Binary64) : Binary64 :=
  if x.isZero then zero else x

theorem value_withoutNegativeZero (x : Binary64) : x.withoutNegativeZero.value = x.value := by
  rw [withoutNegativeZero]
  split
  next isZero => exact (value_of_isZero isZero).symm
  · rfl

theorem ofInt_withoutNegativeZero {i : Int} (small : i.natAbs < 2 ^ 53) :
    (ofInt i).withoutNegativeZero = ofInt i := by
  rw [withoutNegativeZero]
  split
  next isZero => exact (ofInt_of_isZero small isZero).symm
  · rfl

end Binary64

/-! ## Where numbers come from -/

/-- The floating point number nearest to a number that comes as input. -/
def Input.binary64? : Input → Option Binary64
  | .signed i => some (.ofInt i.toInt)
  | .unsigned n => some (.ofInt n.toNat)
  | .float x => some x
  | _ => none

/-- The floating point number nearest to a tree that is a number. -/
def Json.binary64? : Json → Option Binary64
  | .number n => some n.toBinary64
  | _ => none

theorem Json.read_eq_number_iff {room : Nat} {document : Document} {n : Number} :
    read room document = .ok (.number n) ↔
      ∃ numeral, document = .numeral numeral ∧ numeral.number? = some n := by
  constructor
  · intro parsed
    cases document with
    | numeral numeral =>
        refine ⟨numeral, rfl, ?_⟩
        rw [read] at parsed
        cases found : numeral.number? with
        | none =>
            rw [found] at parsed
            cases parsed
        | some exact =>
            rw [found] at parsed
            cases parsed
            rfl
    | null | bool | broken => cases parsed
    | string s =>
        obtain ⟨_, _, same⟩ := except_map_eq_ok_iff.mp parsed
        cases same
    | array | object =>
        cases room with
        | zero => cases parsed
        | succ room =>
            obtain ⟨_, _, _, same⟩ := closing_eq_ok_iff.mp parsed
            cases same
  · intro described
    obtain ⟨numeral, same, found⟩ := described
    rw [same, read, found]
    rfl

namespace Float64

/-- Where a number comes from: a pattern, an integer, the default or something decoded. -/
inductive Origin where
  | pattern (x : Binary64)
  | int32 (n : Int32)
  | default
  | input (content : Input)
  | text (content : String)

/-- The number that is made, unless it is refused. -/
def Origin.number? : Origin → Option Float64
  | .pattern x => ofBinary64? x
  | .int32 n => some (ofInt32 n)
  | .default => some Inhabited.default
  | .input content => (ofInput content).toOption
  | .text content => (ofText content).toOption

/-- The pattern that the number is made of. -/
def Origin.pattern? : Origin → Option Binary64
  | .pattern x => some x
  | .int32 n => some (.ofInt n.toInt)
  | .default => some .zero
  | .input content => content.binary64?
  | .text content => (Json.ofText content).toOption.bind Json.binary64?

theorem toBinary64_ofFinite (x : Binary64) (finite : x.isFinite = true) :
    (ofFinite x finite).toBinary64 = x.withoutNegativeZero := by
  rw [ofFinite, Binary64.withoutNegativeZero]
  split <;> rfl

theorem ofBinary64?_eq_some_iff {x : Binary64} {y : Float64} :
    ofBinary64? x = some y ↔ x.isFinite = true ∧ y.toBinary64 = x.withoutNegativeZero := by
  rw [ofBinary64?]
  constructor
  · intro made
    split at made
    next finite =>
      cases made
      exact ⟨finite, toBinary64_ofFinite x finite⟩
    · cases made
  · intro described
    obtain ⟨finite, same⟩ := described
    rw [dif_pos finite]
    apply congrArg some
    apply eq_of_toBinary64_eq
    rw [toBinary64_ofFinite, same]

theorem ofBinary64?_toBinary64 (x : Float64) : ofBinary64? x.toBinary64 = some x := by
  apply ofBinary64?_eq_some_iff.mpr
  refine ⟨x.finite, ?_⟩
  rw [Binary64.withoutNegativeZero]
  split
  next isZero => exact x.canonical isZero
  · rfl

theorem natAbs_toInt_lt (n : Int32) : n.toInt.natAbs < 2 ^ 53 := by
  have lower := n.le_toInt
  have upper := n.toInt_lt
  omega

/-- Integers of thirty-two bits need no check and no rounding. -/
theorem toBinary64_ofInt32 (n : Int32) : (ofInt32 n).toBinary64 = .ofInt n.toInt := by
  have small := natAbs_toInt_lt n
  have finite := Binary64.isFinite_ofInt small
  rw [ofInt32, ofBinary64?, dif_pos finite, Option.getD_some, toBinary64_ofFinite,
    Binary64.ofInt_withoutNegativeZero small]

theorem toOption_ofInput (content : Input) :
    (ofInput content).toOption = content.binary64?.bind ofBinary64? := by
  have finite : ∀ x, (ofInput.finite x).toOption = ofBinary64? x := by
    intro x
    rw [ofInput.finite]
    cases ofBinary64? x <;> rfl
  cases content with
  | signed | unsigned | float => exact finite _
  | unit | absent | present | bool | lentText | givenText | sequence | map => rfl

theorem binary64?_toInput (n : Json.Number) : n.toInput.binary64? = some n.toBinary64 := by
  cases n with
  | float x finite => rfl
  | integer i lower upper =>
      rw [Json.Number.toInput, Json.Number.toBinary64]
      split
      next negative =>
        have small : i < 0x8000000000000000 := by omega
        rw [Input.binary64?, Int64.toInt_ofInt_of_le lower small]
      next nonneg =>
        rw [Input.binary64?, Value.toNat_ofNat_of_nonneg (Int.not_lt.mp nonneg) upper]

theorem ofInput_toInput_eq_ok_iff {n : Json.Number} {x : Float64} :
    ofInput n.toInput = .ok x ↔ ofBinary64? n.toBinary64 = some x := by
  rw [← except_toOption_eq_some_iff, toOption_ofInput, binary64?_toInput, Option.bind_some]

theorem read_eq_ok_iff (room : Nat) {document : Json.Document} {x : Float64} :
    read document = .ok x ↔
      ∃ n, Json.read room document = .ok (.number n) ∧ ofBinary64? n.toBinary64 = some x := by
  constructor
  · intro decoded
    cases document with
    | numeral numeral =>
        obtain ⟨n, found, decoded⟩ := read_eq_ok decoded
        exact ⟨n, Json.read_eq_number_iff.mpr ⟨numeral, rfl, found⟩,
          ofInput_toInput_eq_ok_iff.mp decoded⟩
    | null | bool | string | array | object | broken => cases decoded
  · intro through
    obtain ⟨n, parsed, made⟩ := through
    obtain ⟨numeral, same, found⟩ := Json.read_eq_number_iff.mp parsed
    rw [same, read, found]
    exact except_mapError_eq_ok_iff.mpr (ofInput_toInput_eq_ok_iff.mpr made)

theorem ofText_eq_ok_iff {text : String} {x : Float64} :
    ofText text = .ok x ↔
      ∃ n, Json.ofText text = .ok (.number n) ∧ ofBinary64? n.toBinary64 = some x := by
  simp only [ofText, Json.ofText, Json.decodeText_eq_ok_iff, read_eq_ok_iff Json.depthLimit,
    and_assoc, exists_and_left]

/-- Every way to make a number refuses and changes patterns alike. -/
theorem Origin.number?_eq (origin : Origin) : origin.number? = origin.pattern?.bind ofBinary64? := by
  cases origin with
  | pattern x => rfl
  | int32 n =>
      have made := ofBinary64?_toBinary64 (ofInt32 n)
      rw [toBinary64_ofInt32] at made
      exact made.symm
  | default => exact (ofBinary64?_toBinary64 zero).symm
  | input content => exact toOption_ofInput content
  | text content =>
      apply Option.ext
      intro x
      simp only [number?, pattern?, except_toOption_eq_some_iff, ofText_eq_ok_iff,
        Option.bind_eq_some_iff]
      constructor
      · intro decoded
        obtain ⟨n, parsed, made⟩ := decoded
        exact ⟨n.toBinary64, ⟨.number n, parsed, rfl⟩, made⟩
      · intro decoded
        obtain ⟨raw, ⟨json, parsed, isNumber⟩, made⟩ := decoded
        cases json with
        | number n =>
            cases isNumber
            exact ⟨n, parsed, made⟩
        | null | bool | string | array | object => cases isNumber

theorem ne_negativeZero (x : Float64) : x.toBinary64 ≠ .negativeZero := by
  intro same
  have isZero := x.canonical (same ▸ rfl)
  exact absurd (same.symm.trans isZero) (by decide)

/-! ## Order -/

/-- The rational number that a number is. -/
def value (x : Float64) : ℚ := x.toBinary64.value

theorem orderKey_lt_orderKey_iff {x y : Float64} :
    x.toBinary64.orderKey < y.toBinary64.orderKey ↔ x.value < y.value := by
  rw [Binary64.orderKey_lt_orderKey_iff x.ne_negativeZero y.ne_negativeZero]
  exact Binary64.value_lt_value_iff.symm

theorem value_injective : Function.Injective value := by
  intro x y same
  have below := mt orderKey_lt_orderKey_iff.mp same.not_lt
  have above := mt orderKey_lt_orderKey_iff.mp same.not_gt
  apply eq_of_toBinary64_eq
  apply Binary64.eq_of_orderKey_eq
  omega

theorem compare_eq_compare_value (x y : Float64) : compare x y = compare x.value y.value := by
  change compare x.toBinary64.orderKey y.toBinary64.orderKey = _
  rw [compare_iff]
  cases order : compare x.value y.value with
  | lt => exact orderKey_lt_orderKey_iff.mpr (compare_lt_iff_lt.mp order)
  | eq => exact congrArg (·.toBinary64.orderKey) (value_injective (compare_eq_iff_eq.mp order))
  | gt => exact orderKey_lt_orderKey_iff.mpr (compare_gt_iff_gt.mp order)

theorem compare_eq_compare_totalOrderBits (x y : Float64) :
    compare x y =
      compare x.toBinary64.totalOrderBits.toInt y.toBinary64.totalOrderBits.toInt := by
  rw [Binary64.toInt_totalOrderBits, Binary64.toInt_totalOrderBits]
  rfl

theorem lt_iff_value {x y : Float64} : x < y ↔ x.value < y.value := by
  rw [← compare_lt_iff_lt, ← compare_eq_compare_value]
  exact Iff.rfl

theorem le_iff_value {x y : Float64} : x ≤ y ↔ x.value ≤ y.value := by
  rw [← compare_le_iff_le, ← compare_eq_compare_value]
  exact Iff.rfl

instance : LinearOrder Float64 where
  le_refl x := le_iff_value.mpr le_rfl
  le_trans x y z below above :=
    le_iff_value.mpr ((le_iff_value.mp below).trans (le_iff_value.mp above))
  lt_iff_le_not_ge x y := by
    rw [lt_iff_value, le_iff_value, le_iff_value]
    exact lt_iff_le_not_ge
  le_antisymm x y below above :=
    value_injective (le_antisymm (le_iff_value.mp below) (le_iff_value.mp above))
  le_total x y := by
    rw [le_iff_value, le_iff_value]
    exact le_total x.value y.value
  toDecidableLE := inferInstance
  toDecidableLT := inferInstance
  toDecidableEq := inferInstance
  compare_eq_compareOfLessAndEq x y := by
    rw [compare_eq_compare_value, LinearOrder.compare_eq_compareOfLessAndEq]
    exact if_congr lt_iff_value.symm rfl (if_congr value_injective.eq_iff rfl rfl)

theorem bits_eq_iff {x y : Float64} : x.bits = y.bits ↔ x = y := by
  constructor
  · exact Fingerprint.bits_injective
  · intro same
    rw [same]

theorem hashInput_float_eq_iff {x y : Float64} :
    (Value.float x).hashInput = (Value.float y).hashInput ↔ x.bits = y.bits := by
  simp only [Value.hashInput, List.cons.injEq, true_and, and_true]

theorem value_ofInt32 (n : Int32) : (ofInt32 n).value = n.toInt := by
  rw [value, toBinary64_ofInt32, Binary64.value_ofInt (natAbs_toInt_lt n)]

/-- Numbers are made of the finite patterns, and keep their values. -/
theorem Origin.number?_eq_some_iff {origin : Origin} {x : Float64} :
    origin.number? = some x ↔ ∃ raw, origin.pattern? = some raw ∧ raw.isFinite = true ∧
      x.toBinary64 = raw.withoutNegativeZero ∧ x.value = raw.value := by
  simp only [origin.number?_eq, Option.bind_eq_some_iff, ofBinary64?_eq_some_iff]
  constructor
  · intro made
    obtain ⟨raw, found, finite, same⟩ := made
    refine ⟨raw, found, finite, same, ?_⟩
    rw [value, same, Binary64.value_withoutNegativeZero]
  · intro made
    obtain ⟨raw, found, finite, same, _⟩ := made
    exact ⟨raw, found, finite, same⟩

end Float64

/-! ## Values -/

namespace Value

/-- Values of different kinds differ already, so the kinds need not be compared. -/
theorem equals_holds_eq (a b : Value) :
    Operator.equals.holds a b = pure (decide (a.kind = b.kind) && (a == b)) := by
  by_cases same : a = b
  · subst same
    simp [Operator.holds]
  · have differ : (a == b) = false := beq_eq_false_iff_ne.mpr same
    simp [Operator.holds, differ]

theorem value_equals_holds_iff {a b : Value} :
    (Operator.equals.holds a b).value = true ↔ a = b :=
  beq_iff_eq

theorem valueBytes_eq_iff {a b : Value} (fitsA : Fingerprint.ValueFits a)
    (fitsB : Fingerprint.ValueFits b) :
    Fingerprint.valueBytes a = Fingerprint.valueBytes b ↔ a = b := by
  constructor
  · intro same
    have streams : Fingerprint.valueBytes a ++ [] = Fingerprint.valueBytes b ++ [] := by rw [same]
    exact (Fingerprint.valueBytes_splitsOff fitsA fitsB streams).1
  · intro same
    rw [same]

theorem equals_holds_equivalence :
    Equivalence fun a b : Value => (Operator.equals.holds a b).value = true := by
  simp only [value_equals_holds_iff]
  exact eq_equivalence

end Value

namespace Float64

/-- Equality, order, hashes and fingerprints agree about floating point numbers, and the order
is that of the rational numbers. Of values equality, hashes and fingerprints agree. -/
theorem comparisons_agree :
    (∀ (origin : Origin) (x : Float64),
      (origin.number? = some x ↔ ∃ raw, origin.pattern? = some raw ∧ raw.isFinite = true ∧
        x.toBinary64 = raw.withoutNegativeZero ∧ x.value = raw.value) ∧
      (origin.number? = some x → x.toBinary64.isFinite = true ∧ x.toBinary64 ≠ .negativeZero)) ∧
    (∀ n : Int32, (ofInt32 n).toBinary64 = .ofInt n.toInt ∧ (ofInt32 n).value = n.toInt) ∧
    (∀ a b : Float64,
      ((a == b) = true ↔ a.bits = b.bits) ∧
      ((a == b) = true ↔ (Value.float a).hashInput = (Value.float b).hashInput) ∧
      ((a == b) = true ↔ compare a b = .eq) ∧
      ((a == b) = true ↔ a.value = b.value)) ∧
    (∀ a b : Float64,
      compare a b =
        compare a.toBinary64.totalOrderBits.toInt b.toBinary64.totalOrderBits.toInt ∧
      compare a b = compare a.value b.value ∧
      (a < b ↔ compare a b = .lt) ∧ (a ≤ b ↔ compare a b ≠ .gt) ∧
      (a > b ↔ compare a b = .gt) ∧ (a ≥ b ↔ compare a b ≠ .lt)) ∧
    (∀ a b c : Float64,
      (a ≤ b ∨ b ≤ a) ∧ (a ≤ b → b ≤ a → a = b) ∧ (a ≤ b → b ≤ c → a ≤ c)) ∧
    (Equivalence fun a b : Value => (Operator.equals.holds a b).value = true) ∧
    (∀ a b : Value,
      Operator.equals.holds a b = pure (decide (a.kind = b.kind) && (a == b)) ∧
      ((Operator.equals.holds a b).value = true ↔ (a == b) = true) ∧
      (Fingerprint.ValueFits a → Fingerprint.ValueFits b →
        ((a == b) = true ↔ Fingerprint.valueBytes a = Fingerprint.valueBytes b)) ∧
      ((a == b) = true → a.hashInput = b.hashInput)) := by
  refine ⟨?_, ?_, ?_, ?_, ?_, Value.equals_holds_equivalence, ?_⟩
  · intro origin x
    exact ⟨Origin.number?_eq_some_iff, fun _ => ⟨x.finite, x.ne_negativeZero⟩⟩
  · intro n
    exact ⟨toBinary64_ofInt32 n, value_ofInt32 n⟩
  · intro a b
    simp only [beq_iff_eq, bits_eq_iff, hashInput_float_eq_iff, compare_eq_iff_eq,
      value_injective.eq_iff, true_and]
  · intro a b
    exact ⟨compare_eq_compare_totalOrderBits a b, compare_eq_compare_value a b,
      compare_lt_iff_lt.symm, compare_le_iff_le.symm, compare_gt_iff_gt.symm,
      compare_ge_iff_ge.symm⟩
  · intro a b c
    exact ⟨le_total a b, le_antisymm, le_trans⟩
  · intro a b
    refine ⟨Value.equals_holds_eq a b, Iff.rfl, ?_, ?_⟩
    · intro fitsA fitsB
      rw [beq_iff_eq, Value.valueBytes_eq_iff fitsA fitsB]
    · intro same
      rw [eq_of_beq same]

/-- Negative zero comes as zero, which is below the least subnormal number and, within lists,
has other bytes. -/
theorem comparisons_agree_zero_and_subnormal :
    let least : Float64 := ofFinite ⟨1⟩ (by decide)
    let one : Float64 := ofFinite ⟨0x3ff0000000000000⟩ (by decide)
    let a : Value := .list [.text "x", .list [.float zero]]
    let b : Value := .list [.text "x", .list [.float least]]
    (Origin.pattern .negativeZero).number? = some zero ∧ zero.toBinary64 ≠ .negativeZero ∧
      (zero ≤ zero ∧ zero = zero) ∧ (zero ≤ least ∧ least ≤ one ∧ zero ≤ one) ∧
      (Fingerprint.ValueFits a ∧ Fingerprint.ValueFits b ∧
        ((a == b) = true ↔ Fingerprint.valueBytes a = Fingerprint.valueBytes b)) ∧
      ((a == a) = true ∧ a.hashInput = a.hashInput) := by
  intro least one a b
  obtain ⟨origins, _, _, _, order, _, values⟩ := comparisons_agree
  have made : (Origin.pattern .negativeZero).number? = some zero := by decide
  have fits : Fingerprint.ValueFits a ∧ Fingerprint.ValueFits b := by decide
  have lower : zero ≤ least := by decide
  have upper : least ≤ one := by decide
  exact ⟨made, ((origins _ _).2 made).2, ⟨le_refl zero, (order zero zero zero).2.1 le_rfl le_rfl⟩,
    ⟨lower, upper, (order zero least one).2.2 lower upper⟩,
    ⟨fits.1, fits.2, (values a b).2.2.1 fits.1 fits.2⟩,
    ⟨BEq.rfl, (values a a).2.2.2 BEq.rfl⟩⟩

end Float64

end ColumnFilter
