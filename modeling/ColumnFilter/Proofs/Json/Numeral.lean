import ColumnFilter.Json.Encoding
import ColumnFilter.Json.Numeral
import Mathlib.Data.List.TakeWhile

set_option autoImplicit false

/-!
# Written numbers are numerals

Whatever is written for a number is spelled as the grammar wants it: a sign, whole digits
without a superfluous zero, and a fraction and an exponent, each of which may be missing. A
numeral so spelled is read to its last character, unless what follows could go on with it.
Integers are read as themselves; floating point numbers have a fraction or an exponent, so
they are never read as integers.
-/

namespace ColumnFilter.Json

namespace Numeral

/-- The parts of a numeral, as characters. -/
structure Spelling where
  negative : Bool
  whole : List Char
  /-- The digits behind the point. Without any there is no point either. -/
  fraction : List Char
  /-- The sign and the digits of the exponent, if there is one. -/
  exponent : Option (Bool × List Char)

/-- Digits only, and at least one. -/
def AreDigits (text : List Char) : Prop :=
  text ≠ [] ∧ ∀ c ∈ text, c.isDigit = true

/-- A text that cannot go on with a numeral. -/
def Stops (text : List Char) : Prop :=
  ∀ c ∈ text.head?, c.isDigit = false ∧ c ≠ '.' ∧ c ≠ 'e' ∧ c ≠ 'E'

theorem stops_nil : Stops [] := nofun

namespace Spelling

/-- The spelling follows the grammar. -/
structure Valid (spelling : Spelling) : Prop where
  whole : AreDigits spelling.whole
  noLeadingZero : spelling.whole.head? = some '0' → spelling.whole = ['0']
  fraction : ∀ c ∈ spelling.fraction, c.isDigit = true
  exponent : ∀ part ∈ spelling.exponent, AreDigits part.2

def fractionChars (spelling : Spelling) : List Char :=
  if spelling.fraction = [] then [] else '.' :: spelling.fraction

def exponentChars (spelling : Spelling) : List Char :=
  match spelling.exponent with
  | none => []
  | some (negative, digits) => 'e' :: (if negative then '-' else '+') :: digits

def chars (spelling : Spelling) : List Char :=
  (if spelling.negative then ['-'] else []) ++ spelling.whole ++ spelling.fractionChars ++
    spelling.exponentChars

def exponentValue (spelling : Spelling) : Option Int :=
  spelling.exponent.map fun part =>
    if part.1 then -(ofDigits part.2 : Int) else (ofDigits part.2 : Int)

def numeral (spelling : Spelling) : Numeral :=
  .ofParts spelling.negative spelling.whole spelling.fraction spelling.exponentValue

end Spelling

/-! ## Reading what is spelled -/

theorem lexDigits?_append {digits rest : List Char} (areDigits : AreDigits digits)
    (stops : ∀ c ∈ rest.head?, c.isDigit = false) :
    lexDigits? (digits ++ rest) = some (digits, rest) := by
  have taken : (digits ++ rest).takeWhile Char.isDigit = digits := by
    rw [List.takeWhile_append_of_pos areDigits.2]
    cases rest with
    | nil => rw [List.takeWhile_nil, List.append_nil]
    | cons c rest =>
        rw [List.takeWhile_cons_of_neg (by simp [stops c rfl]), List.append_nil]
  have left : (digits ++ rest).dropWhile Char.isDigit = rest := by
    rw [List.dropWhile_append_of_pos areDigits.2]
    cases rest with
    | nil => rfl
    | cons c rest => rw [List.dropWhile_cons_of_neg (by simp [stops c rfl])]
  have nonempty : digits.isEmpty = false := List.isEmpty_eq_false_iff.mpr areDigits.1
  simp only [lexDigits?, taken, left, nonempty, Bool.false_eq_true, ↓reduceIte]

theorem lexWhole?_append {digits rest : List Char} (areDigits : AreDigits digits)
    (noLeadingZero : digits.head? = some '0' → digits = ['0'])
    (stops : ∀ c ∈ rest.head?, c.isDigit = false) :
    lexWhole? (digits ++ rest) = some (digits, rest) := by
  unfold lexWhole?
  rw [lexDigits?_append areDigits stops]
  split
  next second more after same =>
    obtain ⟨rfl, -⟩ := Prod.mk.inj (Option.some.inj same)
    cases noLeadingZero rfl
  · rfl

theorem lexFraction?_append {spelling : Spelling} (valid : spelling.Valid) {rest : List Char}
    (stops : ∀ c ∈ rest.head?, c.isDigit = false ∧ c ≠ '.') :
    lexFraction? (spelling.fractionChars ++ rest) = some (spelling.fraction, rest) := by
  by_cases absent : spelling.fraction = []
  · rw [Spelling.fractionChars, if_pos absent, List.nil_append, absent]
    unfold lexFraction?
    split
    next more => exact absurd rfl (stops '.' rfl).2
    · rfl
  · rw [Spelling.fractionChars, if_neg absent, List.cons_append]
    exact lexDigits?_append ⟨absent, valid.fraction⟩ fun c first => (stops c first).1

theorem lexExponent?_append {spelling : Spelling} (valid : spelling.Valid) {rest : List Char}
    (stops : Stops rest) :
    lexExponent? (spelling.exponentChars ++ rest) = some (spelling.exponentValue, rest) := by
  unfold Spelling.exponentChars Spelling.exponentValue
  cases found : spelling.exponent with
  | none =>
      cases rest with
      | nil => rfl
      | cons c rest =>
          obtain ⟨_, _, lower, upper⟩ := stops c rfl
          simp only [List.nil_append, lexExponent?, lower, upper, or_self, ↓reduceIte,
            Option.map_none]
  | some part =>
      obtain ⟨negative, digits⟩ := part
      have areDigits : AreDigits digits := valid.exponent (negative, digits) found
      have lexed := lexDigits?_append areDigits fun c first => (stops c first).1
      cases negative <;>
        simp [lexExponent?, lexSign, lexed]

/-- Neither the fraction nor the exponent can go on with the digits in front of it, and the
exponent cannot go on with a point. -/
theorem exponentChars_stops (spelling : Spelling) {rest : List Char} (stops : Stops rest) :
    ∀ c ∈ (spelling.exponentChars ++ rest).head?, c.isDigit = false ∧ c ≠ '.' := by
  intro c first
  unfold Spelling.exponentChars at first
  split at first
  · exact ⟨(stops c first).1, (stops c first).2.1⟩
  · cases Option.mem_some.mp first
    decide

theorem fractionChars_stops (spelling : Spelling) {rest : List Char} (stops : Stops rest) :
    ∀ c ∈ (spelling.fractionChars ++ (spelling.exponentChars ++ rest)).head?,
      c.isDigit = false := by
  intro c first
  unfold Spelling.fractionChars at first
  split at first
  · exact (exponentChars_stops spelling stops c first).1
  · cases Option.mem_some.mp first
    decide

theorem lex?_chars {spelling : Spelling} (valid : spelling.Valid) {rest : List Char}
    (stops : Stops rest) : lex? (spelling.chars ++ rest) = some (spelling.numeral, rest) := by
  have unsigned : ∀ tail, (spelling.whole ++ tail).head? ≠ some '-' := by
    intro tail first
    obtain ⟨nonempty, digits⟩ := valid.whole
    cases found : spelling.whole with
    | nil => exact nonempty found
    | cons c more =>
        rw [found, List.cons_append, List.head?_cons] at first
        cases Option.some.inj first
        have isDigit := digits '-' (found ▸ List.mem_cons_self)
        revert isDigit
        decide
  have sign : ((spelling.chars ++ rest).head? == some '-') = spelling.negative := by
    cases negative : spelling.negative with
    | true => simp [Spelling.chars, negative]
    | false =>
        simp only [Spelling.chars, negative, Bool.false_eq_true, ↓reduceIte, List.nil_append,
          List.append_assoc]
        exact beq_false_of_ne (unsigned _)
  have afterSign : (if spelling.negative then (spelling.chars ++ rest).drop 1
      else spelling.chars ++ rest) =
      spelling.whole ++ (spelling.fractionChars ++ (spelling.exponentChars ++ rest)) := by
    cases negative : spelling.negative <;> simp [Spelling.chars, negative]
  have wholeLexed := lexWhole?_append valid.whole valid.noLeadingZero
    (fractionChars_stops spelling stops)
  have fractionLexed := lexFraction?_append valid (exponentChars_stops spelling stops)
  have exponentLexed := lexExponent?_append valid stops
  simp only [lex?, sign, afterSign, wholeLexed, fractionLexed, exponentLexed,
    Option.bind_eq_bind, Option.bind_some, Option.pure_def, Spelling.numeral]

/-! ## Integers -/

theorem areDigits_toDigits (n : Nat) : AreDigits (Nat.toDigits 10 n) :=
  ⟨Nat.toDigits_ne_nil, fun _ member =>
    Nat.isDigit_of_mem_toDigits (by decide) (by decide) member⟩

theorem head?_toDigits_ne_zero {n : Nat} (positive : 0 < n) :
    (Nat.toDigits 10 n).head? ≠ some '0' := by
  induction n using Nat.strongRecOn with
  | ind n ih =>
      by_cases small : n < 10
      · rw [Nat.toDigits_of_lt_base small, List.head?_cons]
        have nonzero : ∀ digit < 10, 0 < digit → some digit.digitChar ≠ some '0' := by decide
        exact nonzero n small positive
      · rw [Nat.toDigits_of_base_le (by decide) (by omega)]
        cases digits : Nat.toDigits 10 (n / 10) with
        | nil => exact absurd digits Nat.toDigits_ne_nil
        | cons c more =>
            have shorter := ih (n / 10) (by omega) (by omega)
            rw [digits] at shorter
            exact shorter

theorem toDigits_noLeadingZero (n : Nat) (zero : (Nat.toDigits 10 n).head? = some '0') :
    Nat.toDigits 10 n = ['0'] := by
  cases n with
  | zero => rfl
  | succ n => exact absurd zero (head?_toDigits_ne_zero (Nat.succ_pos n))

def Spelling.ofInt (i : Int) : Spelling :=
  ⟨i < 0, Nat.toDigits 10 i.natAbs, [], none⟩

theorem Spelling.chars_ofInt (i : Int) : (ofInt i).chars = writeInt i := by
  simp [chars, ofInt, writeInt, fractionChars, exponentChars]

theorem Spelling.valid_ofInt (i : Int) : (ofInt i).Valid where
  whole := areDigits_toDigits i.natAbs
  noLeadingZero := toDigits_noLeadingZero i.natAbs
  fraction _ member := nomatch member
  exponent _ member := nomatch member

theorem number?_ofInt {i : Int} (lower : -0x8000000000000000 ≤ i)
    (upper : i < 0x10000000000000000) :
    (Spelling.ofInt i).numeral.number? = some (.integer i lower upper) := by
  have size : Nat.ofDigitChars 10 (Nat.toDigits 10 i.natAbs) 0 = i.natAbs :=
    Nat.ofDigitChars_ten_toDigits
  have absorbed : absorb 0 (Nat.toDigits 10 i.natAbs) = (i.natAbs, 0) := by
    rw [absorb_eq_ofDigitChars (by rw [size]; omega), size]
  have read : (Spelling.ofInt i).numeral = ⟨decide (i < 0), i.natAbs, by omega, 0, true⟩ := by
    simp [Spelling.numeral, Spelling.ofInt, Spelling.exponentValue, ofParts, absorbed, absorb]
  have value : (if decide (i < 0) = true then -(i.natAbs : Int) else (i.natAbs : Int)) = i := by
    split
    next negative =>
      have := of_decide_eq_true negative
      omega
    next notNegative =>
      have : ¬ i < 0 := fun negative => notNegative (decide_eq_true negative)
      omega
  have notNegativeZero : (decide (i < 0) && i.natAbs == 0) = false := by
    simp only [Bool.and_eq_false_iff, decide_eq_false_iff_not, beq_eq_false_iff_ne]
    omega
  rw [read]
  simp only [number?, value, notNegativeZero, Bool.not_false, Bool.and_true]
  exact dif_pos ⟨trivial, lower, upper⟩

end Numeral

end ColumnFilter.Json

namespace ColumnFilter.Decimal

/-- Digits are left out only behind the last that is not zero. -/
theorem digits_append_zeros (d : Decimal) :
    ∃ dropped, Nat.toDigits 10 d.significand = d.digits ++ dropped := by
  refine ⟨((Nat.toDigits 10 d.significand).reverse.takeWhile (· == '0')).reverse, ?_⟩
  rw [digits, ← List.reverse_append, List.takeWhile_append_dropWhile, List.reverse_reverse]

theorem isDigit_of_mem_digits {d : Decimal} {c : Char} (member : c ∈ d.digits) :
    c.isDigit = true := by
  obtain ⟨dropped, whole⟩ := digits_append_zeros d
  exact (Json.Numeral.areDigits_toDigits d.significand).2 c
    (whole ▸ List.mem_append_left dropped member)

theorem digits_ne_nil {d : Decimal} (nonzero : d.significand ≠ 0) : d.digits ≠ [] := by
  intro none
  have zeros : ∀ c ∈ (Nat.toDigits 10 d.significand).reverse, (c == '0') = true :=
    List.dropWhile_eq_nil_iff.mp (List.reverse_eq_nil_iff.mp none)
  cases found : Nat.toDigits 10 d.significand with
  | nil => exact Nat.toDigits_ne_nil found
  | cons c more =>
      have first := Json.Numeral.head?_toDigits_ne_zero (Nat.pos_of_ne_zero nonzero)
      have isZero := zeros c (List.mem_reverse.mpr (found ▸ List.mem_cons_self))
      rw [found, List.head?_cons] at first
      exact first (congrArg some (eq_of_beq isZero))

theorem head?_digits_ne_zero {d : Decimal} (nonzero : d.significand ≠ 0) :
    d.digits.head? ≠ some '0' := by
  obtain ⟨dropped, whole⟩ := digits_append_zeros d
  have first := Json.Numeral.head?_toDigits_ne_zero (Nat.pos_of_ne_zero nonzero)
  cases found : d.digits with
  | nil => exact absurd found (digits_ne_nil nonzero)
  | cons c more =>
      rw [whole, found] at first
      exact first

theorem units_ne_zero {magnitude : Nat} (nonzero : magnitude ≠ 0) :
    Binary64.units magnitude ≠ 0 := by
  unfold Binary64.units
  split
  · exact nonzero
  · have exponent : Binary64.exponentUnit ≠ 0 := by decide
    rw [Nat.shiftLeft_eq]
    exact Nat.mul_ne_zero (by omega) (Nat.pos_iff_ne_zero.mp (Nat.two_pow_pos _))

theorem significand_exact_ne_zero {magnitude : Nat} (nonzero : magnitude ≠ 0) :
    (exact magnitude).significand ≠ 0 := by
  have powers : ∀ places, Nat.pow 5 places ≠ 0 := fun places =>
    Nat.pos_iff_ne_zero.mp (Nat.pow_pos (by decide))
  exact Nat.mul_ne_zero (units_ne_zero nonzero) (powers 1074)

/-- The digits chosen for a number other than zero are not those of zero. -/
theorem significand_shortest_ne_zero {tie : Tie} {magnitude : Nat} (nonzero : magnitude ≠ 0) :
    (shortest tie magnitude).significand ≠ 0 := by
  have choice : ∀ candidates : List Decimal,
      ((candidates.find? fun d => d.magnitude == magnitude).getD (exact magnitude)).significand ≠
        0 := by
    intro candidates
    cases found : candidates.find? fun d => d.magnitude == magnitude with
    | none => exact significand_exact_ne_zero nonzero
    | some d =>
        intro zero
        have reads : d.magnitude = magnitude := by simpa using List.find?_some found
        rw [Option.getD_some] at zero
        rw [Decimal.magnitude, zero, Binary64.ofDecimal, if_pos rfl] at reads
        exact nonzero reads.symm
  exact choice _

end ColumnFilter.Decimal

namespace ColumnFilter.Json

/-! ## Floating point numbers -/

namespace Numeral

/-- The spelling has a fraction or an exponent, and so is not that of an integer. -/
def Spelling.Broken (spelling : Spelling) : Prop :=
  spelling.fraction ≠ [] ∨ spelling.exponent ≠ none

/-- A text without a sign that is spelled as a number with a fraction or an exponent. -/
def SpelledUnsigned (text : List Char) : Prop :=
  ∃ spelling : Spelling, spelling.Valid ∧ spelling.Broken ∧ spelling.negative = false ∧
    spelling.chars = text

/-- Digits that are neither missing nor led by a zero. -/
structure Leading (digits : List Char) : Prop where
  areDigits : AreDigits digits
  nonzero : digits.head? ≠ some '0'

theorem leading_digits {d : Decimal} (nonzero : d.significand ≠ 0) : Leading d.digits where
  areDigits := ⟨Decimal.digits_ne_nil nonzero, fun _ => Decimal.isDigit_of_mem_digits⟩
  nonzero := Decimal.head?_digits_ne_zero nonzero

theorem areDigits_zero : AreDigits ['0'] := by
  refine ⟨List.cons_ne_nil _ _, fun c member => ?_⟩
  cases List.mem_singleton.mp member
  decide

theorem isDigit_of_mem_zeros {count : Nat} {c : Char}
    (member : c ∈ List.replicate count '0') : c.isDigit = true := by
  cases List.eq_of_mem_replicate member
  decide

theorem head?_take_of_pos {digits : List Char} {count : Nat} (positive : 0 < count) :
    (digits.take count).head? = digits.head? := by
  cases count with
  | zero => cases positive
  | succ count => cases digits <;> rfl

theorem spelled_layPositional {digits : List Char} (leading : Leading digits) (point : Int) :
    SpelledUnsigned (FloatFormat.layPositional true digits point) := by
  unfold FloatFormat.layPositional
  obtain ⟨⟨nonempty, areDigits⟩, nonzero⟩ := leading
  split
  · -- The point stands in front of all digits.
    have fraction : ∀ c ∈ List.replicate (-point).toNat '0' ++ digits, c.isDigit = true := by
      intro c member
      rcases List.mem_append.mp member with zero | digit
      · exact isDigit_of_mem_zeros zero
      · exact areDigits c digit
    have present : List.replicate (-point).toNat '0' ++ digits ≠ [] := by simp [nonempty]
    refine ⟨⟨false, ['0'], List.replicate (-point).toNat '0' ++ digits, none⟩,
      ⟨areDigits_zero, fun _ => rfl, fraction, nofun⟩, .inl present, rfl, ?_⟩
    simp [Spelling.chars, Spelling.fractionChars, Spelling.exponentChars, nonempty]
  · next positive =>
    dsimp only
    have before : 0 < point.toNat := by omega
    split
    · -- The point stands behind all digits, and a zero follows it.
      have whole : ∀ c ∈ digits ++ List.replicate (point.toNat - digits.length) '0',
          c.isDigit = true := by
        intro c member
        rcases List.mem_append.mp member with digit | zero
        · exact areDigits c digit
        · exact isDigit_of_mem_zeros zero
      refine ⟨⟨false, digits ++ List.replicate (point.toNat - digits.length) '0', ['0'], none⟩,
        ⟨⟨by simp [nonempty], whole⟩, ?_, areDigits_zero.2, nofun⟩, .inl areDigits_zero.1,
        rfl, ?_⟩
      · intro zero
        cases digits with
        | nil => exact absurd rfl nonempty
        | cons c more => exact absurd zero nonzero
      · simp [Spelling.chars, Spelling.fractionChars, Spelling.exponentChars]
    · -- The point stands between two digits.
      next inside =>
      have rest : digits.drop point.toNat ≠ [] := by
        intro none
        have := List.drop_eq_nil_iff.mp none
        omega
      have front : digits.take point.toNat ≠ [] := by
        intro none
        rcases List.take_eq_nil_iff.mp none with zero | empty
        · omega
        · exact nonempty empty
      refine ⟨⟨false, digits.take point.toNat, digits.drop point.toNat, none⟩,
        ⟨⟨front, fun c member => areDigits c (List.mem_of_mem_take member)⟩, ?_,
          fun c member => areDigits c (List.mem_of_mem_drop member), nofun⟩, .inl rest, rfl, ?_⟩
      · intro zero
        rw [head?_take_of_pos before] at zero
        exact absurd zero nonzero
      · simp [Spelling.chars, Spelling.fractionChars, Spelling.exponentChars, rest]

theorem spelled_layScientific {digits : List Char} (leading : Leading digits) (exponent : Int) :
    SpelledUnsigned (FloatFormat.layScientific digits exponent) := by
  obtain ⟨⟨nonempty, areDigits⟩, nonzero⟩ := leading
  have front : digits.take 1 ≠ [] := by
    intro none
    rcases List.take_eq_nil_iff.mp none with zero | empty
    · cases zero
    · exact nonempty empty
  refine ⟨⟨false, digits.take 1, digits.drop 1,
      some (decide (exponent < 0), Nat.toDigits 10 exponent.natAbs)⟩,
    ⟨⟨front, fun c member => areDigits c (List.mem_of_mem_take member)⟩, ?_,
      fun c member => areDigits c (List.mem_of_mem_drop member), ?_⟩, .inr nofun, rfl, ?_⟩
  · intro zero
    rw [head?_take_of_pos Nat.one_pos] at zero
    exact absurd zero nonzero
  · intro part member
    cases Option.mem_some.mp member
    exact areDigits_toDigits exponent.natAbs
  · by_cases single : digits.length ≤ 1
    · have noMore : digits.drop 1 = [] := List.drop_eq_nil_of_le single
      simp [Spelling.chars, Spelling.fractionChars, Spelling.exponentChars,
        FloatFormat.layScientific, single, noMore]
    · have more : digits.tail ≠ [] := by
        rw [← List.drop_one]
        intro none
        exact single (List.drop_eq_nil_iff.mp none)
      simp [Spelling.chars, Spelling.fractionChars, Spelling.exponentChars,
        FloatFormat.layScientific, single, more]

theorem spelled_writeMagnitude (magnitude : Nat) :
    SpelledUnsigned (FloatFormat.json.writeMagnitude magnitude) := by
  unfold FloatFormat.writeMagnitude
  split
  · refine ⟨⟨false, ['0'], ['0'], none⟩,
      ⟨areDigits_zero, fun _ => rfl, areDigits_zero.2, nofun⟩, .inl areDigits_zero.1, rfl, ?_⟩
    simp [Spelling.chars, Spelling.fractionChars, Spelling.exponentChars, FloatFormat.json]
  · next nonzero =>
    have leading : Leading (Decimal.shortest FloatFormat.json.tie magnitude).digits :=
      leading_digits (Decimal.significand_shortest_ne_zero nonzero)
    dsimp only
    split
    · exact spelled_layPositional leading _
    · exact spelled_layScientific leading _

theorem exists_spelling_write {x : Binary64} (finite : x.isFinite = true) :
    ∃ spelling : Spelling, spelling.Valid ∧ spelling.Broken ∧
      spelling.chars = FloatFormat.json.write x := by
  have isNumber : x.isNaN = false := by
    simp only [Binary64.isFinite, Binary64.isNaN, decide_eq_true_eq,
      decide_eq_false_iff_not] at finite ⊢
    omega
  obtain ⟨unsigned, valid, broken, noSign, chars⟩ := spelled_writeMagnitude x.magnitude
  refine ⟨{ unsigned with negative := x.negative },
    ⟨valid.whole, valid.noLeadingZero, valid.fraction, valid.exponent⟩, broken, ?_⟩
  simp only [FloatFormat.write, isNumber, finite, Bool.false_eq_true, ↓reduceIte, ← chars,
    Spelling.chars, noSign, List.nil_append, List.append_assoc]
  rfl

theorem numeral_not_whole {spelling : Spelling} (broken : spelling.Broken) :
    spelling.numeral.whole = false := by
  rcases broken with fraction | exponent
  · simp [Spelling.numeral, ofParts, fraction]
  · have present : spelling.exponent.isSome = true := Option.isSome_iff_ne_none.mpr exponent
    simp [Spelling.numeral, Spelling.exponentValue, ofParts, present]

theorem number?_of_not_whole {n : Numeral} (notWhole : n.whole = false) {exact : Number}
    (read : n.number? = some exact) : ∃ x finite, exact = .float x finite := by
  simp only [number?, notWhole, Bool.false_and, Bool.false_eq_true, false_and, ↓reduceDIte] at read
  unfold Number.ofBinary64? at read
  split at read
  next finite => exact ⟨_, finite, (Option.some.inj read).symm⟩
  · cases read

end Numeral

/-! ## All numbers -/

theorem Number.exists_spelling (n : Number) :
    ∃ spelling : Numeral.Spelling, spelling.Valid ∧ spelling.chars = n.write := by
  cases n with
  | integer i lower upper =>
      exact ⟨.ofInt i, Numeral.Spelling.valid_ofInt i, Numeral.Spelling.chars_ofInt i⟩
  | float x finite =>
      obtain ⟨spelling, valid, _, chars⟩ := Numeral.exists_spelling_write finite
      exact ⟨spelling, valid, chars⟩

/-- The numeral that a written number is read as. -/
def Number.numeral (n : Number) : Numeral :=
  match Numeral.lex? n.write with
  | some (numeral, _) => numeral
  | none => .ofParts false [] [] none

theorem Number.numeral_of_chars {n : Number} {spelling : Numeral.Spelling}
    (valid : spelling.Valid) (chars : spelling.chars = n.write) :
    n.numeral = spelling.numeral := by
  have lexed := Numeral.lex?_chars valid Numeral.stops_nil
  rw [List.append_nil, chars] at lexed
  rw [numeral, lexed]

theorem Number.lex?_write (n : Number) {rest : List Char} (stops : Numeral.Stops rest) :
    Numeral.lex? (n.write ++ rest) = some (n.numeral, rest) := by
  obtain ⟨spelling, valid, chars⟩ := n.exists_spelling
  rw [numeral_of_chars valid chars, ← chars]
  exact Numeral.lex?_chars valid stops

theorem Number.number?_numeral_integer {i : Int} (lower : -0x8000000000000000 ≤ i)
    (upper : i < 0x10000000000000000) :
    (Number.integer i lower upper).numeral.number? = some (.integer i lower upper) := by
  have read : (Number.integer i lower upper).numeral = (Numeral.Spelling.ofInt i).numeral :=
    numeral_of_chars (Numeral.Spelling.valid_ofInt i) (Numeral.Spelling.chars_ofInt i)
  rw [read]
  exact Numeral.number?_ofInt lower upper

theorem Number.number?_numeral_float {x : Binary64} {finite : x.isFinite = true} {exact : Number}
    (read : (Number.float x finite).numeral.number? = some exact) :
    ∃ y finite, exact = .float y finite := by
  obtain ⟨spelling, valid, broken, chars⟩ := Numeral.exists_spelling_write finite
  have spelled : (Number.float x finite).numeral = spelling.numeral :=
    numeral_of_chars valid chars
  rw [spelled] at read
  exact Numeral.number?_of_not_whole (Numeral.numeral_not_whole broken) read

theorem Number.exists_cons_write (n : Number) :
    ∃ c more, n.write = c :: more ∧ (c = '-' ∨ c.isDigit = true) := by
  obtain ⟨spelling, valid, chars⟩ := n.exists_spelling
  obtain ⟨nonempty, digits⟩ := valid.whole
  rw [← chars, Numeral.Spelling.chars]
  cases spelling.negative with
  | true => exact ⟨'-', _, rfl, .inl rfl⟩
  | false =>
      cases found : spelling.whole with
      | nil => exact absurd found nonempty
      | cons c more => exact ⟨c, _, rfl, .inr (digits c (found ▸ List.mem_cons_self))⟩

end ColumnFilter.Json
