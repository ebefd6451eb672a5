import ColumnFilter.Json.Basic
import ColumnFilter.Binary64.Scaling

set_option autoImplicit false

/-!
# JSON numerals

A numeral keeps the leading digits that fit into sixty-four bits and counts the places of
the others. Whether it stands for a number in range is asked later, by `Numeral.number?`;
some readers never ask.
-/

namespace ColumnFilter.Json

/-- A number as written: a sign, a significand below `2 ^ 64` and a decimal exponent. -/
structure Numeral where
  negative : Bool
  significand : Nat
  significand_lt : significand < 0x10000000000000000
  exponent : Int
  /-- Written without a fraction and without an exponent, and with no digit left out. -/
  whole : Bool
  deriving DecidableEq

namespace Numeral

/-- The number a numeral stands for. Whole numerals in range are integers, save for
negative zero. For all others the significand is rounded to a floating point number, which
is then scaled by the exponent and must stay finite. -/
def number? (n : Numeral) : Option Number :=
  let value : Int := if n.negative then -(n.significand : Int) else n.significand
  let isInteger := n.whole && !(n.negative && n.significand == 0)
  if exact : isInteger ∧ -0x8000000000000000 ≤ value ∧ value < 0x10000000000000000 then
    some (.integer value exact.2.1 exact.2.2)
  else
    let significand := Binary64.ofDecimal n.significand 0
    Number.ofBinary64? (.ofMagnitude n.negative (Binary64.scaleByTen significand n.exponent))

def ofDigits (digits : List Char) : Nat :=
  Nat.ofDigitChars 10 digits 0

/-- Appends digits to a significand while it stays below `2 ^ 64`. The first digit that does
not fit is left out with all that follow it, and they are counted. -/
def absorb (significand : Nat) : List Char → Nat × Nat
  | [] => (significand, 0)
  | digit :: digits =>
      let longer := 10 * significand + (digit.toNat - '0'.toNat)
      if longer < 0x10000000000000000 then absorb longer digits
      else (significand, digits.length + 1)

theorem absorb_lt {significand : Nat} {digits : List Char}
    (fits : significand < 0x10000000000000000) :
    (absorb significand digits).1 < 0x10000000000000000 := by
  induction digits generalizing significand with
  | nil => exact fits
  | cons digit digits ih =>
      simp only [absorb]
      split
      next longer => exact ih longer
      · exact fits

/-- The numeral of some parts. Digits of the whole part that are left out raise the exponent,
and those of the fraction that are not lower it. -/
def ofParts (negative : Bool) (whole fraction : List Char) (exponent : Option Int) : Numeral :=
  let leading := absorb 0 whole
  let all := absorb leading.1 fraction
  let places : Int := exponent.getD 0 + leading.2 - (fraction.length - all.2 : Nat)
  let isWhole := leading.2 == 0 && fraction.isEmpty && exponent.isNone
  ⟨negative, all.1, absorb_lt (absorb_lt (by decide)), places, isWhole⟩

/-- A run of digits, which must not be empty, and what follows it. -/
def lexDigits? (text : List Char) : Option (List Char × List Char) :=
  let digits := text.takeWhile Char.isDigit
  if digits.isEmpty then none else some (digits, text.dropWhile Char.isDigit)

/-- The digits before the point. Only a lone zero starts with a zero. -/
def lexWhole? (text : List Char) : Option (List Char × List Char) :=
  match lexDigits? text with
  | some ('0' :: _ :: _, _) => none
  | found => found

/-- The digits of a fraction, if one follows. -/
def lexFraction? : List Char → Option (List Char × List Char)
  | '.' :: text => lexDigits? text
  | text => some ([], text)

def lexSign : List Char → Bool × List Char
  | '-' :: rest => (true, rest)
  | '+' :: rest => (false, rest)
  | rest => (false, rest)

def lexExponent? : List Char → Option (Option Int × List Char)
  | [] => some (none, [])
  | c :: text =>
      if c = 'e' ∨ c = 'E' then do
        let signed := lexSign text
        let (digits, rest) ← lexDigits? signed.2
        let size : Int := ofDigits digits
        pure (some (if signed.1 then -size else size), rest)
      else some (none, c :: text)

/-- A numeral at the start of a text, and what follows it. -/
def lex? (text : List Char) : Option (Numeral × List Char) := do
  let negative := text.head? == some '-'
  let (whole, afterWhole) ← lexWhole? (if negative then text.drop 1 else text)
  let (fraction, afterFraction) ← lexFraction? afterWhole
  let (exponent, rest) ← lexExponent? afterFraction
  pure (.ofParts negative whole fraction exponent, rest)

theorem le_ofDigitChars (significand : Nat) (digits : List Char) :
    significand ≤ Nat.ofDigitChars 10 digits significand := by
  induction digits generalizing significand with
  | nil => exact Nat.le_refl _
  | cons digit digits ih =>
      rw [Nat.ofDigitChars_cons]
      exact Nat.le_trans (by omega) (ih _)

/-- No digit is left out if the number that all of them stand for fits. -/
theorem absorb_eq_ofDigitChars {significand : Nat} {digits : List Char}
    (fits : Nat.ofDigitChars 10 digits significand < 0x10000000000000000) :
    absorb significand digits = (Nat.ofDigitChars 10 digits significand, 0) := by
  induction digits generalizing significand with
  | nil => rfl
  | cons digit digits ih =>
      rw [Nat.ofDigitChars_cons] at fits ⊢
      have longer := Nat.lt_of_le_of_lt (le_ofDigitChars _ digits) fits
      simp only [absorb, longer, ↓reduceIte, ih fits]

theorem lexDigits?_length {text digits rest : List Char}
    (lexed : lexDigits? text = some (digits, rest)) : rest.length < text.length := by
  have parts := List.takeWhile_append_dropWhile (p := Char.isDigit) (l := text)
  replace parts := congrArg List.length parts
  rw [List.length_append] at parts
  simp only [lexDigits?, List.isEmpty_iff] at lexed
  split at lexed
  · simp at lexed
  next nonempty =>
    obtain ⟨rfl, rfl⟩ := by simpa using lexed
    have := List.length_pos_iff.mpr nonempty
    omega

theorem lexWhole?_length {text digits rest : List Char}
    (lexed : lexWhole? text = some (digits, rest)) : rest.length < text.length := by
  unfold lexWhole? at lexed
  split at lexed
  · simp at lexed
  · exact lexDigits?_length lexed

theorem lexFraction?_length {text digits rest : List Char}
    (lexed : lexFraction? text = some (digits, rest)) : rest.length ≤ text.length := by
  unfold lexFraction? at lexed
  split at lexed
  · exact Nat.le_succ_of_le (Nat.le_of_lt (lexDigits?_length lexed))
  · obtain ⟨rfl, rfl⟩ := by simpa using lexed
    exact Nat.le_refl _

theorem lexSign_length (text : List Char) : (lexSign text).2.length ≤ text.length := by
  unfold lexSign
  split <;> simp

theorem lexExponent?_length {text rest : List Char} {exponent : Option Int}
    (lexed : lexExponent? text = some (exponent, rest)) : rest.length ≤ text.length := by
  unfold lexExponent? at lexed
  split at lexed
  · obtain ⟨rfl, rfl⟩ := by simpa using lexed
    exact Nat.le_refl _
  next c text =>
    split at lexed
    · obtain ⟨⟨digits, after⟩, digitsLexed, result⟩ := Option.bind_eq_some_iff.mp lexed
      obtain ⟨rfl, rfl⟩ := by simpa using result
      have := lexDigits?_length digitsLexed
      have := lexSign_length text
      simp only [List.length_cons]
      omega
    · obtain ⟨rfl, rfl⟩ := by simpa using lexed
      exact Nat.le_refl _

theorem lex?_length {text rest : List Char} {n : Numeral}
    (lexed : lex? text = some (n, rest)) : rest.length < text.length := by
  obtain ⟨⟨whole, afterWhole⟩, wholeLexed, lexed⟩ := Option.bind_eq_some_iff.mp lexed
  obtain ⟨⟨fraction, afterFraction⟩, fractionLexed, lexed⟩ :=
    Option.bind_eq_some_iff.mp lexed
  obtain ⟨⟨exponent, afterExponent⟩, exponentLexed, result⟩ :=
    Option.bind_eq_some_iff.mp lexed
  obtain ⟨rfl, rfl⟩ := by simpa using result
  have afterSign := lexWhole?_length wholeLexed
  have := lexFraction?_length fractionLexed
  have := lexExponent?_length exponentLexed
  split at afterSign
  · rw [List.length_drop] at afterSign
    omega
  · omega

end Numeral

end ColumnFilter.Json
