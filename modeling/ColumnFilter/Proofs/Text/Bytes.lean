import Mathlib.Tactic.SplitIfs

set_option autoImplicit false

/-!
# Texts in the order of their bytes

In UTF-8 the larger of two characters has the larger bytes, whatever follows them: it has the
larger first byte, or the same first byte and then larger digits. So texts are in the same
order by their characters and by their bytes.
-/

namespace ColumnFilter.Text

theorem byteArray_toList (bytes : ByteArray) : bytes.toList = bytes.data.toList := by
  have loop : ∀ (left index : Nat) (read : List UInt8), bytes.size - index = left →
      ByteArray.toList.loop bytes index read = read.reverse ++ bytes.data.toList.drop index := by
    intro left
    induction left with
    | zero =>
        intro index read done
        have past : ¬ index < bytes.size := by omega
        have nothing : bytes.data.toList.drop index = [] :=
          List.drop_eq_nil_of_le (by simpa using past)
        rw [ByteArray.toList.loop, if_neg past, nothing, List.append_nil]
    | succ left ih =>
        intro index read more
        have inside : index < bytes.size := by omega
        rw [ByteArray.toList.loop, if_pos inside, ih (index + 1) _ (by omega)]
        have next : index < bytes.data.toList.length := by simpa using inside
        rw [List.drop_eq_getElem_cons next, List.reverse_cons, List.append_assoc]
        simp [ByteArray.get!, inside]
  simpa [ByteArray.toList] using loop _ 0 [] rfl

theorem toUTF8_toList (s : String) :
    s.toUTF8.toList = s.toList.flatMap String.utf8EncodeChar := by
  rw [byteArray_toList, String.toUTF8_eq_toByteArray]
  conv => lhs; rw [← String.ofList_toList (s := s)]
  rw [String.toByteArray_ofList, List.utf8Encode, List.data_toByteArray]

/-- Characters of different sizes differ in their first bytes, characters of one size in some
digit to the base of sixty-four. -/
theorem utf8EncodeChar_append_lt {c d : Char} (before : c < d) (rest others : List UInt8) :
    String.utf8EncodeChar c ++ rest < String.utf8EncodeChar d ++ others := by
  have smaller : c.val.toNat < d.val.toNat := before
  have bound : d.val.toNat < 0x110000 := by
    have valid := d.valid
    simp only [UInt32.isValidChar, Nat.isValidChar] at valid
    omega
  -- Written as nested quotients, the digits of one byte are visible to the arithmetic of the next.
  have thousands : ∀ v, v / 4096 = v / 64 / 64 := fun v => (Nat.div_div_eq_div_mul v 64 64).symm
  have millions : ∀ v, v / 262144 = v / 64 / 64 / 64 := fun v => by
    rw [Nat.div_div_eq_div_mul, Nat.div_div_eq_div_mul]
  simp only [String.utf8EncodeChar, thousands, millions]
  split_ifs <;>
    simp only [List.cons_append, List.nil_append, List.cons_lt_cons_iff, UInt8.lt_iff_toNat_lt,
      ← UInt8.toNat_inj, UInt8.toNat_ofNat'] <;>
    omega

theorem flatMap_utf8EncodeChar_lt {chars others : List Char} (before : chars < others) :
    chars.flatMap String.utf8EncodeChar < others.flatMap String.utf8EncodeChar := by
  induction chars generalizing others with
  | nil =>
      cases others with
      | nil => exact absurd before (List.not_lt_nil _)
      | cons d more =>
          obtain ⟨first, digits, spelled⟩ :=
            List.exists_cons_of_ne_nil (@String.utf8EncodeChar_ne_nil d)
          rw [List.flatMap_nil, List.flatMap_cons, spelled, List.cons_append]
          exact List.nil_lt_cons _ _
  | cons c rest ih =>
      cases others with
      | nil => exact absurd before (List.not_lt_nil _)
      | cons d more =>
          rw [List.flatMap_cons, List.flatMap_cons]
          rcases List.cons_lt_cons_iff.mp before with smaller | ⟨same, later⟩
          · exact utf8EncodeChar_append_lt smaller _ _
          · rw [same]
            exact List.append_left_lt (ih later)

theorem bytes_lt_iff {s t : String} : s.toUTF8.toList < t.toUTF8.toList ↔ s < t := by
  have forward : ∀ {u v : String}, u < v → u.toUTF8.toList < v.toUTF8.toList := by
    intro u v before
    rw [toUTF8_toList, toUTF8_toList]
    exact flatMap_utf8EncodeChar_lt before
  constructor
  · intro before
    rcases Std.lt_trichotomy s t with smaller | same | larger
    · exact smaller
    · rw [same] at before
      exact absurd before (List.lt_irrefl _)
    · exact absurd (forward larger) (List.lt_asymm before)
  · exact forward

end ColumnFilter.Text
