import ColumnFilter.Filter.Fingerprint
import ColumnFilter.Proofs.KeyMap
import ColumnFilter.Proofs.Text.Bytes

set_option autoImplicit false

/-!
# Streams of fingerprints tell filters apart

An encoding splits off if what follows an encoded thing never blurs where it ends: two
streams that start with encodings and agree start with the same thing and go on alike.
Words split off by their width, and lists by the number of items written before them. No
stream of a filter is then the beginning of the stream of another one. Lengths count up to
the largest that four bytes hold, and that one is included.
-/

namespace ColumnFilter

namespace Fingerprint

/-- The largest length that is written as it is. -/
def maxLength : Nat := 0xffffffff

/-- Encoded things can be told from the front of a stream, and so can what follows them. -/
def SplitsOff {α : Type} (fits : α → Prop) (bytes : α → List UInt8) : Prop :=
  ∀ {a b : α} {after behind : List UInt8}, fits a → fits b →
    bytes a ++ after = bytes b ++ behind → a = b ∧ after = behind

section Combinators

variable {α : Type} {fits : α → Prop} {bytes : α → List UInt8}

theorem SplitsOff.of_width (width : Nat) (sameWidth : ∀ a, (bytes a).length = width)
    (injective : ∀ {a b : α}, fits a → fits b → bytes a = bytes b → a = b) :
    SplitsOff fits bytes := by
  intro a b after behind fitsA fitsB same
  have widths : (bytes a).length = (bytes b).length := by rw [sameWidth, sameWidth]
  obtain ⟨front, rest⟩ := List.append_inj same widths
  exact ⟨injective fitsA fitsB front, rest⟩

/-- Items written one after the other can be told apart once their number is known. -/
theorem SplitsOff.items (item : SplitsOff fits bytes) {a b : List α}
    {after behind : List UInt8} (sameLength : a.length = b.length)
    (fitsA : ∀ entry ∈ a, fits entry) (fitsB : ∀ entry ∈ b, fits entry)
    (same : a.flatMap bytes ++ after = b.flatMap bytes ++ behind) :
    a = b ∧ after = behind := by
  induction a generalizing b with
  | nil =>
      have empty : b = [] := List.length_eq_zero_iff.mp sameLength.symm
      subst empty
      exact ⟨rfl, same⟩
  | cons head tail ih =>
      cases b with
      | nil => cases sameLength
      | cons other others =>
          simp only [List.flatMap_cons, List.append_assoc] at same
          obtain ⟨sameHead, tails⟩ :=
            item (fitsA head List.mem_cons_self) (fitsB other List.mem_cons_self) same
          obtain ⟨sameTail, rest⟩ := ih (Nat.succ.inj sameLength)
            (fun entry member => fitsA entry (List.mem_cons_of_mem _ member))
            (fun entry member => fitsB entry (List.mem_cons_of_mem _ member)) tails
          exact ⟨List.cons_eq_cons.mpr ⟨sameHead, sameTail⟩, rest⟩

end Combinators

/-! ## Words, lengths and texts -/

theorem sha256_wordBytes_injective {v w : UInt32}
    (same : Sha256.wordBytes v = Sha256.wordBytes w) : v = w := by
  have boundV := v.toNat_lt
  have boundW := w.toNat_lt
  apply UInt32.toNat_inj.mp
  simp only [Sha256.wordBytes, List.cons.injEq, and_true, ← UInt8.toNat_inj,
    UInt32.toNat_toUInt8, UInt32.toNat_shiftRight, Nat.shiftRight_eq_div_pow,
    UInt32.reduceToNat, Nat.reduceMod, Nat.reducePow] at same
  omega

theorem sha256_wordBytes_length (word : UInt32) : (Sha256.wordBytes word).length = 4 := rfl

theorem wordBytes_injective {v w : UInt64} (same : wordBytes v = wordBytes w) : v = w := by
  have boundV := v.toNat_lt
  have boundW := w.toNat_lt
  rw [wordBytes, wordBytes] at same
  obtain ⟨high, low⟩ := List.append_inj same
    (by rw [sha256_wordBytes_length, sha256_wordBytes_length])
  have sameHigh := congrArg UInt32.toNat (sha256_wordBytes_injective high)
  have sameLow := congrArg UInt32.toNat (sha256_wordBytes_injective low)
  apply UInt64.toNat_inj.mp
  simp only [UInt64.toNat_toUInt32, UInt64.toNat_shiftRight, Nat.shiftRight_eq_div_pow,
    UInt64.reduceToNat, Nat.reduceMod, Nat.reducePow] at sameHigh sameLow
  omega

theorem lengthBytes_injective {m n : Nat} (fitsM : m ≤ maxLength) (fitsN : n ≤ maxLength)
    (same : lengthBytes m = lengthBytes n) : m = n := by
  have words := congrArg UInt32.toNat (sha256_wordBytes_injective same)
  simp only [maxLength] at fitsM fitsN
  simp only [UInt32.toNat_ofNat', Nat.reducePow] at words
  omega

theorem lengthBytes_splitsOff : SplitsOff (· ≤ maxLength) lengthBytes :=
  SplitsOff.of_width 4 (fun _ => sha256_wordBytes_length _) lengthBytes_injective

theorem wordBytes_splitsOff : SplitsOff (fun _ => True) wordBytes := by
  have width : ∀ word, (wordBytes word).length = 8 := by
    intro word
    rw [wordBytes, List.length_append, sha256_wordBytes_length, sha256_wordBytes_length]
  apply SplitsOff.of_width 8 width
  intro v w _ _ same
  exact wordBytes_injective same

theorem textBytes_splitsOff : SplitsOff (fun s => s.utf8ByteSize ≤ maxLength) textBytes := by
  intro s t after behind fitsS fitsT same
  have bytesOf : ∀ u : String, u.toUTF8.toList = u.toByteArray.data.toList := fun u => by
    rw [Text.byteArray_toList, String.toUTF8_eq_toByteArray]
  have size : ∀ u : String, u.toByteArray.data.toList.length = u.utf8ByteSize := fun u => by
    rw [Array.length_toList, ByteArray.size_data, String.size_toByteArray]
  simp only [textBytes, List.append_assoc, bytesOf, size] at same
  obtain ⟨sameSize, rest⟩ := lengthBytes_splitsOff fitsS fitsT same
  obtain ⟨sameBytes, rest⟩ := List.append_inj rest (by rw [size, size, sameSize])
  refine ⟨String.toByteArray_inj.mp ?_, rest⟩
  exact ByteArray.ext (Array.toList_inj.mp sameBytes)

/-! ## Values -/

mutual

/-- Every text and every list in a value, at any depth, is of a length that is written as it
is. -/
def ValueFits : Value → Prop
  | .text s => s.utf8ByteSize ≤ maxLength
  | .list items => items.length ≤ maxLength ∧ ItemsFit items
  | _ => True
termination_by structural value => value

def ItemsFit : List Value → Prop
  | [] => True
  | item :: rest => ValueFits item ∧ ItemsFit rest
termination_by structural items => items

end

mutual

/-- Decides whether all lengths in a value are written as they are. -/
def decideValueFits : (value : Value) → Decidable (ValueFits value)
  | .null | .bool _ | .int _ | .uint _ | .float _ => .isTrue trivial
  | .text s => inferInstanceAs (Decidable (s.utf8ByteSize ≤ maxLength))
  | .list items => @instDecidableAnd _ _ inferInstance (decideItemsFit items)
termination_by structural value => value

def decideItemsFit : (items : List Value) → Decidable (ItemsFit items)
  | [] => .isTrue trivial
  | item :: rest => @instDecidableAnd _ _ (decideValueFits item) (decideItemsFit rest)
termination_by structural items => items

end

instance : DecidablePred ValueFits := decideValueFits

theorem tag_injective {a b : ValueKind} (same : a.tag = b.tag) : a = b := by
  revert same
  cases a <;> cases b <;> decide

theorem toUInt64_injective {i j : Int64} (same : i.toUInt64 = j.toUInt64) : i = j := by
  cases i
  cases j
  cases same
  rfl

theorem bits_injective {x y : Float64} (same : x.bits = y.bits) : x = y := by
  apply Float64.eq_of_toBinary64_eq
  exact Binary64.mk.injEq _ _ ▸ same

theorem head_valueBytes (value : Value) : (valueBytes value).head? = some value.kind.tag := by
  cases value <;> rfl

theorem kind_eq_of_append {a b : Value} {after behind : List UInt8}
    (same : valueBytes a ++ after = valueBytes b ++ behind) : a.kind = b.kind := by
  have heads := congrArg List.head? same
  rw [List.head?_append, List.head?_append, head_valueBytes, head_valueBytes] at heads
  exact tag_injective (Option.some.inj heads)

mutual

theorem valueBytes_append_inj : ∀ {a b : Value} {after behind : List UInt8},
    ValueFits a → ValueFits b →
    valueBytes a ++ after = valueBytes b ++ behind → a = b ∧ after = behind
  | .null, b, _, _, _, _, same => by
      cases b with
      | null => exact ⟨rfl, (List.cons.inj same).2⟩
      | _ => nomatch kind_eq_of_append same
  | .bool x, b, _, _, _, _, same => by
      cases b with
      | bool y =>
          simp only [valueBytes, List.cons_append, List.nil_append, List.cons.injEq,
            true_and] at same
          cases x <;> cases y <;> simp_all
      | _ => nomatch kind_eq_of_append same
  | .int i, b, _, _, _, _, same => by
      cases b with
      | int j =>
          obtain ⟨words, rest⟩ := wordBytes_splitsOff trivial trivial (List.cons.inj same).2
          exact ⟨congrArg Value.int (toUInt64_injective words), rest⟩
      | _ => nomatch kind_eq_of_append same
  | .uint m, b, _, _, _, _, same => by
      cases b with
      | uint n =>
          obtain ⟨words, rest⟩ := wordBytes_splitsOff trivial trivial (List.cons.inj same).2
          exact ⟨congrArg Value.uint words, rest⟩
      | _ => nomatch kind_eq_of_append same
  | .float x, b, _, _, _, _, same => by
      cases b with
      | float y =>
          obtain ⟨words, rest⟩ := wordBytes_splitsOff trivial trivial (List.cons.inj same).2
          exact ⟨congrArg Value.float (bits_injective words), rest⟩
      | _ => nomatch kind_eq_of_append same
  | .text s, b, _, _, fitsS, fitsB, same => by
      cases b with
      | text t =>
          obtain ⟨texts, rest⟩ := textBytes_splitsOff fitsS fitsB (List.cons.inj same).2
          exact ⟨congrArg Value.text texts, rest⟩
      | _ => nomatch kind_eq_of_append same
  | .list items, b, _, _, fitsA, fitsB, same => by
      cases b with
      | list others =>
          simp only [valueBytes, List.cons_append, List.append_assoc, List.cons.injEq,
            true_and] at same
          obtain ⟨sameLength, bodies⟩ := lengthBytes_splitsOff fitsA.1 fitsB.1 same
          obtain ⟨sameItems, rest⟩ :=
            itemBytes_append_inj sameLength fitsA.2 fitsB.2 bodies
          exact ⟨congrArg Value.list sameItems, rest⟩
      | _ => nomatch kind_eq_of_append same

theorem itemBytes_append_inj : ∀ {a b : List Value} {after behind : List UInt8},
    a.length = b.length → ItemsFit a → ItemsFit b →
    itemBytes a ++ after = itemBytes b ++ behind → a = b ∧ after = behind
  | [], [], _, _, _, _, _, same => ⟨rfl, same⟩
  | [], _ :: _, _, _, sameLength, _, _, _ => nomatch sameLength
  | _ :: _, [], _, _, sameLength, _, _, _ => nomatch sameLength
  | a :: rest, b :: others, _, _, sameLength, fitsA, fitsB, same => by
      simp only [itemBytes, List.append_assoc] at same
      obtain ⟨sameItem, tails⟩ := valueBytes_append_inj fitsA.1 fitsB.1 same
      obtain ⟨sameItems, rest⟩ :=
        itemBytes_append_inj (Nat.succ.inj sameLength) fitsA.2 fitsB.2 tails
      exact ⟨List.cons_eq_cons.mpr ⟨sameItem, sameItems⟩, rest⟩

end

theorem valueBytes_splitsOff : SplitsOff ValueFits valueBytes :=
  fun fitsA fitsB same => valueBytes_append_inj fitsA fitsB same

/-! ## Columns and filters -/

/-- Every target is of lengths that are written as they are. -/
def PredicateFits (p : Predicate) : Prop :=
  ∀ entry ∈ p.entries, ValueFits entry.2

/-- The name of a column and its targets are of lengths that are written as they are. -/
def ColumnFits (entry : String × Predicate) : Prop :=
  entry.1.utf8ByteSize ≤ maxLength ∧ PredicateFits entry.2

instance : DecidablePred ColumnFits := fun entry =>
  inferInstanceAs (Decidable (_ ∧ ∀ target ∈ entry.2.entries, ValueFits target.2))

/-- The number of columns and all lengths in them are written as they are. -/
def Fits (f : Filter) : Prop :=
  f.size ≤ maxLength ∧ ∀ entry ∈ f.entries, ColumnFits entry

instance : DecidablePred Fits := fun f =>
  inferInstanceAs (Decidable (_ ∧ ∀ entry ∈ f.entries, ColumnFits entry))

theorem operatorTag_injective {a b : Operator} (same : a.tag = b.tag) : a = b := by
  revert same
  cases a <;> cases b <;> decide

theorem targetBytes_splitsOff :
    SplitsOff (fun entry : Operator × Value => ValueFits entry.2) targetBytes := by
  intro a b after behind fitsA fitsB same
  obtain ⟨sameTag, values⟩ := List.cons.inj same
  obtain ⟨sameValue, rest⟩ := valueBytes_splitsOff fitsA fitsB values
  exact ⟨Prod.ext (operatorTag_injective sameTag) sameValue, rest⟩

/-- There are two operators, so a predicate has at most two targets. -/
theorem size_le_two (p : Predicate) : p.size ≤ 2 := by
  have places : (p.targets.entries.map fun entry => entry.1.rank).Pairwise (· < ·) := by
    have sorted := p.targets.sorted
    rw [List.pairwise_map] at sorted ⊢
    exact sorted
  have bound : ∀ op : Operator, op.rank ≤ 1 := fun op => by cases op <;> decide
  change p.targets.entries.length ≤ 2
  generalize p.targets.entries = entries at places
  match entries, places with
  | [], _ => exact Nat.zero_le 2
  | [_], _ => exact Nat.le_succ 1
  | [_, _], _ => exact Nat.le_refl 2
  | a :: b :: c :: _, places =>
      simp only [List.map_cons, List.pairwise_cons, List.mem_cons, forall_eq_or_imp] at places
      have := bound c.1
      omega

theorem columnBytes_splitsOff : SplitsOff ColumnFits columnBytes := by
  intro a b after behind fitsA fitsB same
  simp only [columnBytes, List.append_assoc] at same
  obtain ⟨sameName, counted⟩ := textBytes_splitsOff fitsA.1 fitsB.1 same
  have small : ∀ p : Predicate, p.size ≤ maxLength := fun p =>
    Nat.le_trans (size_le_two p) (by decide)
  obtain ⟨sameSize, targets⟩ := lengthBytes_splitsOff (small a.2) (small b.2) counted
  obtain ⟨sameTargets, rest⟩ :=
    targetBytes_splitsOff.items sameSize fitsA.2 fitsB.2 targets
  refine ⟨Prod.ext sameName ?_, rest⟩
  exact Predicate.eq_of_entries_eq sameTargets

theorem stream_splitsOff : SplitsOff Fits stream := by
  intro f g after behind fitsF fitsG same
  simp only [stream, List.cons_append, List.append_assoc, List.cons.injEq, true_and] at same
  obtain ⟨sameSize, columns⟩ := lengthBytes_splitsOff fitsF.1 fitsG.1 same
  obtain ⟨sameColumns, rest⟩ :=
    columnBytes_splitsOff.items sameSize fitsF.2 fitsG.2 columns
  exact ⟨Filter.eq_of_entries_eq sameColumns, rest⟩

/-- The stream of a filter is the beginning of no other filter's stream, as long as all
lengths are written as they are. So equal streams have equal filters, and different filters
share a fingerprint only if their streams, which differ, share a hash. -/
theorem stream_determines_filter {f g : Filter} (fitsF : Fits f) (fitsG : Fits g) :
    (stream f <+: stream g → f = g) ∧
      (stream f = stream g ↔ f = g) ∧
      (f.fingerprint = g.fingerprint → f ≠ g →
        stream f ≠ stream g ∧ Sha256.hash (stream f) = Sha256.hash (stream g)) := by
  have beginning : stream f <+: stream g → f = g := by
    rintro ⟨more, same⟩
    rw [← List.append_nil (stream g)] at same
    exact (stream_splitsOff fitsF fitsG same).1
  have equal : stream f = stream g ↔ f = g :=
    ⟨fun same => beginning (same ▸ List.prefix_rfl), congrArg stream⟩
  refine ⟨beginning, equal, fun sameHash different => ⟨?_, sameHash⟩⟩
  exact fun same => different (equal.mp same)

/-- Texts that meet elsewhere give streams of which none is the beginning of the other. -/
theorem stream_determines_filter_adjacent_texts :
    Fits ((Predicate.equals "c").forColumn "ab") ∧
      Fits ((Predicate.equals "bc").forColumn "a") ∧
      ¬ stream ((Predicate.equals "c").forColumn "ab") <+:
        stream ((Predicate.equals "bc").forColumn "a") := by
  have fitsF : Fits ((Predicate.equals "c").forColumn "ab") := by decide
  have fitsG : Fits ((Predicate.equals "bc").forColumn "a") := by decide
  refine ⟨fitsF, fitsG, fun beginning => ?_⟩
  exact absurd ((stream_determines_filter fitsF fitsG).1 beginning) (by decide)

end Fingerprint

end ColumnFilter
