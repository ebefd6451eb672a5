import ColumnFilter.Proofs.Decoding
import ColumnFilter.Proofs.Json.Text

set_option autoImplicit false

/-!
# Values through text

Text is the text of the tree, so a value is read back from the document of its tree. It
comes back under the canonical integer rule if the tree fits into the room that is left,
provided that its floating point numbers read back from their own text, which not every
one does.
-/

namespace ColumnFilter

namespace Json

/-- What a reader answers that fails only where more containers are open than there is room
for. -/
def answerWithin {α : Type} (room depth : Nat) (answer : α) : Except Error α :=
  if depth ≤ room then .ok answer else .error .malformed

theorem answerWithin_zero {α : Type} (room : Nat) (answer : α) :
    answerWithin room 0 answer = .ok answer :=
  if_pos (Nat.zero_le room)

theorem answerWithin_no_room {α : Type} (depth : Nat) (answer : α) :
    answerWithin 0 (depth + 1) answer = .error .malformed :=
  if_neg (Nat.not_succ_le_zero depth)

theorem answerWithin_succ {α : Type} (room depth : Nat) (answer : α) :
    answerWithin (room + 1) (depth + 1) answer = answerWithin room depth answer := by
  simp only [answerWithin, Nat.succ_le_succ_iff]

theorem answerWithin_bind_pure {α β : Type} (room depth : Nat) (answer : α) (f : α → β) :
    (do let found ← answerWithin room depth answer; pure (f found)) =
      answerWithin room depth (f answer) := by
  unfold answerWithin
  split <;> rfl

/-- Two readers after each other have room for what they read if there is room for the
deeper of both. -/
theorem answerWithin_bind {α β : Type} (room first second : Nat) (answer : α) (f : α → β) :
    (do let found ← answerWithin room first answer; answerWithin room second (f found)) =
      answerWithin room (max first second) (f answer) := by
  unfold answerWithin
  by_cases fits : first ≤ room
  · rw [if_pos fits]
    by_cases alsoFits : second ≤ room
    · rw [if_pos (Nat.max_le.mpr ⟨fits, alsoFits⟩)]
      exact if_pos alsoFits
    · rw [if_neg fun both => alsoFits (Nat.max_le.mp both).2]
      exact if_neg alsoFits
  · rw [if_neg fits, if_neg fun both => fits (Nat.max_le.mp both).1]
    rfl

/-- What has been read with some room: it is in canonical form, and its tree fits. -/
structure ReadWithin {α : Type} [Encodable α] (canonical : α → α) (room : Nat) (a : α) : Prop where
  fixed : canonical a = a
  fits : (tree a).depth ≤ room

end Json

/-! ## Floating point numbers -/

namespace Float64

/-- The number is what its own JSON text is read as. -/
def ReadsBack (x : Float64) : Prop :=
  ofText (Json.text x) = .ok x

def toNumber (x : Float64) : Json.Number := .float x.toBinary64 x.finite

theorem ofText_text (x : Float64) : ofText (Json.text x) = read (.numeral x.toNumber.numeral) :=
  Json.decodeText_text read (.number x.toNumber)

theorem readsBack_iff {x : Float64} :
    x.ReadsBack ↔ read (.numeral x.toNumber.numeral) = .ok x := by
  rw [ReadsBack, ofText_text]

instance (x : Float64) : Decidable x.ReadsBack :=
  decidable_of_iff _ readsBack_iff.symm

/-- The reader divides by a power of ten that is rounded itself, so it takes the text of this
number for that of a neighbour. -/
example : ¬ (ofFinite ⟨3763192704426195613⟩ (by decide)).ReadsBack := by decide +kernel

theorem read_eq_ok {n : Json.Numeral} {x : Float64} (answered : read (.numeral n) = .ok x) :
    ∃ exact, n.number? = some exact ∧ ofInput exact.toInput = .ok x := by
  simp only [read] at answered
  cases found : n.number? with
  | none =>
      rw [found] at answered
      cases answered
  | some exact =>
      rw [found] at answered
      exact ⟨exact, rfl, except_mapError_eq_ok_iff.mp answered⟩

theorem ofInput_float {y : Binary64} (finite : y.isFinite = true) :
    ofInput (.float y) = .ok (ofFinite y finite) := by
  simp only [ofInput, ofInput.finite, ofBinary64?, finite, ↓reduceDIte]
  rfl

/-- A number that reads back is written with a fraction or an exponent, so that it comes
back as a floating point number even where it is integral. -/
theorem ReadsBack.ofNumber {x : Float64} (back : x.ReadsBack) :
    ∃ exact, x.toNumber.numeral.number? = some exact ∧ Value.ofNumber exact = .float x := by
  obtain ⟨exact, found, decoded⟩ := read_eq_ok (readsBack_iff.mp back)
  refine ⟨exact, found, ?_⟩
  obtain ⟨y, finite, rfl⟩ := Json.Number.number?_numeral_float found
  have same : ofFinite y finite = x := by
    change ofInput (.float y) = .ok x at decoded
    rw [ofInput_float finite] at decoded
    exact Except.ok.inj decoded
  rw [Value.ofNumber, same]

end Float64

namespace Value

/-! ## Text and tree -/

mutual

theorem encode_eq_encodeTree {τ : Type} [Json.Encoding τ] :
    ∀ v : Value, (encode v : τ) = Json.encodeTree (Json.tree v)
  | .null => rfl
  | .bool _ => rfl
  | .int _ => rfl
  | .uint _ => rfl
  | .float _ => rfl
  | .text _ => rfl
  | .list items => congrArg Json.Encoding.array (encodeItems_eq_encodeItems items)

theorem encodeItems_eq_encodeItems {τ : Type} [Json.Encoding τ] :
    ∀ items : List Value, (encodeItems items : List τ) = Json.encodeItems (encodeItems items)
  | [] => rfl
  | item :: rest => by
      rw [encodeItems, encodeItems, Json.encodeItems, encode_eq_encodeTree item,
        encodeItems_eq_encodeItems rest]
      rfl

end

theorem text_tree (v : Value) : Json.text (Json.tree v) = Json.text v :=
  congrArg String.ofList (encode_eq_encodeTree v).symm

/-! ## Reading -/

mutual

/-- The floating point numbers in a value, at any depth. -/
def floats : Value → List Float64
  | .float x => [x]
  | .list items => floatsOfItems items
  | _ => []
termination_by structural value => value

def floatsOfItems : List Value → List Float64
  | [] => []
  | item :: rest => floats item ++ floatsOfItems rest
termination_by structural items => items

end

theorem ofNumber_ofInt64 (i : Int64) : ofNumber (.ofInt64 i) = .int i := by
  have small : i.toInt < 0x8000000000000000 := i.toInt_lt
  rw [Json.Number.ofInt64, ofNumber, if_pos small, Int64.ofInt_toInt]

/-- An integer without a sign comes back under the canonical integer rule. -/
theorem ofNumber_ofUInt64 (n : UInt64) : ofNumber (.ofUInt64 n) = ofUInt64 n := by
  rw [Json.Number.ofUInt64, ofNumber]
  split
  next small =>
    have fits : n.toNat < 0x8000000000000000 := by omega
    rw [ofUInt64, if_pos fits, Int64.ofInt_eq_ofNat, ← UInt64.toInt64_ofNat', UInt64.ofNat_toNat]
  · rw [Int.toNat_natCast, UInt64.ofNat_toNat]

theorem read_numeral {n : Json.Numeral} {exact : Json.Number} (found : n.number? = some exact)
    (room : Nat) : read room (.numeral n) = .ok (ofNumber exact) := by
  rw [read, found]
  rfl

mutual

/-- The document of a value's tree is read as the value under the canonical integer rule,
unless more lists are open than there is room for. -/
theorem read_document : ∀ v : Value, (∀ x ∈ v.floats, x.ReadsBack) → ∀ room : Nat,
    read room (Json.tree v).document =
      Json.answerWithin room (Json.tree v).depth v.canonical
  | .null, _, room => (Json.answerWithin_zero room _).symm
  | .bool _, _, room => (Json.answerWithin_zero room _).symm
  | .text _, _, room => (Json.answerWithin_zero room _).symm
  | .int i, _, room => by
      have found := Json.Number.number?_numeral_integer (i := i.toInt)
        (by have := i.le_toInt; omega) (by have := i.toInt_lt; omega)
      have answered := read_numeral found room
      exact answered.trans (congrArg Except.ok (ofNumber_ofInt64 i))
  | .uint n, _, room => by
      have found := Json.Number.number?_numeral_integer (i := n.toNat)
        (by omega) (by have := n.toNat_lt; omega)
      have answered := read_numeral found room
      exact answered.trans (congrArg Except.ok (ofNumber_ofUInt64 n))
  | .float x, back, room => by
      obtain ⟨exact, found, same⟩ := (back x (List.mem_singleton.mpr rfl)).ofNumber
      have answered := read_numeral found room
      exact answered.trans (congrArg Except.ok same)
  | .list items, back, 0 => (Json.answerWithin_no_room _ _).symm
  | .list items, back, room + 1 => by
      have inner := readItems_documents items back room
      change (do
        let items ← readItems room (Json.documents (encodeItems items))
        pure (Value.list items)) =
          Json.answerWithin (room + 1) (Json.depthOfItems (encodeItems items) + 1)
            (Value.list (canonicalItems items))
      rw [inner, Json.answerWithin_bind_pure, Json.answerWithin_succ]

theorem readItems_documents : ∀ items : List Value, (∀ x ∈ floatsOfItems items, x.ReadsBack) →
    ∀ room : Nat, readItems room (Json.documents (encodeItems items)) =
      Json.answerWithin room (Json.depthOfItems (encodeItems items)) (canonicalItems items)
  | [], _, room => (Json.answerWithin_zero room _).symm
  | item :: rest, back, room => by
      have first := read_document item (fun x member => back x (List.mem_append_left _ member)) room
      have others := readItems_documents rest
        (fun x member => back x (List.mem_append_right _ member)) room
      change (do
        let item ← read room (Json.tree item).document
        let rest ← readItems room (Json.documents (encodeItems rest))
        pure (item :: rest)) = _
      simp only [first, others, Json.answerWithin_bind_pure]
      exact Json.answerWithin_bind room _ _ _ fun item => item :: canonicalItems rest

end

/-! ## What has been read -/

theorem canonical_ofUInt64 (n : UInt64) : (ofUInt64 n).canonical = ofUInt64 n := by
  by_cases small : n.toNat < 0x8000000000000000
  · rw [ofUInt64, if_pos small]
    rfl
  · have large : ofUInt64 n = .uint n := if_neg small
    rw [large, canonical, large]

theorem readWithin_ofUInt64 (room : Nat) (n : UInt64) :
    Json.ReadWithin canonical room (ofUInt64 n) := by
  refine ⟨canonical_ofUInt64 n, ?_⟩
  unfold ofUInt64
  split <;> exact Nat.zero_le room

theorem readWithin_ofNumber (room : Nat) (n : Json.Number) :
    Json.ReadWithin canonical room (ofNumber n) := by
  cases n with
  | integer i lower upper =>
      rw [ofNumber]
      split
      · exact ⟨rfl, Nat.zero_le room⟩
      · exact readWithin_ofUInt64 room _
  | float x finite => exact ⟨rfl, Nat.zero_le room⟩

mutual

theorem readWithin_of_read : ∀ (document : Json.Document) {room : Nat} {v : Value},
    read room document = .ok v → Json.ReadWithin canonical room v
  | .null, room, v, answered => by
      cases answered
      exact ⟨rfl, Nat.zero_le room⟩
  | .bool _, room, v, answered => by
      cases answered
      exact ⟨rfl, Nat.zero_le room⟩
  | .numeral n, room, v, answered => by
      rw [read] at answered
      split at answered
      · cases answered
        exact readWithin_ofNumber room _
      · cases answered
  | .string s, room, v, answered => by
      obtain ⟨_, _, rfl⟩ := except_map_eq_ok_iff.mp answered
      exact ⟨rfl, Nat.zero_le room⟩
  | .array items closed, 0, v, answered => by cases answered
  | .array items closed, room + 1, v, answered => by
      obtain ⟨values, decoded, answered⟩ := except_bind_eq_ok_iff.mp answered
      obtain ⟨fixed, fits⟩ := readWithin_of_readItems items decoded
      cases closed with
      | false => cases answered
      | true =>
          cases answered
          exact ⟨congrArg Value.list fixed, Nat.succ_le_succ fits⟩
  | .object _ _, 0, v, answered => by cases answered
  | .object _ _, room + 1, v, answered => by cases answered
  | .broken, room, v, answered => by cases answered

theorem readWithin_of_readItems : ∀ (items : List Json.Document) {room : Nat} {values : List Value},
    readItems room items = .ok values →
      canonicalItems values = values ∧ Json.depthOfItems (encodeItems values) ≤ room
  | [], room, values, answered => by
      cases answered
      exact ⟨rfl, Nat.zero_le room⟩
  | item :: rest, room, values, answered => by
      obtain ⟨value, decoded, answered⟩ := except_bind_eq_ok_iff.mp answered
      obtain ⟨others, decodedRest, answered⟩ := except_bind_eq_ok_iff.mp answered
      cases answered
      have first := readWithin_of_read item decoded
      obtain ⟨fixed, fits⟩ := readWithin_of_readItems rest decodedRest
      refine ⟨?_, Nat.max_le.mpr ⟨first.fits, fits⟩⟩
      rw [canonicalItems, first.fixed, fixed]

end

end Value

end ColumnFilter
