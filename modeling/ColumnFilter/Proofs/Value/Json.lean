import ColumnFilter.Proofs.Value.Canonical
import ColumnFilter.Proofs.Value.RoundTrip

set_option autoImplicit false

/-!
# Values and trees

A value has one tree, whether it is converted or encoded, and a tree has at most one value,
whether it is converted or decoded. Trees with an object in them have none. Apart from the
canonical integer rule, nothing changes on the way to the tree and back; on the way to the
value and back, negative zero becomes zero.
-/

namespace ColumnFilter

namespace Json

/-- The first tree stands somewhere in the second, at any depth. -/
inductive Within (inner : Json) : Json → Prop where
  | self : Within inner inner
  | item {items : List Json} {item : Json} :
      item ∈ items → Within inner item → Within inner (.array items)
  | member {members : List (String × Json)} {member : String × Json} :
      member ∈ members → Within inner member.2 → Within inner (.object members)

/-- No object stands in the tree at any depth. -/
def FreeOfObjects (json : Json) : Prop :=
  ∀ members, ¬ Within (.object members) json

theorem freeOfObjects_array_iff {items : List Json} :
    FreeOfObjects (.array items) ↔ ∀ item ∈ items, FreeOfObjects item := by
  constructor
  · intro free item member members within
    exact free members (.item member within)
  · intro free members within
    cases within with
    | item member within => exact free _ member members within

theorem not_freeOfObjects_object (members : List (String × Json)) :
    ¬ FreeOfObjects (.object members) :=
  fun free => free members .self

/-- The number with negative zero taken to zero. -/
def Number.withoutNegativeZero : Number → Number
  | .integer i lower upper => .integer i lower upper
  | .float x finite => if x.isZero then .float .zero rfl else .float x finite

mutual

/-- The tree with every negative zero taken to zero, and nothing else changed. -/
def withoutNegativeZeros : Json → Json
  | .number n => .number n.withoutNegativeZero
  | .array items => .array (itemsWithoutNegativeZeros items)
  | .object members => .object (membersWithoutNegativeZeros members)
  | json => json
termination_by structural json => json

def itemsWithoutNegativeZeros : List Json → List Json
  | [] => []
  | item :: rest => withoutNegativeZeros item :: itemsWithoutNegativeZeros rest
termination_by structural items => items

def membersWithoutNegativeZeros : List (String × Json) → List (String × Json)
  | [] => []
  | (key, value) :: rest => (key, withoutNegativeZeros value) :: membersWithoutNegativeZeros rest
termination_by structural members => members

end

end Json

namespace Value

/-! ## From values to trees and back -/

theorem toJson_float (x : Float64) : toJson (.float x) = .number x.toNumber := by
  have number : Json.Number.ofBinary64? x.toBinary64 = some x.toNumber := dif_pos x.finite
  rw [toJson, number]

mutual

theorem tree_eq_toJson : ∀ v : Value, Json.tree v = toJson v
  | .null | .bool _ | .int _ | .uint _ | .text _ => rfl
  | .float x => (toJson_float x).symm
  | .list items => congrArg Json.array (encodeItems_eq_toJsonItems items)

theorem encodeItems_eq_toJsonItems : ∀ items : List Value,
    (encodeItems items : List Json) = toJsonItems items
  | [] => rfl
  | item :: rest => by
      rw [encodeItems, toJsonItems, encodeItems_eq_toJsonItems rest]
      exact congrArg (· :: _) (tree_eq_toJson item)

end

/-- No number is refused: integers fit one type or the other, and the others are finite. -/
theorem convertNumber_eq_ok (n : Json.Number) : convertNumber n = .ok (ofNumber n) := by
  cases n with
  | float x finite =>
      have known : Float64.ofBinary64? x = some (.ofFinite x finite) := dif_pos finite
      simp only [convertNumber, Json.Number.int64?, Json.Number.uint64?, Json.Number.toBinary64,
        known, ofNumber]
      rfl
  | integer i lower upper =>
      simp only [convertNumber, Json.Number.int64?, Json.Number.uint64?, ofNumber]
      by_cases small : i < 0x8000000000000000
      · simp only [small, ↓reduceIte]
        rfl
      · have nonneg : 0 ≤ i := by omega
        simp only [small, nonneg, ↓reduceIte]
        rfl

theorem ofJson_number (n : Json.Number) : ofJson (.number n) = .ok (ofNumber n) :=
  convertNumber_eq_ok n

theorem ofNumber_toNumber (x : Float64) : ofNumber x.toNumber = .float x := by
  obtain ⟨y, finite, canonical⟩ := x
  rw [Float64.toNumber, ofNumber, Float64.ofFinite]
  split
  next isZero =>
    have same : y = .zero := canonical isZero
    subst same
    rfl
  · rfl

mutual

theorem ofJson_toJson : ∀ v : Value, ofJson v.toJson = .ok v.canonical
  | .null | .bool _ | .text _ => rfl
  | .int i => (ofJson_number _).trans (congrArg Except.ok (ofNumber_ofInt64 i))
  | .uint n => (ofJson_number _).trans (congrArg Except.ok (ofNumber_ofUInt64 n))
  | .float x => by
      rw [toJson_float, ofJson_number, ofNumber_toNumber]
      rfl
  | .list items => congrArg (Value.list <$> ·) (ofJsonItems_toJsonItems items)

theorem ofJsonItems_toJsonItems : ∀ items : List Value,
    ofJsonItems (toJsonItems items) = .ok (canonicalItems items)
  | [] => rfl
  | item :: rest => by
      rw [toJsonItems, ofJsonItems, ofJson_toJson item, ofJsonItems_toJsonItems rest]
      rfl

end

/-! ## From trees to values and back -/

theorem toNat_ofNat_of_nonneg {i : Int} (nonneg : 0 ≤ i) (upper : i < 0x10000000000000000) :
    ((UInt64.ofNat i.toNat).toNat : Int) = i := by
  have fits : i.toNat < UInt64.size := by
    simp only [UInt64.size]
    omega
  rw [UInt64.toNat_ofNat_of_lt' fits]
  exact Int.toNat_of_nonneg nonneg

/-- An integer that is not negative is decoded without its sign. -/
theorem ofInput_toInput_number (n : Json.Number) : ofInput n.toInput = .ok (ofNumber n) := by
  cases n with
  | float x finite =>
      have known : Float64.ofBinary64? x = some (.ofFinite x finite) := dif_pos finite
      rw [Json.Number.toInput, ofInput, known]
      rfl
  | integer i lower upper =>
      rw [Json.Number.toInput]
      split
      next negative =>
        rw [ofNumber, if_pos (by omega)]
        rfl
      next nonneg =>
        have exact := toNat_ofNat_of_nonneg (Int.not_lt.mp nonneg) upper
        have unsigned : Json.Number.integer i lower upper = .ofUInt64 (.ofNat i.toNat) := by
          simp only [Json.Number.ofUInt64, exact]
        rw [unsigned, ofNumber_ofUInt64]
        rfl

mutual

/-- A tree has the same value in both ways, or an object stands in it and both refuse it. -/
theorem decoded_alike_or_refused : ∀ json : Json,
    (∃ v, ofJson json = .ok v ∧ ofInput json.toInput = .ok v) ∨
      ofJson json = .error (.unsupportedValue .object) ∧
        ofInput json.toInput = .error (.invalidType .map .value)
  | .null | .bool _ | .string _ => .inl ⟨_, rfl, rfl⟩
  | .number n => .inl ⟨_, ofJson_number n, ofInput_toInput_number n⟩
  | .array items => by
      simp only [ofJson, Json.toInput, ofInput]
      rcases items_decoded_alike_or_refused items with ⟨values, converted, decoded⟩ | ⟨left, right⟩
      · left
        rw [converted, decoded]
        exact ⟨.list values, rfl, rfl⟩
      · right
        rw [left, right]
        exact ⟨rfl, rfl⟩
  | .object _ => .inr ⟨rfl, rfl⟩

theorem items_decoded_alike_or_refused : ∀ items : List Json,
    (∃ values, ofJsonItems items = .ok values ∧
        ofInputs (Json.toInputItems items) = .ok values) ∨
      ofJsonItems items = .error (.unsupportedValue .object) ∧
        ofInputs (Json.toInputItems items) = .error (.invalidType .map .value)
  | [] => .inl ⟨[], rfl, rfl⟩
  | item :: rest => by
      simp only [ofJsonItems, Json.toInputItems, ofInputs]
      rcases decoded_alike_or_refused item with ⟨v, converted, decoded⟩ | ⟨left, right⟩
      · rw [converted, decoded]
        rcases items_decoded_alike_or_refused rest with
          ⟨values, convertedRest, decodedRest⟩ | ⟨left, right⟩
        · left
          rw [convertedRest, decodedRest]
          exact ⟨v :: values, rfl, rfl⟩
        · right
          rw [left, right]
          exact ⟨rfl, rfl⟩
      · right
        rw [left, right]
        exact ⟨rfl, rfl⟩

end

theorem ofInput_toInput_eq_ok_iff (json : Json) {v : Value} :
    ofInput json.toInput = .ok v ↔ ofJson json = .ok v := by
  rcases decoded_alike_or_refused json with ⟨w, converted, decoded⟩ | ⟨left, right⟩
  · rw [converted, decoded]
    constructor <;> intro answered <;> cases answered <;> rfl
  · rw [left, right]
    constructor <;> intro answered <;> cases answered

theorem ofInput_tree (v : Value) : ofInput (Json.tree v).toInput = .ok v.canonical := by
  rw [ofInput_toInput_eq_ok_iff, tree_eq_toJson, ofJson_toJson]

mutual

theorem exists_ofJson_eq_ok_iff : ∀ json : Json, (∃ v, ofJson json = .ok v) ↔ json.FreeOfObjects
  | .null | .bool _ | .string _ => ⟨fun _ _ => nofun, fun _ => ⟨_, rfl⟩⟩
  | .number n => ⟨fun _ _ => nofun, fun _ => ⟨_, ofJson_number n⟩⟩
  | .array items => by
      rw [Json.freeOfObjects_array_iff, ← exists_ofJsonItems_eq_ok_iff items]
      simp only [ofJson, except_map_eq_ok_iff]
      constructor
      · rintro ⟨v, values, decoded, _⟩
        exact ⟨values, decoded⟩
      · rintro ⟨values, decoded⟩
        exact ⟨_, values, decoded, rfl⟩
  | .object members => by
      constructor
      · rintro ⟨v, answered⟩
        cases answered
      · intro free
        exact absurd free (Json.not_freeOfObjects_object members)

theorem exists_ofJsonItems_eq_ok_iff : ∀ items : List Json,
    (∃ values, ofJsonItems items = .ok values) ↔ ∀ item ∈ items, item.FreeOfObjects
  | [] => ⟨fun _ => nofun, fun _ => ⟨_, rfl⟩⟩
  | item :: rest => by
      rw [List.forall_mem_cons, ← exists_ofJson_eq_ok_iff item,
        ← exists_ofJsonItems_eq_ok_iff rest]
      simp only [ofJsonItems, except_bind_eq_ok_iff]
      constructor
      · rintro ⟨_, value, decoded, values, decodedRest, _⟩
        exact ⟨⟨value, decoded⟩, values, decodedRest⟩
      · rintro ⟨⟨value, decoded⟩, values, decodedRest⟩
        exact ⟨_, value, decoded, values, decodedRest, rfl⟩

end

theorem toJson_ofNumber (n : Json.Number) :
    toJson (ofNumber n) = .number n.withoutNegativeZero := by
  cases n with
  | float x finite =>
      rw [ofNumber, Float64.ofFinite, Json.Number.withoutNegativeZero]
      split
      · rfl
      · have number : Json.Number.ofBinary64? x = some (.float x finite) := dif_pos finite
        rw [toJson, number]
  | integer i lower upper =>
      rw [ofNumber, Json.Number.withoutNegativeZero]
      split
      next small =>
        have exact : (Int64.ofInt i).toInt = i := Int64.toInt_ofInt_of_le lower small
        simp only [toJson, Json.Number.ofInt64, exact]
      next large =>
        have exact := toNat_ofNat_of_nonneg (by omega) upper
        have kept : ofUInt64 (.ofNat i.toNat) = .uint (.ofNat i.toNat) := if_neg (by omega)
        simp only [kept, toJson, Json.Number.ofUInt64, exact]

mutual

/-- The tree of the value that a tree has differs from it in negative zeros alone. -/
theorem toJson_of_ofJson : ∀ (json : Json) {v : Value},
    ofJson json = .ok v → v.toJson = json.withoutNegativeZeros
  | .null, v, decoded | .bool _, v, decoded | .string _, v, decoded => by
      cases decoded
      rfl
  | .number n, v, decoded => by
      rw [ofJson_number] at decoded
      cases decoded
      exact toJson_ofNumber n
  | .array items, v, decoded => by
      obtain ⟨values, decodedItems, rfl⟩ := except_map_eq_ok_iff.mp decoded
      exact congrArg Json.array (toJsonItems_of_ofJsonItems items decodedItems)
  | .object _, v, decoded => by cases decoded

theorem toJsonItems_of_ofJsonItems : ∀ (items : List Json) {values : List Value},
    ofJsonItems items = .ok values → toJsonItems values = Json.itemsWithoutNegativeZeros items
  | [], values, decoded => by
      cases decoded
      rfl
  | item :: rest, values, decoded => by
      obtain ⟨value, decodedItem, decoded⟩ := except_bind_eq_ok_iff.mp decoded
      obtain ⟨others, decodedRest, answered⟩ := except_bind_eq_ok_iff.mp decoded
      cases answered
      rw [toJsonItems, Json.itemsWithoutNegativeZeros, toJson_of_ofJson item decodedItem,
        toJsonItems_of_ofJsonItems rest decodedRest]

end

/-! ## Both ways agree -/

theorem toJsonItems_eq_map (items : List Value) : toJsonItems items = items.map toJson := by
  induction items with
  | nil => rfl
  | cons item rest ih => rw [toJsonItems, ih, List.map_cons]

/-- What stands in the tree of a value are the trees of what stands in the value. -/
theorem within_toJson_iff {inner : Json} {v : Value} :
    Json.Within inner v.toJson ↔ ∃ w, Within w v ∧ w.toJson = inner := by
  constructor
  · intro within
    generalize tree : v.toJson = json at within
    induction within generalizing v with
    | self => exact ⟨v, .self, tree⟩
    | item member _ ih =>
        cases v with
        | list items =>
            rw [toJson, toJsonItems_eq_map] at tree
            cases tree
            obtain ⟨item, isItem, same⟩ := List.mem_map.mp member
            obtain ⟨w, within, tree⟩ := ih same
            exact ⟨w, .item isItem within, tree⟩
        | float x => simp [toJson_float] at tree
        | _ => cases tree
    | member _ _ _ =>
        cases v with
        | float x => simp [toJson_float] at tree
        | _ => cases tree
  · intro within
    obtain ⟨w, within, same⟩ := within
    subst same
    induction within with
    | self => exact .self
    | item member _ ih =>
        rw [toJson, toJsonItems_eq_map]
        exact .item (List.mem_map_of_mem member) ih

theorem toJson_eq_null_iff {v : Value} : v.toJson = .null ↔ v = .null := by
  cases v with
  | float x => simp [toJson_float]
  | _ => simp [toJson]

/-- A tree is converted exactly if it is decoded, and into the same value. What is refused is
refused for an object that stands in it, and for nothing else. A value is converted into the
tree that it is encoded as and has the text of this tree; its floating point numbers become
numbers, so that null stands for null alone. Back from the tree comes the value under the
canonical integer rule. -/
theorem conversions_agree :
    (∀ json : Json,
      (∃ v, ofJson json = .ok v ∧ ofInput json.toInput = .ok v ∧ json.FreeOfObjects) ∨
      (ofJson json = .error (.unsupportedValue .object) ∧
        ofInput json.toInput = .error (.invalidType .map .value) ∧ ¬ json.FreeOfObjects)) ∧
    (∀ v : Value, v.toJson = Json.tree v ∧ Json.text v.toJson = Json.text v ∧
      (Json.Within .null v.toJson ↔ Within .null v) ∧ ofJson v.toJson = .ok v.canonical) ∧
    (∀ x : Float64, toJson (.float x) = .number (.float x.toBinary64 x.finite)) := by
  refine ⟨?_, ?_, toJson_float⟩
  · intro json
    rcases decoded_alike_or_refused json with ⟨v, converted, decoded⟩ | ⟨left, right⟩
    · left
      exact ⟨v, converted, decoded, (exists_ofJson_eq_ok_iff json).mp ⟨v, converted⟩⟩
    · right
      refine ⟨left, right, ?_⟩
      intro free
      obtain ⟨v, converted⟩ := (exists_ofJson_eq_ok_iff json).mpr free
      cases left.symm.trans converted
  · intro v
    refine ⟨(tree_eq_toJson v).symm, ?_, ?_, ofJson_toJson v⟩
    · rw [← tree_eq_toJson, text_tree]
    · rw [within_toJson_iff]
      constructor
      · intro within
        obtain ⟨w, within, null⟩ := within
        cases toJson_eq_null_iff.mp null
        exact within
      · intro within
        exact ⟨.null, within, rfl⟩

example : (FilterError.unsupportedValue .object).message? =
    some "unsupported filter value: objects are not filter values" := by decide

end Value

end ColumnFilter
