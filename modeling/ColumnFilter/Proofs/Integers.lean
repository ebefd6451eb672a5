import ColumnFilter.Matching
import ColumnFilter.Proofs.Streaming
import ColumnFilter.Proofs.Value.Canonical

set_option autoImplicit false

/-!
# Integers on their way into values

An integer becomes a value in many ways: converted from a type of integers, from a JSON tree,
from any decoder input or from a text, by itself or as an item of nested lists. Every way
follows the canonical integer rule, and under this rule a value is known by its integers. So
two values are equal exactly if they were made from the same integers.
-/

namespace ColumnFilter

/-- Integers in lists of any depth. -/
inductive Integers where
  | one (n : Int)
  | list (items : List Integers)

/-! ## The integers of a value -/

namespace Value

mutual

/-- The integers that a value consists of. One with other scalars has none. -/
def integers? : Value → Option Integers
  | .int i => some (.one i.toInt)
  | .uint n => some (.one n.toNat)
  | .list items => .list <$> integersOfItems? items
  | _ => none
termination_by structural value => value

def integersOfItems? : List Value → Option (List Integers)
  | [] => some []
  | item :: rest => do
      let first ← integers? item
      let others ← integersOfItems? rest
      pure (first :: others)
termination_by structural items => items

end

theorem integers?_list {items : List Value} {integers : List Integers}
    (found : integersOfItems? items = some integers) :
    integers? (.list items) = some (.list integers) := by
  rw [integers?, found]
  rfl

theorem integersOfItems?_cons {item : Value} {rest : List Value} {first : Integers}
    {others : List Integers} (foundFirst : item.integers? = some first)
    (foundOthers : integersOfItems? rest = some others) :
    integersOfItems? (item :: rest) = some (first :: others) := by
  rw [integersOfItems?, foundFirst, foundOthers]
  rfl

/-- What keeps the integers of a first item and of the others keeps those of all of them. -/
theorem exists_integersOfItems?_cons {Made : Value → Prop} {MadeOthers : List Value → Prop}
    {first? : Option Integers} {others? : Option (List Integers)}
    (keepsFirst : ∀ {integers}, first? = some integers →
      ∃ v, Made v ∧ v.integers? = some integers)
    (keepsOthers : ∀ {integers}, others? = some integers →
      ∃ values, MadeOthers values ∧ integersOfItems? values = some integers)
    {integers : List Integers}
    (found : (do
      let first ← first?
      let others ← others?
      pure (first :: others)) = some integers) :
    ∃ v values, Made v ∧ MadeOthers values ∧ integersOfItems? (v :: values) = some integers := by
  obtain ⟨first, foundFirst, found⟩ := Option.bind_eq_some_iff.mp found
  obtain ⟨others, foundOthers, found⟩ := Option.bind_eq_some_iff.mp found
  cases found
  obtain ⟨v, made, kept⟩ := keepsFirst foundFirst
  obtain ⟨values, madeOthers, keptOthers⟩ := keepsOthers foundOthers
  exact ⟨v, values, made, madeOthers, integersOfItems?_cons kept keptOthers⟩

theorem isCanonical_ofUInt64 (n : UInt64) : (ofUInt64 n).IsCanonical :=
  (canonical_eq_self_iff _).mp (canonical_ofUInt64 n)

theorem integers?_ofNumber {i : Int} {lower : -0x8000000000000000 ≤ i}
    {upper : i < 0x10000000000000000} :
    (ofNumber (.integer i lower upper)).integers? = some (.one i) := by
  rw [ofNumber]
  split
  next small => rw [integers?, Int64.toInt_ofInt_of_le lower small]
  next large =>
    have exact := toNat_ofNat_of_nonneg (by omega) upper
    have unsigned : ofUInt64 (.ofNat i.toNat) = .uint (.ofNat i.toNat) := if_neg (by omega)
    rw [unsigned, integers?, exact]

theorem integers?_ofUInt64 (n : UInt64) : (ofUInt64 n).integers? = some (.one n.toNat) := by
  rw [← ofNumber_ofUInt64]
  exact integers?_ofNumber

theorem integers?_ofUInt32 (n : UInt32) :
    integers? (.int n.toUInt64.toInt64) = some (.one n.toNat) := by
  have small : n.toUInt64.toNat < 0x8000000000000000 := by
    have := n.toNat_lt
    rw [UInt32.toNat_toUInt64]
    omega
  have signed : ofUInt64 n.toUInt64 = .int n.toUInt64.toInt64 := if_pos small
  rw [← signed, integers?_ofUInt64, UInt32.toNat_toUInt64]

end Value

namespace Integers

mutual

/-- The value of integers under the canonical integer rule. -/
def value : Integers → Value
  | .one n => if n < 0x8000000000000000 then .int (.ofInt n) else .uint (.ofNat n.toNat)
  | .list items => .list (values items)
termination_by structural integers => integers

def values : List Integers → List Value
  | [] => []
  | item :: rest => value item :: values rest
termination_by structural items => items

end

mutual

/-- Under the canonical integer rule a value is known by its integers. -/
theorem value_of_integers? : ∀ {v : Value} {integers : Integers}, v.IsCanonical →
    v.integers? = some integers → integers.value = v
  | .int i, _, _, found => by
      cases found
      have small : i.toInt < 0x8000000000000000 := i.toInt_lt
      rw [value, if_pos small, Int64.ofInt_toInt]
  | .uint n, _, settled, found => by
      cases found
      have large := Value.isCanonical_uint_iff.mp settled
      rw [value, if_neg (by omega), Int.toNat_natCast, UInt64.ofNat_toNat]
  | .list items, _, settled, found => by
      obtain ⟨inner, foundInner, same⟩ := Option.map_eq_some_iff.mp found
      cases same
      rw [value, values_of_integersOfItems? (Value.isCanonical_list_iff.mp settled) foundInner]
  | .null, _, _, found | .bool _, _, _, found | .float _, _, _, found | .text _, _, _, found => by
      cases found

theorem values_of_integersOfItems? : ∀ {items : List Value} {integers : List Integers},
    (∀ item ∈ items, item.IsCanonical) → Value.integersOfItems? items = some integers →
    values integers = items
  | [], _, _, found => by
      cases found
      rfl
  | item :: rest, _, settled, found => by
      rw [List.forall_mem_cons] at settled
      obtain ⟨first, foundFirst, found⟩ := Option.bind_eq_some_iff.mp found
      obtain ⟨others, foundOthers, found⟩ := Option.bind_eq_some_iff.mp found
      cases found
      rw [values, value_of_integers? settled.1 foundFirst,
        values_of_integersOfItems? settled.2 foundOthers]

end

end Integers

/-- Values are equal exactly if their integers are. -/
theorem Value.equals_holds_iff_integers {v w : Value} {integers others : Integers}
    (settled : v.IsCanonical) (settledOther : w.IsCanonical)
    (found : v.integers? = some integers) (foundOther : w.integers? = some others) :
    (Operator.equals.holds v w).value = true ↔ integers = others := by
  change (v == w) = true ↔ integers = others
  rw [beq_iff_eq]
  constructor
  · intro same
    rw [same, foundOther] at found
    exact (Option.some.inj found).symm
  · intro same
    rw [← Integers.value_of_integers? settled found, same,
      Integers.value_of_integers? settledOther foundOther]

/-! ## Converted types -/

/-- The types that convert into values, apart from values themselves. -/
inductive Convertible where
  | bool
  | int64
  | int32
  | uint32
  | uint64
  | float64
  | text
  | option (content : Convertible)
  | list (item : Convertible)

namespace Convertible

def Carrier : Convertible → Type
  | .bool => Bool
  | .int64 => Int64
  | .int32 => Int32
  | .uint32 => UInt32
  | .uint64 => UInt64
  | .float64 => Float64
  | .text => String
  | .option content => Option content.Carrier
  | .list item => List item.Carrier

instance toValueCarrier : (t : Convertible) → ToValue t.Carrier
  | .bool => inferInstanceAs (ToValue Bool)
  | .int64 => inferInstanceAs (ToValue Int64)
  | .int32 => inferInstanceAs (ToValue Int32)
  | .uint32 => inferInstanceAs (ToValue UInt32)
  | .uint64 => inferInstanceAs (ToValue UInt64)
  | .float64 => inferInstanceAs (ToValue Float64)
  | .text => inferInstanceAs (ToValue String)
  | .option content =>
      have := toValueCarrier content
      inferInstanceAs (ToValue (Option content.Carrier))
  | .list item =>
      have := toValueCarrier item
      inferInstanceAs (ToValue (List item.Carrier))

/-- The integers in something that is converted. -/
def integers? : (t : Convertible) → t.Carrier → Option Integers
  | .int64, (i : Int64) => some (.one i.toInt)
  | .int32, (i : Int32) => some (.one i.toInt)
  | .uint32, (n : UInt32) => some (.one n.toNat)
  | .uint64, (n : UInt64) => some (.one n.toNat)
  | .option content, some inner => content.integers? inner
  | .list item, (items : List item.Carrier) => .list <$> items.mapM item.integers?
  | _, _ => none

theorem isCanonical_toValue : ∀ (t : Convertible) (content : t.Carrier),
    (toValue content).IsCanonical
  | .bool, _ => fun _ => nofun
  | .int64, _ => fun _ => nofun
  | .int32, _ => fun _ => nofun
  | .uint32, _ => fun _ => nofun
  | .uint64, n => Value.isCanonical_ofUInt64 n
  | .float64, _ => fun _ => nofun
  | .text, _ => fun _ => nofun
  | .option content, none => fun _ => nofun
  | .option content, some inner => content.isCanonical_toValue inner
  | .list item, items => by
      apply Value.isCanonical_list_iff.mpr
      intro value member
      obtain ⟨inner, _, rfl⟩ := List.mem_map.mp member
      exact item.isCanonical_toValue inner

theorem integersOfItems?_map {t : Convertible}
    (each : ∀ (content : t.Carrier) {integers : Integers},
      t.integers? content = some integers → (toValue content).integers? = some integers)
    {items : List t.Carrier} {integers : List Integers}
    (found : items.mapM t.integers? = some integers) :
    Value.integersOfItems? (items.map toValue) = some integers := by
  induction items generalizing integers with
  | nil =>
      cases found
      rfl
  | cons item rest ih =>
      rw [List.mapM_cons] at found
      obtain ⟨first, foundFirst, found⟩ := Option.bind_eq_some_iff.mp found
      obtain ⟨others, foundOthers, found⟩ := Option.bind_eq_some_iff.mp found
      cases found
      exact Value.integersOfItems?_cons (each item foundFirst) (ih foundOthers)

/-- Nothing is lost of integers that are converted. -/
theorem integers?_toValue : ∀ (t : Convertible) (content : t.Carrier) {integers : Integers},
    t.integers? content = some integers → (toValue content).integers? = some integers
  | .int64, _, _, found => found
  | .int32, i, _, found => by
      cases found
      exact congrArg (fun n => some (Integers.one n)) i.toInt_toInt64
  | .uint32, n, _, found => by
      cases found
      exact Value.integers?_ofUInt32 n
  | .uint64, n, _, found => (Value.integers?_ofUInt64 n).trans found
  | .option content, some inner, _, found => content.integers?_toValue inner found
  | .list item, items, _, found => by
      obtain ⟨integers, foundItems, same⟩ := Option.map_eq_some_iff.mp found
      cases same
      exact Value.integers?_list (integersOfItems?_map item.integers?_toValue foundItems)
  | .bool, _, _, found => by cases found
  | .float64, _, _, found => by cases found
  | .text, _, _, found => by cases found
  | .option _, none, _, found => by cases found

end Convertible

/-! ## Decoded trees and inputs -/

namespace Json

mutual

/-- The integers that a tree consists of. One with other scalars or objects has none. -/
def integers? : Json → Option Integers
  | .number (.integer i _ _) => some (.one i)
  | .array items => .list <$> integersOfItems? items
  | _ => none
termination_by structural json => json

def integersOfItems? : List Json → Option (List Integers)
  | [] => some []
  | item :: rest => do
      let first ← integers? item
      let others ← integersOfItems? rest
      pure (first :: others)
termination_by structural items => items

end

mutual

theorem exists_ofJson_of_integers? : ∀ (json : Json) {integers : Integers},
    json.integers? = some integers →
      ∃ v, Value.ofJson json = .ok v ∧ v.integers? = some integers
  | .number (.integer i lower upper), _, found => by
      cases found
      exact ⟨_, Value.ofJson_number _, Value.integers?_ofNumber⟩
  | .array items, _, found => by
      obtain ⟨integers, foundItems, same⟩ := Option.map_eq_some_iff.mp found
      cases same
      obtain ⟨values, decoded, kept⟩ := exists_ofJsonItems_of_integersOfItems? items foundItems
      exact ⟨.list values, except_map_eq_ok_iff.mpr ⟨values, decoded, rfl⟩,
        Value.integers?_list kept⟩
  | .null, _, found | .bool _, _, found | .number (.float _ _), _, found | .string _, _, found
  | .object _, _, found => by cases found

theorem exists_ofJsonItems_of_integersOfItems? : ∀ (items : List Json) {integers : List Integers},
    integersOfItems? items = some integers →
      ∃ values, Value.ofJsonItems items = .ok values ∧
        Value.integersOfItems? values = some integers
  | [], _, found => by
      cases found
      exact ⟨[], rfl, rfl⟩
  | item :: rest, _, found => by
      obtain ⟨v, values, made, madeOthers, kept⟩ := Value.exists_integersOfItems?_cons
        (exists_ofJson_of_integers? item) (exists_ofJsonItems_of_integersOfItems? rest) found
      refine ⟨v :: values, ?_, kept⟩
      rw [Value.ofJsonItems, made, madeOthers]
      rfl

end

end Json

namespace Input

mutual

/-- The integers that an input consists of. Options stand for their content. -/
def integers? : Input → Option Integers
  | .signed i => some (.one i.toInt)
  | .unsigned n => some (.one n.toNat)
  | .present content => integers? content
  | .sequence items => .list <$> integersOfItems? items
  | _ => none
termination_by structural input => input

def integersOfItems? : List Input → Option (List Integers)
  | [] => some []
  | item :: rest => do
      let first ← integers? item
      let others ← integersOfItems? rest
      pure (first :: others)
termination_by structural items => items

end

mutual

theorem exists_ofInput_of_integers? : ∀ (input : Input) {integers : Integers},
    input.integers? = some integers →
      ∃ v, Value.ofInput input = .ok v ∧ v.integers? = some integers
  | .signed i, _, found => ⟨.int i, rfl, found⟩
  | .unsigned n, _, found => ⟨.ofUInt64 n, rfl, (Value.integers?_ofUInt64 n).trans found⟩
  | .present content, _, found => exists_ofInput_of_integers? content found
  | .sequence items, _, found => by
      obtain ⟨integers, foundItems, same⟩ := Option.map_eq_some_iff.mp found
      cases same
      obtain ⟨values, decoded, kept⟩ := exists_ofInputs_of_integersOfItems? items foundItems
      exact ⟨.list values, except_map_eq_ok_iff.mpr ⟨values, decoded, rfl⟩,
        Value.integers?_list kept⟩
  | .unit, _, found | .absent, _, found | .bool _, _, found | .float _, _, found
  | .lentText _, _, found | .givenText _, _, found | .map _, _, found => by cases found

theorem exists_ofInputs_of_integersOfItems? : ∀ (items : List Input) {integers : List Integers},
    integersOfItems? items = some integers →
      ∃ values, Value.ofInputs items = .ok values ∧ Value.integersOfItems? values = some integers
  | [], _, found => by
      cases found
      exact ⟨[], rfl, rfl⟩
  | item :: rest, _, found => by
      obtain ⟨v, values, made, madeOthers, kept⟩ := Value.exists_integersOfItems?_cons
        (exists_ofInput_of_integers? item) (exists_ofInputs_of_integersOfItems? rest) found
      refine ⟨v :: values, ?_, kept⟩
      rw [Value.ofInputs, made, madeOthers]
      rfl

end

end Input

namespace Value

mutual

theorem isCanonical_of_ofInput : ∀ (input : Input) {v : Value},
    ofInput input = .ok v → v.IsCanonical
  | .unsigned n, v, decoded => by
      cases decoded
      exact isCanonical_ofUInt64 n
  | .present content, v, decoded => isCanonical_of_ofInput content decoded
  | .sequence items, v, decoded => by
      obtain ⟨values, decodedItems, same⟩ := except_map_eq_ok_iff.mp decoded
      cases same
      exact isCanonical_list_iff.mpr (isCanonical_of_ofInputs items decodedItems)
  | .float x, v, decoded => by
      rw [ofInput] at decoded
      split at decoded
      · cases decoded
        exact fun _ => nofun
      · cases decoded
  | .unit, v, decoded | .absent, v, decoded | .bool _, v, decoded | .signed _, v, decoded
  | .lentText _, v, decoded | .givenText _, v, decoded => by
      cases decoded
      exact fun _ => nofun
  | .map _, v, decoded => by cases decoded

theorem isCanonical_of_ofInputs : ∀ (items : List Input) {values : List Value},
    ofInputs items = .ok values → ∀ v ∈ values, v.IsCanonical
  | [], values, decoded => by
      cases decoded
      exact fun _ => nofun
  | item :: rest, values, decoded => by
      obtain ⟨first, decodedFirst, decoded⟩ := except_bind_eq_ok_iff.mp decoded
      obtain ⟨others, decodedOthers, decoded⟩ := except_bind_eq_ok_iff.mp decoded
      cases decoded
      exact List.forall_mem_cons.mpr
        ⟨isCanonical_of_ofInput item decodedFirst, isCanonical_of_ofInputs rest decodedOthers⟩

end

theorem isCanonical_of_ofJson {json : Json} {v : Value} (decoded : ofJson json = .ok v) :
    v.IsCanonical :=
  isCanonical_of_ofInput json.toInput ((ofInput_toInput_eq_ok_iff json).mpr decoded)

theorem isCanonical_of_ofText {text : String} {v : Value} (decoded : ofText text = .ok v) :
    v.IsCanonical := by
  obtain ⟨json, _, decoded⟩ := ofText_eq_ok_iff_throughTree.mp decoded
  exact isCanonical_of_ofInput json.toInput decoded

end Value

/-! ## All ways -/

/-- Where a value comes from. -/
inductive Source where
  | converted (t : Convertible) (content : t.Carrier)
  | unsigned (n : UInt64)
  | tree (json : Json)
  | decodedTree (json : Json)
  | input (content : Input)
  | text (content : String)
  | list (items : List Source)

namespace Source

mutual

/-- The value that comes of a source, unless it is refused. -/
def value? : Source → Option Value
  | .converted _ content => some (toValue content)
  | .unsigned n => some (.ofUInt64 n)
  | .tree json => (Value.ofJson json).toOption
  | .decodedTree json => (Value.ofInput json.toInput).toOption
  | .input content => (Value.ofInput content).toOption
  | .text content => (Value.ofText content).toOption
  | .list items => .list <$> values? items
termination_by structural source => source

def values? : List Source → Option (List Value)
  | [] => some []
  | item :: rest => do
      let first ← value? item
      let others ← values? rest
      pure (first :: others)
termination_by structural items => items

end

mutual

/-- The integers in a source, if it carries nothing else. -/
def integers? : Source → Option Integers
  | .converted t content => t.integers? content
  | .unsigned n => some (.one n.toNat)
  | .tree json => json.integers?
  | .decodedTree json => json.integers?
  | .input content => content.integers?
  | .text content => (Json.ofText content).toOption.bind Json.integers?
  | .list items => .list <$> integersOfItems? items
termination_by structural source => source

def integersOfItems? : List Source → Option (List Integers)
  | [] => some []
  | item :: rest => do
      let first ← integers? item
      let others ← integersOfItems? rest
      pure (first :: others)
termination_by structural items => items

end

mutual

theorem isCanonical_of_value? : ∀ (source : Source) {v : Value},
    source.value? = some v → v.IsCanonical
  | .converted t content, v, found => by
      cases found
      exact t.isCanonical_toValue content
  | .unsigned n, v, found => by
      cases found
      exact Value.isCanonical_ofUInt64 n
  | .tree json, v, found => Value.isCanonical_of_ofJson (except_toOption_eq_some_iff.mp found)
  | .decodedTree json, v, found =>
      Value.isCanonical_of_ofInput json.toInput (except_toOption_eq_some_iff.mp found)
  | .input content, v, found =>
      Value.isCanonical_of_ofInput content (except_toOption_eq_some_iff.mp found)
  | .text content, v, found => Value.isCanonical_of_ofText (except_toOption_eq_some_iff.mp found)
  | .list items, v, found => by
      obtain ⟨values, foundItems, same⟩ := Option.map_eq_some_iff.mp found
      cases same
      exact Value.isCanonical_list_iff.mpr (isCanonical_of_values? items foundItems)

theorem isCanonical_of_values? : ∀ (items : List Source) {values : List Value},
    values? items = some values → ∀ v ∈ values, v.IsCanonical
  | [], values, found => by
      cases found
      exact fun _ => nofun
  | item :: rest, values, found => by
      obtain ⟨first, foundFirst, found⟩ := Option.bind_eq_some_iff.mp found
      obtain ⟨others, foundOthers, found⟩ := Option.bind_eq_some_iff.mp found
      cases found
      exact List.forall_mem_cons.mpr
        ⟨isCanonical_of_value? item foundFirst, isCanonical_of_values? rest foundOthers⟩

end

mutual

/-- What carries integers is not refused, and nothing is lost of them. -/
theorem exists_value?_of_integers? : ∀ (source : Source) {integers : Integers},
    source.integers? = some integers →
      ∃ v, source.value? = some v ∧ v.integers? = some integers
  | .converted t content, _, found => ⟨toValue content, rfl, t.integers?_toValue content found⟩
  | .unsigned n, _, found => ⟨.ofUInt64 n, rfl, (Value.integers?_ofUInt64 n).trans found⟩
  | .tree json, _, found => by
      obtain ⟨v, decoded, kept⟩ := json.exists_ofJson_of_integers? found
      exact ⟨v, except_toOption_eq_some_iff.mpr decoded, kept⟩
  | .decodedTree json, _, found => by
      obtain ⟨v, decoded, kept⟩ := json.exists_ofJson_of_integers? found
      have decoded := (Value.ofInput_toInput_eq_ok_iff json).mpr decoded
      exact ⟨v, except_toOption_eq_some_iff.mpr decoded, kept⟩
  | .input content, _, found => by
      obtain ⟨v, decoded, kept⟩ := content.exists_ofInput_of_integers? found
      exact ⟨v, except_toOption_eq_some_iff.mpr decoded, kept⟩
  | .text content, _, found => by
      obtain ⟨json, parsed, foundTree⟩ := Option.bind_eq_some_iff.mp found
      obtain ⟨v, decoded, kept⟩ := json.exists_ofJson_of_integers? foundTree
      have read := Value.ofText_eq_ok_iff_throughTree.mpr
        ⟨json, except_toOption_eq_some_iff.mp parsed,
          (Value.ofInput_toInput_eq_ok_iff json).mpr decoded⟩
      exact ⟨v, except_toOption_eq_some_iff.mpr read, kept⟩
  | .list items, _, found => by
      obtain ⟨integers, foundItems, same⟩ := Option.map_eq_some_iff.mp found
      cases same
      obtain ⟨values, foundValues, kept⟩ := exists_values?_of_integersOfItems? items foundItems
      exact ⟨.list values, Option.map_eq_some_iff.mpr ⟨values, foundValues, rfl⟩,
        Value.integers?_list kept⟩

theorem exists_values?_of_integersOfItems? : ∀ (items : List Source) {integers : List Integers},
    integersOfItems? items = some integers →
      ∃ values, values? items = some values ∧ Value.integersOfItems? values = some integers
  | [], _, found => by
      cases found
      exact ⟨[], rfl, rfl⟩
  | item :: rest, _, found => by
      obtain ⟨v, values, made, madeOthers, kept⟩ := Value.exists_integersOfItems?_cons
        (exists_value?_of_integers? item) (exists_values?_of_integersOfItems? rest) found
      refine ⟨v :: values, ?_, kept⟩
      rw [values?, made, madeOthers]
      rfl

end

/-- Every value follows the canonical integer rule, wherever it comes from. Integers, in lists
of any depth, are refused by no source that carries them, and the values of two sources are
equal exactly if their integers are. -/
theorem integers_are_compared_exactly :
    (∀ (source : Source) v, source.value? = some v → v.IsCanonical) ∧
    (∀ (source other : Source) integers others,
      source.integers? = some integers → other.integers? = some others →
        ∃ v w, source.value? = some v ∧ other.value? = some w ∧
          ((Operator.equals.holds v w).value = true ↔ integers = others)) := by
  constructor
  · intro source v found
    exact source.isCanonical_of_value? found
  · intro source other integers others carried carriedOther
    obtain ⟨v, found, kept⟩ := source.exists_value?_of_integers? carried
    obtain ⟨w, foundOther, keptOther⟩ := other.exists_value?_of_integers? carriedOther
    have settled := source.isCanonical_of_value? found
    have settledOther := other.isCanonical_of_value? foundOther
    exact ⟨v, w, found, foundOther,
      Value.equals_holds_iff_integers settled settledOther kept keptOther⟩

theorem integers_are_compared_exactly_at_the_limit :
    ∃ v w, (Source.converted (.list (.option .uint64))
          ([some 0x7fffffffffffffff, some 0x8000000000000000] : List (Option UInt64))).value? =
            some v ∧
      (Source.list [.input (.present (.signed 0x7fffffffffffffff)),
          .tree (.number (.ofUInt64 0x8000000000000000))]).value? = some w ∧
      v.IsCanonical ∧ (Operator.equals.holds v w).value = true := by
  obtain ⟨canonical, compared⟩ := integers_are_compared_exactly
  obtain ⟨v, w, found, foundOther, exact⟩ := compared
    (.converted (.list (.option .uint64))
      ([some 0x7fffffffffffffff, some 0x8000000000000000] : List (Option UInt64)))
    (.list [.input (.present (.signed 0x7fffffffffffffff)),
      .tree (.number (.ofUInt64 0x8000000000000000))])
    (.list [.one 0x7fffffffffffffff, .one 0x8000000000000000]) _ rfl rfl
  exact ⟨v, w, found, foundOther, canonical _ v found, exact.mpr rfl⟩

end Source

end ColumnFilter
