import ColumnFilter.Filter.Clause
import ColumnFilter.Proofs.Members
import ColumnFilter.Proofs.Value.Json

set_option autoImplicit false

/-!
# What decodes, and what is kept of it

Values are the trees without objects; predicates are objects of values under the names of
operators; filters are objects of predicates; and a clause is an object with a filter under
its own key. Nothing else decodes. What has decoded is encoded as the tree that it came
from, apart from the sign of zero, as long as the members of that tree were in order, which
they are in every tree that was read from a text.
-/

namespace ColumnFilter

/-! ## Members in order -/

namespace Json

theorem orderedMembers_iff {members : List (String × Json)} :
    OrderedMembers members ↔ ∀ member ∈ members, member.2.Ordered := by
  induction members with
  | nil => exact ⟨fun _ => nofun, fun _ => trivial⟩
  | cons member rest ih =>
      rw [List.forall_mem_cons, ← ih]
      exact Iff.rfl

theorem orderedMembers_insertEntry {key : String} {value : Json}
    {members : List (String × Json)} (new : value.Ordered) (old : OrderedMembers members) :
    OrderedMembers (KeyMap.insertEntry key value members) := by
  rw [orderedMembers_iff] at old ⊢
  intro member inserted
  cases KeyMap.mem_insertEntry inserted with
  | inl here => exact here ▸ new
  | inr later => exact old member later

mutual

theorem ordered_of_read : ∀ (document : Document) {room : Nat} {json : Json},
    read room document = .ok json → json.Ordered
  | .null, _, _, answered | .bool _, _, _, answered => by
      cases answered
      trivial
  | .numeral n, _, _, answered => by
      rw [read] at answered
      split at answered
      · cases answered
        trivial
      · cases answered
  | .string _, _, _, answered => by
      obtain ⟨_, _, rfl⟩ := except_map_eq_ok_iff.mp answered
      trivial
  | .array _ _, 0, _, answered | .object _ _, 0, _, answered => by cases answered
  | .array items _, room + 1, _, answered => by
      obtain ⟨_, trees, decoded, rfl⟩ := closing_eq_ok_iff.mp answered
      exact orderedItems_of_readItems items decoded
  | .object members _, room + 1, _, answered => by
      obtain ⟨_, object, decoded, rfl⟩ := closing_eq_ok_iff.mp answered
      exact ⟨object.sorted, orderedMembers_of_readMembers members decoded trivial⟩
  | .broken, _, _, answered => by cases answered

theorem orderedItems_of_readItems : ∀ (items : List Document) {room : Nat} {trees : List Json},
    readItems room items = .ok trees → OrderedItems trees
  | [], _, _, answered => by
      cases answered
      trivial
  | item :: rest, _, _, answered => by
      obtain ⟨tree, decoded, answered⟩ := except_bind_eq_ok_iff.mp answered
      obtain ⟨trees, decodedRest, answered⟩ := except_bind_eq_ok_iff.mp answered
      cases answered
      exact ⟨ordered_of_read item decoded, orderedItems_of_readItems rest decodedRest⟩

theorem orderedMembers_of_readMembers : ∀ (members : List (Option String × Document)) {room : Nat}
    {before object : KeyMap String Json}, readMembers room members before = .ok object →
    OrderedMembers before.entries → OrderedMembers object.entries
  | [], _, _, _, answered, ordered => by
      cases answered
      exact ordered
  | (_, value) :: rest, _, _, _, answered, ordered => by
      obtain ⟨key, _, answered⟩ := except_bind_eq_ok_iff.mp answered
      obtain ⟨tree, decoded, answered⟩ := except_bind_eq_ok_iff.mp answered
      apply orderedMembers_of_readMembers rest answered
      exact orderedMembers_insertEntry (ordered_of_read value decoded) ordered

end

/-- Every tree that is read from a text has its members in order. -/
theorem ordered_of_ofText {text : String} {json : Json} (parsed : ofText text = .ok json) :
    json.Ordered := by
  obtain ⟨_, decoded⟩ := decodeText_eq_ok_iff.mp parsed
  exact ordered_of_read _ decoded

theorem encodedMembers_eq {δ : Type} {Decodes : String × Json → δ → Prop}
    {encoded : δ → String × Json} {members : List (String × Json)} {items : List δ}
    (all : List.Forall₂ Decodes members items)
    (each : ∀ {member item}, member ∈ members → Decodes member item →
      encoded item = (member.1, member.2.withoutNegativeZeros)) :
    items.map encoded = membersWithoutNegativeZeros members := by
  induction all with
  | nil => rfl
  | cons first others ih =>
      have rest := ih fun later => each (List.mem_cons_of_mem _ later)
      rw [List.map_cons, membersWithoutNegativeZeros, each List.mem_cons_self first, rest]

end Json

/-! ## Values -/

namespace Value

theorem exists_ofInput_eq_ok_iff {json : Json} :
    (∃ v, ofInput json.toInput = .ok v) ↔ json.FreeOfObjects := by
  rw [← exists_ofJson_eq_ok_iff]
  exact exists_congr fun v => ofInput_toInput_eq_ok_iff json

theorem tree_of_ofInput {json : Json} {v : Value} (decoded : ofInput json.toInput = .ok v) :
    Json.tree v = json.withoutNegativeZeros := by
  rw [tree_eq_toJson]
  exact toJson_of_ofJson json ((ofInput_toInput_eq_ok_iff json).mp decoded)

end Value

/-! ## Predicates -/

theorem Operator.exists_ofName?_eq_some_iff {name : String} :
    (∃ op, ofName? name = some op) ↔ name = "eq" ∨ name = "in" := by
  constructor
  · intro named
    obtain ⟨op, named⟩ := named
    cases op with
    | equals => exact .inl (eq_name_of_ofName? named)
    | oneOf => exact .inr (eq_name_of_ofName? named)
  · intro named
    rcases named with rfl | rfl
    · exact ⟨.equals, rfl⟩
    · exact ⟨.oneOf, rfl⟩

theorem Operator.ofName?_eq_none_iff {name : String} :
    ofName? name = none ↔ name ≠ "eq" ∧ name ≠ "in" := by
  rw [← not_or, ← exists_ofName?_eq_some_iff, not_exists, Option.eq_none_iff_forall_ne_some]

namespace Predicate

theorem exists_isTarget_iff {member : String × Json} :
    (∃ target, IsTarget member target) ↔
      (member.1 = "eq" ∨ member.1 = "in") ∧ ∃ v, Value.ofInput member.2.toInput = .ok v := by
  rw [← Operator.exists_ofName?_eq_some_iff]
  constructor
  · intro isTarget
    obtain ⟨target, named, decoded⟩ := isTarget
    exact ⟨⟨target.1, named⟩, target.2, decoded⟩
  · intro parts
    obtain ⟨⟨op, named⟩, v, decoded⟩ := parts
    exact ⟨(op, v), named, decoded⟩

theorem exists_ofInput_eq_ok_iff {json : Json} :
    (∃ p, ofInput json.toInput = .ok p) ↔ ∃ members, json = .object members ∧
      ∀ member ∈ members, (member.1 = "eq" ∨ member.1 = "in") ∧
        ∃ v, Value.ofInput member.2.toInput = .ok v := by
  simp only [← exists_isTarget_iff, ← exists_forall₂_iff]
  constructor
  · intro decodes
    obtain ⟨p, decoded⟩ := decodes
    obtain ⟨members, targets, isObject, all, _⟩ := ofInput_toInput_eq_ok_iff.mp decoded
    exact ⟨members, isObject, targets, all⟩
  · intro grammar
    obtain ⟨members, isObject, targets, all⟩ := grammar
    exact ⟨_, ofInput_toInput_eq_ok_iff.mpr ⟨members, targets, isObject, all, rfl⟩⟩

/-- A target as a member. -/
def encodedTarget (target : Operator × Value) : String × Json :=
  (target.1.name, Json.tree target.2)

theorem tree_eq (p : Predicate) : Json.tree p = .object (p.entries.map encodedTarget) := by
  apply congrArg Json.object
  rw [List.map_map]
  rfl

theorem encodedTarget_of_isTarget {member : String × Json} {target : Operator × Value}
    (isTarget : IsTarget member target) :
    encodedTarget target = (member.1, member.2.withoutNegativeZeros) :=
  Prod.ext (Operator.eq_name_of_ofName? isTarget.1).symm (Value.tree_of_ofInput isTarget.2)

theorem tree_of_ofInput {json : Json} {p : Predicate} (ordered : json.Ordered)
    (decoded : ofInput json.toInput = .ok p) : Json.tree p = json.withoutNegativeZeros := by
  obtain ⟨members, targets, rfl, all, rfl⟩ := ofInput_toInput_eq_ok_iff.mp decoded
  rw [tree_eq, entries_insertAll_of_decodes ordered.1 all, Json.withoutNegativeZeros]
  exact congrArg Json.object
    (Json.encodedMembers_eq all fun _ isTarget => encodedTarget_of_isTarget isTarget)

end Predicate

/-! ## Filters -/

namespace Filter

theorem exists_isColumn_iff {member : String × Json} :
    (∃ column, IsColumn member column) ↔ ∃ p, Predicate.ofInput member.2.toInput = .ok p := by
  constructor
  · intro isColumn
    obtain ⟨column, _, decoded⟩ := isColumn
    exact ⟨column.2, decoded⟩
  · intro decodes
    obtain ⟨p, decoded⟩ := decodes
    exact ⟨(member.1, p), rfl, decoded⟩

theorem exists_ofInput_eq_ok_iff {json : Json} :
    (∃ f, ofInput json.toInput = .ok f) ↔ ∃ members, json = .object members ∧
      ∀ member ∈ members, ∃ p, Predicate.ofInput member.2.toInput = .ok p := by
  simp only [← exists_isColumn_iff, ← exists_forall₂_iff]
  constructor
  · intro decodes
    obtain ⟨f, decoded⟩ := decodes
    obtain ⟨members, columns, isObject, all, _⟩ := ofInput_toInput_eq_ok_iff.mp decoded
    exact ⟨members, isObject, columns, all⟩
  · intro grammar
    obtain ⟨members, isObject, columns, all⟩ := grammar
    exact ⟨_, ofInput_toInput_eq_ok_iff.mpr ⟨members, columns, isObject, all, rfl⟩⟩

theorem tree_of_ofInput {json : Json} {f : Filter} (ordered : json.Ordered)
    (decoded : ofInput json.toInput = .ok f) : Json.tree f = json.withoutNegativeZeros := by
  obtain ⟨members, columns, rfl, all, rfl⟩ := ofInput_toInput_eq_ok_iff.mp decoded
  have inner := Json.orderedMembers_iff.mp ordered.2
  have encoded : Json.tree (insertAll columns empty) =
      .object ((insertAll columns empty).entries.map fun column =>
        (column.1, Json.tree column.2)) := rfl
  rw [encoded, entries_insertAll_of_decodes ordered.1 all, Json.withoutNegativeZeros]
  apply congrArg Json.object
  apply Json.encodedMembers_eq all
  intro member column inside isColumn
  exact Prod.ext isColumn.1.symm (Predicate.tree_of_ofInput (inner member inside) isColumn.2)

end Filter

/-! ## Clauses -/

namespace Clause

theorem addInputs_some {members : List (String × Json)} {f : Filter}
    (passedOver : "where" ∉ members.map Prod.fst) :
    addInputs (members.map Json.memberInput) (some f) = .ok ⟨f⟩ := by
  induction members with
  | nil => rfl
  | cons member rest ih =>
      rw [List.map_cons, List.mem_cons, not_or] at passedOver
      have other : member.1 ≠ "where" := fun same => passedOver.1 same.symm
      rw [List.map_cons, Json.memberInput, addInputs, if_neg other, ih passedOver.2]

theorem addInputs_none_eq_ok_iff {members : List (String × Json)}
    (distinct : (members.map Prod.fst).Nodup) {clause : Clause} :
    addInputs (members.map Json.memberInput) none = .ok clause ↔
      ∃ inner, members.lookup "where" = some inner ∧
        Filter.ofInput inner.toInput = .ok clause.filter := by
  induction members with
  | nil =>
      constructor
      · intro answered
        cases answered
      · intro found
        obtain ⟨inner, found, _⟩ := found
        cases found
  | cons member rest ih =>
      obtain ⟨key, json⟩ := member
      rw [List.map_cons, List.nodup_cons] at distinct
      rw [List.map_cons, Json.memberInput, addInputs, List.lookup_cons]
      by_cases isWhere : key = "where"
      · subst isWhere
        have onlyOne : ∀ f, addInputs (rest.map Json.memberInput) (some f) = .ok ⟨f⟩ :=
          fun f => addInputs_some distinct.1
        simp only [↓reduceIte, onlyOne, except_bind_eq_ok_iff, beq_self_eq_true]
        constructor
        · intro answered
          obtain ⟨f, decoded, answered⟩ := answered
          cases answered
          exact ⟨json, rfl, decoded⟩
        · intro found
          obtain ⟨inner, same, decoded⟩ := found
          cases same
          exact ⟨clause.filter, decoded, rfl⟩
      · have other : ("where" == key) = false := by
          rw [beq_eq_false_iff_ne]
          exact fun same => isWhere same.symm
        rw [if_neg isWhere, other]
        exact ih distinct.2

theorem ofInput_object_eq_ok_iff {object : KeyMap String Json} {clause : Clause} :
    ofInput (Json.object object.entries).toInput = .ok clause ↔
      ∃ inner, object.get? "where" = some inner ∧
        Filter.ofInput inner.toInput = .ok clause.filter := by
  have distinct : (object.entries.map Prod.fst).Nodup :=
    object.sorted.imp fun lt => Std.ne_of_lt lt
  rw [Json.toInput, Json.toInputMembers_eq_map]
  exact addInputs_none_eq_ok_iff distinct

end Clause

/-! ## All decoders -/

namespace Grammar

/-- A tree decodes as a value if no object stands in it, as a predicate if it is an object
of values under the names of operators, and as a filter if it is an object of predicates; a
clause is found in an object by its own key, whatever else is there. What was decoded is
encoded as the same tree, with negative zeros taken to zero. -/
theorem accepts_exactly_and_loses_nothing :
    (∀ json : Json, (∃ v, Value.ofInput json.toInput = .ok v) ↔ json.FreeOfObjects) ∧
    (∀ json : Json, (∃ p, Predicate.ofInput json.toInput = .ok p) ↔
      ∃ members, json = .object members ∧ ∀ member ∈ members,
        (member.1 = "eq" ∨ member.1 = "in") ∧ ∃ v, Value.ofInput member.2.toInput = .ok v) ∧
    (∀ json : Json, (∃ f, Filter.ofInput json.toInput = .ok f) ↔
      ∃ members, json = .object members ∧ ∀ member ∈ members,
        ∃ p, Predicate.ofInput member.2.toInput = .ok p) ∧
    (∀ (object : KeyMap String Json) (clause : Clause),
      Clause.ofInput (Json.object object.entries).toInput = .ok clause ↔
        ∃ inner, object.get? "where" = some inner ∧
          Filter.ofInput inner.toInput = .ok clause.filter) ∧
    (∀ (json : Json) v, Value.ofInput json.toInput = .ok v →
      Json.tree v = json.withoutNegativeZeros) ∧
    (∀ (json : Json) p, json.Ordered → Predicate.ofInput json.toInput = .ok p →
      Json.tree p = json.withoutNegativeZeros) ∧
    (∀ (json : Json) f, json.Ordered → Filter.ofInput json.toInput = .ok f →
      Json.tree f = json.withoutNegativeZeros) ∧
    (∀ text json, Json.ofText text = .ok json → json.Ordered) := by
  refine ⟨?_, ?_, ?_, ?_, ?_, ?_, ?_, ?_⟩
  · intro json
    exact Value.exists_ofInput_eq_ok_iff
  · intro json
    exact Predicate.exists_ofInput_eq_ok_iff
  · intro json
    exact Filter.exists_ofInput_eq_ok_iff
  · intro object clause
    exact Clause.ofInput_object_eq_ok_iff
  · intro json v decoded
    exact Value.tree_of_ofInput decoded
  · intro json p ordered decoded
    exact Predicate.tree_of_ofInput ordered decoded
  · intro json f ordered decoded
    exact Filter.tree_of_ofInput ordered decoded
  · intro text json parsed
    exact Json.ordered_of_ofText parsed

theorem accepts_exactly_and_loses_nothing_negative_zero :
    ∃ (v : Value) (p : Predicate) (f : Filter) (negativeZero : Json.Number),
      negativeZero ≠ negativeZero.withoutNegativeZero ∧
      Filter.ofInput (Json.object [("a", .object [("in", .array [.number negativeZero])]),
        ("b", .object [])]).toInput = .ok f ∧
      Json.tree f = .object
        [("a", .object [("in", .array [.number negativeZero.withoutNegativeZero])]),
          ("b", .object [])] ∧
      Json.tree p = .object [("in", .array [.number negativeZero.withoutNegativeZero])] ∧
      Json.tree v = .array [.number negativeZero.withoutNegativeZero] ∧
      Json.Ordered (.object [("eq", .null)]) := by
  obtain ⟨_, _, _, _, values, predicates, filters, texts⟩ := accepts_exactly_and_loses_nothing
  let negativeZero : Json.Number := .float ⟨0x8000000000000000⟩ (by decide)
  let v : Value := .list [.float (.ofFinite ⟨0x8000000000000000⟩ (by decide))]
  let p : Predicate := .single .oneOf v
  let targets : Json := .object [("in", .array [.number negativeZero])]
  have targetsOrdered : targets.Ordered := ⟨by decide, ⟨trivial, trivial⟩, trivial⟩
  refine ⟨v, p, .ofList [("a", p), ("b", .empty)], negativeZero, by decide, rfl, ?_, ?_, ?_, ?_⟩
  · exact filters (.object [("a", targets), ("b", .object [])]) _
      ⟨by decide, targetsOrdered, ⟨by decide, trivial⟩, trivial⟩ rfl
  · exact predicates targets _ targetsOrdered rfl
  · exact values (.array [.number negativeZero]) _ rfl
  · exact texts (Json.text (Json.object [("eq", .null)])) _ (Json.decodeText_text _ _)

end Grammar

end ColumnFilter
