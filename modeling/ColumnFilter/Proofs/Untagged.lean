import ColumnFilter.Proofs.Shape
import ColumnFilter.Proofs.Transport

set_option autoImplicit false

/-!
# What untagged shapes come back as

A shape is written without its kind, and its kind is found again by its keys. Only the set of
keys counts, wherever they stand and whatever they stand for. Predicates that ask something
come back as predicates and filters as filters, but for those whose columns are all named as
operators, which are refused.
-/

namespace ColumnFilter

/-! ## Objects with the same keys -/

namespace ShapeKind

/-- What can be asked about the kind of an object: whether it can be read by column, whether
by operator, and which of both its keys announce. -/
def answers {σ : Type} [Keyed σ] (object : σ) : Bool × Bool × Option ShapeKind :=
  (fitsByColumn object, fitsByOperator object, classify object)

/-- The two objects have the same set of keys. -/
def SameKeys {σ τ : Type} [Keyed σ] [Keyed τ] (object : σ) (other : τ) : Prop :=
  ∀ key, key ∈ objectKeys object ↔ key ∈ objectKeys other

section Answers

variable {σ τ : Type} [Keyed σ] [Keyed τ] {object : σ} {other : τ}

theorem SameKeys.of_eq (same : objectKeys object = objectKeys other) : SameKeys object other :=
  fun key => by rw [same]

theorem isEmpty_congr (same : SameKeys object other) :
    (objectKeys object).isEmpty = (objectKeys other).isEmpty := by
  rw [Bool.eq_iff_iff, List.isEmpty_iff, List.isEmpty_iff, List.eq_nil_iff_forall_not_mem,
    List.eq_nil_iff_forall_not_mem]
  exact forall_congr' fun key => not_congr (same key)

theorem fitsByOperator_congr (same : SameKeys object other) :
    fitsByOperator object = fitsByOperator other := by
  rw [Bool.eq_iff_iff, fitsByOperator, fitsByOperator, List.all_eq_true, List.all_eq_true]
  exact forall_congr' fun key => imp_congr_left (same key)

/-- The order of the keys and the values under them make no difference. -/
theorem answers_congr (same : SameKeys object other) : answers object = answers other := by
  simp only [answers, fitsByColumn, classify, isEmpty_congr same, fitsByOperator_congr same]

theorem answers_of_keys (hasKeys : objectKeys object ≠ []) :
    answers object = (true, false, some .byColumn) ∨
      answers object = (false, true, some .byOperator) := by
  have notEmpty : (objectKeys object).isEmpty = false := by simpa using hasKeys
  cases fits : fitsByOperator object with
  | true => exact .inr (by simp [answers, fitsByColumn, classify, notEmpty, fits])
  | false => exact .inl (by simp [answers, fitsByColumn, classify, notEmpty, fits])

theorem fits_both_iff :
    fitsByColumn object = true ∧ fitsByOperator object = true ↔ objectKeys object = [] := by
  constructor
  · intro both
    by_contra hasKeys
    have notEmpty : (objectKeys object).isEmpty = false := by simpa using hasKeys
    simp [fitsByColumn, notEmpty] at both
  · intro noKeys
    simp [fitsByColumn, fitsByOperator, noKeys]

theorem classify_eq_none_iff : classify object = none ↔ objectKeys object = [] := by
  rw [classify, ← List.isEmpty_iff]
  split
  · simp [*]
  · split <;> simp [*]

end Answers

theorem sameKeys_hashMap {α β : Type} {m : KeyMap String α} {n : Std.HashMap String β}
    (same : ∀ key, key ∈ m.keys ↔ key ∈ n) : SameKeys m n := by
  intro key
  exact (same key).trans Std.HashMap.mem_keys.symm

end ShapeKind

/-! ## The object of a shape -/

namespace Filter

theorem objectKeys_canonical (f : Filter) : objectKeys f.canonical = objectKeys f :=
  KeyMap.keys_map Predicate.canonical f.columns

theorem isEmpty_canonical (f : Filter) : f.canonical.isEmpty = f.isEmpty :=
  List.isEmpty_map

theorem exists_object (f : Filter) : ∃ object : KeyMap String Json,
    Json.tree f = .object object.entries ∧ ReadsAsFilter object f.canonical :=
  ⟨f.columns.map Json.tree, rfl, f.ofInput_tree⟩

end Filter

namespace Predicate

theorem objectKeys_canonical (p : Predicate) : objectKeys p.canonical = objectKeys p :=
  congrArg (List.map Operator.name) (KeyMap.keys_map Value.canonical p.targets)

theorem isEmpty_canonical (p : Predicate) : p.canonical.isEmpty = p.isEmpty :=
  List.isEmpty_map

/-- The names of operators are in the order of the operators. -/
theorem names_sorted (p : Predicate) :
    ((p.entries.map encodedTarget).map Prod.fst).Pairwise (· < ·) := by
  have sorted := p.targets.sorted
  rw [List.pairwise_map] at sorted
  rw [List.map_map, List.pairwise_map]
  exact sorted.imp Operator.name_lt_name_iff.mpr

theorem exists_object (p : Predicate) : ∃ object : KeyMap String Json,
    Json.tree p = .object object.entries ∧ ReadsAsPredicate object p.canonical := by
  refine ⟨⟨p.entries.map encodedTarget, p.names_sorted⟩, p.tree_eq, ?_⟩
  rw [ReadsAsPredicate, objectInput, ← p.tree_eq]
  exact p.ofInput_tree

end Predicate

namespace Shape

theorem ofJson_tree_of_isEmpty {s : Shape} (empty : s.isEmpty = true) :
    (ofJson (Json.tree s)).value = .ok (.byColumn .empty) := by
  cases s with
  | byColumn f =>
      have noColumns : f = .empty := Filter.eq_of_entries_eq (List.isEmpty_iff.mp empty)
      rw [noColumns]
      rfl
  | byOperator p =>
      have noTargets : p = .empty := Predicate.eq_of_entries_eq (List.isEmpty_iff.mp empty)
      rw [noTargets]
      rfl

theorem ofJson_tree_byOperator {p : Predicate} (asksSomething : p.isEmpty = false) :
    (ofJson (Json.tree (byOperator p))).value = .ok (byOperator p).canonical := by
  obtain ⟨object, isObject, reads⟩ := p.exists_object
  change (ofJson (Json.tree p)).value = _
  rw [isObject, ofJson_object]
  exact value_ofObject_of_predicate reads (p.isEmpty_canonical.trans asksSomething)

theorem ofJson_tree_byColumn {f : Filter}
    (announced : ∃ column ∈ objectKeys f, column ≠ "eq" ∧ column ≠ "in") :
    (ofJson (Json.tree (byColumn f))).value = .ok (byColumn f).canonical := by
  obtain ⟨object, isObject, reads⟩ := f.exists_object
  change (ofJson (Json.tree f)).value = _
  rw [isObject, ofJson_object]
  apply value_ofObject_of_filter reads
  obtain ⟨column, member, notEquals, notOneOf⟩ := announced
  rw [f.objectKeys_canonical]
  exact .inr ⟨column, member, Operator.ofName?_eq_none_iff.mpr ⟨notEquals, notOneOf⟩⟩

theorem ofJson_tree_byColumn_named {f : Filter} (hasColumns : f.isEmpty = false)
    (named : ∀ column ∈ objectKeys f, column = "eq" ∨ column = "in") :
    (ofJson (Json.tree (byColumn f))).value = .error (.json (.data (.invalidType .map .value))) := by
  obtain ⟨object, isObject, reads⟩ := f.exists_object
  change (ofJson (Json.tree f)).value = _
  rw [isObject, ofJson_object]
  apply value_ofObject_of_named reads (f.isEmpty_canonical.trans hasColumns)
  rw [f.objectKeys_canonical]
  intro announced
  obtain ⟨column, member, unnamed⟩ := announced
  obtain ⟨notEquals, notOneOf⟩ := Operator.ofName?_eq_none_iff.mp unnamed
  exact (named column member).elim notEquals notOneOf

theorem answers_tree_byColumn (f : Filter) : ∃ object : KeyMap String Json,
    Json.tree (byColumn f) = .object object.entries ∧
      ShapeKind.answers object = ShapeKind.answers f := by
  obtain ⟨object, isObject, reads⟩ := f.exists_object
  refine ⟨object, isObject, ShapeKind.answers_congr (.of_eq ?_)⟩
  exact (keys_eq_of_readsAsFilter reads).trans f.objectKeys_canonical

theorem answers_tree_byOperator (p : Predicate) : ∃ object : KeyMap String Json,
    Json.tree (byOperator p) = .object object.entries ∧
      ShapeKind.answers object = ShapeKind.answers p := by
  obtain ⟨object, isObject, reads⟩ := p.exists_object
  refine ⟨object, isObject, ShapeKind.answers_congr (.of_eq ?_)⟩
  exact (keys_eq_of_readsAsPredicate reads).trans p.objectKeys_canonical

/-- Decoding the tree of a shape gives the filter without columns if the shape is empty, and
else the shape itself under the canonical integer rule. Only filters all of whose columns are
named as operators do not come back; they are refused as JSON. What is asked about the kind
of an object is answered alike of a shape, of its tree and of all that has the same keys: of
no keys that they fit both readings, and of all others that they fit one, which is named. -/
theorem untagged_shapes_come_back :
    (∀ s : Shape, s.isEmpty = true → (ofJson (Json.tree s)).value = .ok (.byColumn .empty)) ∧
    (∀ p : Predicate, p.isEmpty = false →
      (ofJson (Json.tree (byOperator p))).value = .ok (byOperator p).canonical) ∧
    (∀ f : Filter, (∃ column ∈ objectKeys f, column ≠ "eq" ∧ column ≠ "in") →
      (ofJson (Json.tree (byColumn f))).value = .ok (byColumn f).canonical) ∧
    (∀ f : Filter, f.isEmpty = false → (∀ column ∈ objectKeys f, column = "eq" ∨ column = "in") →
      (ofJson (Json.tree (byColumn f))).value =
        .error (.json (.data (.invalidType .map .value)))) ∧
    (∀ f : Filter, ∃ object : KeyMap String Json,
      Json.tree (byColumn f) = .object object.entries ∧
        ShapeKind.answers object = ShapeKind.answers f) ∧
    (∀ p : Predicate, ∃ object : KeyMap String Json,
      Json.tree (byOperator p) = .object object.entries ∧
        ShapeKind.answers object = ShapeKind.answers p) ∧
    (∀ {σ τ : Type} [Keyed σ] [Keyed τ] (object : σ) (other : τ),
      ShapeKind.SameKeys object other → ShapeKind.answers object = ShapeKind.answers other) ∧
    (∀ {α β : Type} (m : KeyMap String α) (n : Std.HashMap String β),
      (∀ key, key ∈ m.keys ↔ key ∈ n) → ShapeKind.answers m = ShapeKind.answers n) ∧
    (∀ {σ : Type} [Keyed σ] (object : σ),
      (ShapeKind.fitsByColumn object = true ∧ ShapeKind.fitsByOperator object = true ↔
        objectKeys object = []) ∧
      (ShapeKind.classify object = none ↔ objectKeys object = []) ∧
      (objectKeys object ≠ [] →
        ShapeKind.answers object = (true, false, some .byColumn) ∨
          ShapeKind.answers object = (false, true, some .byOperator))) := by
  refine ⟨?_, ?_, ?_, ?_, answers_tree_byColumn, answers_tree_byOperator, ?_, ?_, ?_⟩
  · intro s empty
    exact ofJson_tree_of_isEmpty empty
  · intro p asksSomething
    exact ofJson_tree_byOperator asksSomething
  · intro f announced
    exact ofJson_tree_byColumn announced
  · intro f hasColumns named
    exact ofJson_tree_byColumn_named hasColumns named
  · intro σ τ _ _ object other same
    exact ShapeKind.answers_congr same
  · intro α β m n same
    exact ShapeKind.answers_congr (ShapeKind.sameKeys_hashMap same)
  · intro σ _ object
    exact ⟨ShapeKind.fits_both_iff, ShapeKind.classify_eq_none_iff, ShapeKind.answers_of_keys⟩

theorem untagged_shapes_come_back_operator_columns :
    (ofJson (Json.tree (byOperator .empty))).value = .ok (.byColumn .empty) ∧
    (ofJson (Json.tree (byOperator (.single .oneOf (.list [.uint 7]))))).value =
      .ok (.byOperator (.single .oneOf (.list [.int 7]))) ∧
    (ofJson (Json.tree (byColumn (.ofList [("in", .empty), ("size", .equals true)])))).value =
      .ok (.byColumn (.ofList [("in", .empty), ("size", .equals true)])) ∧
    (ofJson (Json.tree (byColumn (.ofList [("in", .empty)])))).value =
      .error (.json (.data (.invalidType .map .value))) ∧
    ∃ (m : KeyMap String Value) (n : Std.HashMap String Json),
      ShapeKind.answers m = ShapeKind.answers n ∧ ShapeKind.answers n = ShapeKind.answers m ∧
        ShapeKind.answers m = (false, true, some .byOperator) := by
  obtain ⟨empty, predicates, filters, named, _, _, anyKeyed, maps, kinds⟩ :=
    untagged_shapes_come_back
  let m : KeyMap String Value := .ofList [("in", .null)]
  let n : Std.HashMap String Json := (∅ : Std.HashMap String Json).insert "in" .null
  have sameKeys : ∀ key, key ∈ m.keys ↔ key ∈ n := by
    intro key
    have onlyKey : m.keys = ["in"] := rfl
    rw [onlyKey, List.mem_singleton, Std.HashMap.mem_insert, beq_iff_eq]
    simp [eq_comm]
  have sameAnswers := maps m n sameKeys
  refine ⟨empty _ rfl, predicates _ rfl, filters _ ?_, named _ rfl ?_, m, n, sameAnswers, ?_, ?_⟩
  · exact ⟨"size", by decide, by decide, by decide⟩
  · decide
  · exact anyKeyed n m fun key => ((ShapeKind.sameKeys_hashMap sameKeys) key).symm
  · exact ((kinds m).2.2 (by decide)).resolve_left (by decide)

end Shape

end ColumnFilter
