import ColumnFilter.Filter.Shape
import ColumnFilter.Proofs.Members

set_option autoImplicit false

/-!
# Untagged objects are read in one way

The keys of an object announce its shape, and the decoder of that shape then looks at all of
it. An object with keys that decodes as a predicate decodes as no filter, so the keys never
announce the wrong one of two readings; a filter all of whose columns are named as operators
is refused.
-/

namespace ColumnFilter

/-- The members of an object as decoder input. -/
def objectInput (object : KeyMap String Json) : Input :=
  (Json.object object.entries).toInput

/-- The object decodes as this filter. -/
def ReadsAsFilter (object : KeyMap String Json) (f : Filter) : Prop :=
  Filter.ofInput (objectInput object) = .ok f

def ReadsAsPredicate (object : KeyMap String Json) (p : Predicate) : Prop :=
  Predicate.ofInput (objectInput object) = .ok p

/-- Some key of the object names no operator. -/
def HasColumnKey (object : KeyMap String Json) : Prop :=
  ∃ key ∈ object.keys, Operator.ofName? key = none

theorem Json.toInputMembers_keys (members : List (String × Json)) :
    (toInputMembers members).map Prod.fst = members.map Prod.fst := by
  induction members with
  | nil => rfl
  | cons member rest ih =>
      rw [toInputMembers, List.map_cons, List.map_cons, ih]

section Readings

variable {object : KeyMap String Json}

theorem keys_ne_nil (hasKeys : object.isEmpty = false) : object.keys ≠ [] := by
  intro none
  have noEntries : object.entries = [] := List.map_eq_nil_iff.mp none
  rw [KeyMap.isEmpty, noEntries] at hasKeys
  cases hasKeys

theorem keys_eq_of_readsAsPredicate {object : KeyMap String Json} {p : Predicate}
    (reads : ReadsAsPredicate object p) : object.keys = objectKeys p := by
  obtain ⟨members, targets, isObject, all, rfl⟩ := Predicate.ofInput_toInput_eq_ok_iff.mp reads
  cases isObject
  have kept := Predicate.entries_insertAll_of_decodes object.sorted all
  have names := Predicate.names_eq_of_decodes all
  rw [← kept] at names
  change object.keys = ((Predicate.insertAll targets .empty).entries.map Prod.fst).map Operator.name
  rw [List.map_map]
  exact names

theorem keys_eq_of_readsAsFilter {object : KeyMap String Json} {f : Filter}
    (reads : ReadsAsFilter object f) : object.keys = objectKeys f := by
  obtain ⟨members, columns, isObject, all, rfl⟩ := Filter.ofInput_toInput_eq_ok_iff.mp reads
  cases isObject
  have kept := Filter.entries_insertAll_of_decodes object.sorted all
  have names := Filter.names_eq_of_decodes all
  rw [← kept] at names
  exact names

theorem not_reads_as_both (hasKeys : object.isEmpty = false) {f : Filter} {p : Predicate}
    (asFilter : ReadsAsFilter object f) : ¬ ReadsAsPredicate object p := by
  intro asPredicate
  have none : Json.toInputMembers object.entries = [] :=
    Filter.eq_nil_of_addInputs_both asFilter asPredicate
  have noKeys : object.keys = [] := by
    rw [KeyMap.keys, ← Json.toInputMembers_keys, none]
    rfl
  exact keys_ne_nil hasKeys noKeys

theorem not_hasColumnKey_of_reads {p : Predicate} (asPredicate : ReadsAsPredicate object p) :
    ¬ HasColumnKey object := by
  rintro ⟨key, member, unnamed⟩
  rw [KeyMap.keys, ← Json.toInputMembers_keys] at member
  obtain ⟨entry, entryMember, rfl⟩ := List.mem_map.mp member
  have named := (Predicate.entries_decode_of_addInputs asPredicate entry entryMember).1
  rw [unnamed] at named
  cases named

theorem refused_as_predicate {f : Filter} (reads : ReadsAsFilter object f)
    (hasKeys : object.isEmpty = false) (unannounced : ¬ HasColumnKey object) :
    Predicate.ofInput (objectInput object) = .error (.invalidType .map .value) := by
  cases members : object.entries with
  | nil =>
      rw [KeyMap.isEmpty, members] at hasKeys
      cases hasKeys
  | cons member rest =>
      obtain ⟨key, json⟩ := member
      obtain ⟨_, columns, isObject, all, _⟩ := Filter.ofInput_toInput_eq_ok_iff.mp reads
      cases isObject
      rw [members] at all
      cases all with
      | cons isColumn _ =>
          obtain ⟨entries, isMap, _⟩ := Predicate.ofInput_eq_ok_iff.mp isColumn.2
          have isMap : json.toInput = .map entries := isMap
          cases isName : Operator.ofName? key with
          | none =>
              have isKey : key ∈ object.keys := by simp [KeyMap.keys, members]
              exact absurd ⟨key, isKey, isName⟩ unannounced
          | some op =>
              rw [objectInput, members, Json.toInput, Json.toInputMembers, Predicate.ofInput,
                Predicate.addInputs, Operator.ofKey_eq_ok_iff.mpr isName, isMap]
              rfl

theorem classify_of_hasColumnKey (announced : HasColumnKey object) :
    ShapeKind.classify object = some .byColumn := by
  obtain ⟨key, member, unnamed⟩ := announced
  have hasKeys : (objectKeys object).isEmpty = false := by
    rw [List.isEmpty_eq_false_iff]
    exact List.ne_nil_of_mem member
  have misfit : ShapeKind.fitsByOperator object = false := by
    apply Bool.eq_false_iff.mpr
    intro fits
    have named := List.all_eq_true.mp fits key member
    rw [unnamed] at named
    cases named
  simp only [ShapeKind.classify, hasKeys, misfit, Bool.false_eq_true, ↓reduceIte]

theorem classify_of_not_hasColumnKey (hasKeys : object.isEmpty = false)
    (announced : ¬ HasColumnKey object) :
    ShapeKind.classify object = some .byOperator := by
  have someKeys : (objectKeys object).isEmpty = false := by
    rw [List.isEmpty_eq_false_iff]
    exact keys_ne_nil hasKeys
  have fits : ShapeKind.fitsByOperator object = true := by
    apply List.all_eq_true.mpr
    intro key member
    cases named : Operator.ofName? key with
    | none => exact absurd ⟨key, member, named⟩ announced
    | some op => rfl
  simp only [ShapeKind.classify, someKeys, fits, Bool.false_eq_true, ↓reduceIte]

end Readings

namespace Shape

/-- What is answered, and reported, once a decoder of a shape has answered. -/
def reported (kind : ShapeKind) : Except DecodeError Shape → Traced (Except FilterError Shape)
  | .ok shape => ⟨.ok shape, [.shapeClassified kind]⟩
  | .error error => ⟨.error (.json (.data error)), []⟩

theorem reported_value_eq_ok_iff {kind : ShapeKind} {decoded : Except DecodeError Shape}
    {shape : Shape} : (reported kind decoded).value = .ok shape ↔ decoded = .ok shape := by
  cases decoded with
  | error error => constructor <;> intro same <;> cases same
  | ok other => simp only [reported, Except.ok.injEq]

variable {object : KeyMap String Json}

theorem ofObject_of_byColumn
    (announced : (ShapeKind.classify object).getD .byColumn = .byColumn) :
    ofObject object = reported .byColumn (.byColumn <$> Filter.ofInput (objectInput object)) := by
  simp only [ofObject, announced, objectInput]
  cases byColumn <$> Filter.ofInput (Json.object object.entries).toInput <;> rfl

theorem ofObject_of_byOperator
    (announced : (ShapeKind.classify object).getD .byColumn = .byOperator) :
    ofObject object =
      reported .byOperator (.byOperator <$> Predicate.ofInput (objectInput object)) := by
  simp only [ofObject, announced, objectInput]
  cases byOperator <$> Predicate.ofInput (Json.object object.entries).toInput <;> rfl

theorem ofObject_of_hasColumnKey (announced : HasColumnKey object) :
    ofObject object = reported .byColumn (.byColumn <$> Filter.ofInput (objectInput object)) := by
  apply ofObject_of_byColumn
  rw [classify_of_hasColumnKey announced]
  rfl

theorem ofObject_of_not_hasColumnKey (hasKeys : object.isEmpty = false)
    (announced : ¬ HasColumnKey object) :
    ofObject object =
      reported .byOperator (.byOperator <$> Predicate.ofInput (objectInput object)) := by
  apply ofObject_of_byOperator
  rw [classify_of_not_hasColumnKey hasKeys announced]
  rfl

theorem ofObject_of_isEmpty (noKeys : object.isEmpty = true) :
    ofObject object = ⟨.ok (.byColumn .empty), [.shapeClassified .byColumn]⟩ := by
  have empty : object = .empty := KeyMap.eq_of_entries_eq (List.isEmpty_iff.mp noKeys)
  subst empty
  rfl

theorem value_ofObject_eq_byOperator_iff (hasKeys : object.isEmpty = false) {p : Predicate} :
    (ofObject object).value = .ok (.byOperator p) ↔ ReadsAsPredicate object p := by
  by_cases announced : HasColumnKey object
  · rw [ofObject_of_hasColumnKey announced, reported_value_eq_ok_iff, except_map_eq_ok_iff]
    constructor
    · rintro ⟨f, _, same⟩
      cases same
    · intro reads
      exact absurd announced (not_hasColumnKey_of_reads reads)
  · rw [ofObject_of_not_hasColumnKey hasKeys announced, reported_value_eq_ok_iff,
      except_map_eq_ok_iff]
    constructor
    · rintro ⟨q, reads, same⟩
      cases same
      exact reads
    · intro reads
      exact ⟨p, reads, rfl⟩

theorem value_ofObject_eq_byColumn_iff (hasKeys : object.isEmpty = false) {f : Filter} :
    (ofObject object).value = .ok (.byColumn f) ↔
      ReadsAsFilter object f ∧ HasColumnKey object := by
  by_cases announced : HasColumnKey object
  · rw [ofObject_of_hasColumnKey announced, reported_value_eq_ok_iff, except_map_eq_ok_iff]
    constructor
    · rintro ⟨g, reads, same⟩
      cases same
      exact ⟨reads, announced⟩
    · rintro ⟨reads, _⟩
      exact ⟨f, reads, rfl⟩
  · rw [ofObject_of_not_hasColumnKey hasKeys announced, reported_value_eq_ok_iff,
      except_map_eq_ok_iff]
    constructor
    · rintro ⟨q, _, same⟩
      cases same
    · rintro ⟨_, contrary⟩
      exact absurd contrary announced

theorem value_ofObject_of_filter {f : Filter} (reads : ReadsAsFilter object f)
    (announced : f.isEmpty = true ∨ ∃ column ∈ objectKeys f, Operator.ofName? column = none) :
    (ofObject object).value = .ok (.byColumn f) := by
  have sameKeys := keys_eq_of_readsAsFilter reads
  rcases announced with noColumns | named
  · have isEmpty : f = .empty := Filter.eq_of_entries_eq (List.isEmpty_iff.mp noColumns)
    have noKeys : object.isEmpty = true := by
      rw [KeyMap.isEmpty_iff_keys_eq_nil, sameKeys]
      exact KeyMap.isEmpty_iff_keys_eq_nil.mp noColumns
    rw [ofObject_of_isEmpty noKeys, isEmpty]
  · have announced : HasColumnKey object := by
      rw [HasColumnKey, sameKeys]
      exact named
    have hasKeys : object.isEmpty = false := by
      rw [Bool.eq_false_iff, ne_eq, KeyMap.isEmpty_iff_keys_eq_nil]
      obtain ⟨key, member, _⟩ := announced
      exact List.ne_nil_of_mem member
    exact (value_ofObject_eq_byColumn_iff hasKeys).mpr ⟨reads, announced⟩

theorem value_ofObject_of_predicate {p : Predicate} (reads : ReadsAsPredicate object p)
    (asksSomething : p.isEmpty = false) : (ofObject object).value = .ok (.byOperator p) := by
  have hasKeys : object.isEmpty = false := by
    rw [Bool.eq_false_iff, ne_eq, KeyMap.isEmpty_iff_keys_eq_nil, keys_eq_of_readsAsPredicate reads]
    intro none
    have noTargets := KeyMap.isEmpty_iff_keys_eq_nil.mpr (List.map_eq_nil_iff.mp none)
    exact Bool.eq_false_iff.mp asksSomething noTargets
  exact (value_ofObject_eq_byOperator_iff hasKeys).mpr reads

/-- A filter all of whose columns are named as operators is taken for a predicate. Its members
are objects, which are no targets, so the first one is refused. -/
theorem value_ofObject_of_named {f : Filter} (reads : ReadsAsFilter object f)
    (hasColumns : f.isEmpty = false)
    (named : ¬ ∃ column ∈ objectKeys f, Operator.ofName? column = none) :
    (ofObject object).value = .error (.json (.data (.invalidType .map .value))) := by
  have sameKeys := keys_eq_of_readsAsFilter reads
  have hasKeys : object.isEmpty = false := by
    rw [Bool.eq_false_iff, ne_eq, KeyMap.isEmpty_iff_keys_eq_nil, sameKeys]
    exact fun none => Bool.eq_false_iff.mp hasColumns (KeyMap.isEmpty_iff_keys_eq_nil.mpr none)
  have unannounced : ¬ HasColumnKey object := by
    rw [HasColumnKey, sameKeys]
    exact named
  rw [ofObject_of_not_hasColumnKey hasKeys unannounced,
    refused_as_predicate reads hasKeys unannounced]
  rfl

/-- The events that belong to an answer: one for a shape, none for an error. -/
def eventsOf : Except FilterError Shape → List Event
  | .ok shape => [.shapeClassified shape.kind]
  | .error _ => []

theorem events_reported {α : Type} {kind : ShapeKind} {shapeOf : α → Shape}
    (ofKind : ∀ a, (shapeOf a).kind = kind) (decoded : Except DecodeError α) :
    (reported kind (shapeOf <$> decoded)).events =
      eventsOf (reported kind (shapeOf <$> decoded)).value := by
  cases decoded with
  | error error => rfl
  | ok a => exact congrArg (fun found => [Event.shapeClassified found]) (ofKind a).symm

theorem className_of_reported {kind : ShapeKind} {decoded : Except DecodeError Shape}
    {error : FilterError} (refused : (reported kind decoded).value = .error error) :
    error.className = "json" := by
  cases decoded with
  | error cause =>
      cases refused
      rfl
  | ok shape => cases refused

/-- Every object is decoded as one of the two shapes, and then reported as such. -/
theorem ofObject_eq_reported (object : KeyMap String Json) :
    ofObject object = reported .byColumn (.byColumn <$> Filter.ofInput (objectInput object)) ∨
      ofObject object =
        reported .byOperator (.byOperator <$> Predicate.ofInput (objectInput object)) := by
  cases announced : (ShapeKind.classify object).getD .byColumn with
  | byColumn => exact .inl (ofObject_of_byColumn announced)
  | byOperator => exact .inr (ofObject_of_byOperator announced)

theorem events_ofObject (object : KeyMap String Json) :
    (ofObject object).events = eventsOf (ofObject object).value := by
  rcases ofObject_eq_reported object with asColumns | asOperators
  · rw [asColumns]
    apply events_reported
    intro f
    rfl
  · rw [asOperators]
    apply events_reported
    intro p
    rfl

theorem className_of_ofObject {error : FilterError}
    (refused : (ofObject object).value = .error error) : error.className = "json" := by
  rcases ofObject_eq_reported object with asColumns | asOperators
  · rw [asColumns] at refused
    exact className_of_reported refused
  · rw [asOperators] at refused
    exact className_of_reported refused

theorem ofJson_object (object : KeyMap String Json) :
    ofJson (.object object.entries) = ofObject object := by
  rw [ofJson, KeyMap.ofList_entries]

theorem ofJson_of_not_object {json : Json} (notObject : ∀ members, json ≠ .object members) :
    ∃ found, ofJson json = ⟨.error (.notAnObject found), []⟩ := by
  cases json with
  | object members => exact absurd rfl (notObject members)
  | _ => exact ⟨_, rfl⟩

theorem events_ofJson (json : Json) : (ofJson json).events = eventsOf (ofJson json).value := by
  cases json with
  | object members => exact events_ofObject (.ofList members)
  | _ => rfl

/-- An object with keys decodes as a filter or as a predicate, never as both. Decoding it by
its keys answers the predicate if there is one, and the filter if there is one and some key
names no operator; all else is refused as JSON of the wrong type. The empty object is the
filter without columns, and a tree that is no object is refused as such. The kind of the
answer is reported once, and an error not at all. -/
theorem ofJson_reads_announced_shape :
    (∀ object : KeyMap String Json, object.isEmpty = false →
        (∀ f p, ¬ (ReadsAsFilter object f ∧ ReadsAsPredicate object p)) ∧
        (∀ p, (ofObject object).value = .ok (.byOperator p) ↔ ReadsAsPredicate object p) ∧
        (∀ f, (ofObject object).value = .ok (.byColumn f) ↔
          ReadsAsFilter object f ∧ HasColumnKey object) ∧
        ((∀ p, ¬ ReadsAsPredicate object p) →
          (∀ f, ¬ (ReadsAsFilter object f ∧ HasColumnKey object)) →
          ∃ error, (ofObject object).value = .error error ∧ error.className = "json")) ∧
      (ofObject .empty).value = .ok (.byColumn .empty) ∧
      (∀ object : KeyMap String Json, ofJson (.object object.entries) = ofObject object) ∧
      (∀ json : Json, (∀ members, json ≠ .object members) →
        ∃ found, (ofJson json).value = .error (.notAnObject found)) ∧
      (∀ object : KeyMap String Json,
        (ofObject object).events = eventsOf (ofObject object).value) ∧
      (∀ json : Json, (ofJson json).events = eventsOf (ofJson json).value) := by
  refine ⟨?_, ?_, ofJson_object, ?_, events_ofObject, events_ofJson⟩
  · intro object hasKeys
    refine ⟨?_, fun p => value_ofObject_eq_byOperator_iff hasKeys,
      fun f => value_ofObject_eq_byColumn_iff hasKeys, ?_⟩
    · rintro f p ⟨asFilter, asPredicate⟩
      exact not_reads_as_both hasKeys asFilter asPredicate
    · intro noPredicate noFilter
      cases answered : (ofObject object).value with
      | error error => exact ⟨error, rfl, className_of_ofObject answered⟩
      | ok shape =>
          cases shape with
          | byColumn f =>
              exact absurd ((value_ofObject_eq_byColumn_iff hasKeys).mp answered) (noFilter f)
          | byOperator p =>
              exact absurd ((value_ofObject_eq_byOperator_iff hasKeys).mp answered)
                (noPredicate p)
  · rw [ofObject_of_isEmpty rfl]
  · intro json notObject
    obtain ⟨found, refused⟩ := ofJson_of_not_object notObject
    exact ⟨found, congrArg Traced.value refused⟩

/-- A column named as an operator is refused although the object decodes as a filter. -/
theorem ofJson_reads_announced_shape_operator_column :
    ReadsAsFilter (KeyMap.empty.insert "eq" (.object [("in", .array [])]))
        ((Predicate.oneOf ([] : List Value)).forColumn "eq") ∧
      (∃ error, (ofObject (KeyMap.empty.insert "eq" (.object [("in", .array [])]))).value =
        .error error ∧ error.className = "json") ∧
      ∃ found, (ofJson .null).value = .error (.notAnObject found) := by
  have asFilter : ReadsAsFilter (KeyMap.empty.insert "eq" (.object [("in", .array [])]))
      ((Predicate.oneOf ([] : List Value)).forColumn "eq") := rfl
  have noColumnKey : ¬ HasColumnKey (KeyMap.empty.insert "eq" (.object [("in", .array [])])) := by
    rintro ⟨key, member, unnamed⟩
    cases List.mem_singleton.mp member
    cases unnamed
  obtain ⟨objects, _, _, trees, _, _⟩ := ofJson_reads_announced_shape
  obtain ⟨notBoth, _, _, refused⟩ :=
    objects (KeyMap.empty.insert "eq" (.object [("in", .array [])])) rfl
  refine ⟨asFilter, refused (fun p asPredicate => notBoth _ p ⟨asFilter, asPredicate⟩)
    (fun f reads => noColumnKey reads.2), trees .null ?_⟩
  intro members same
  cases same

end Shape

end ColumnFilter
