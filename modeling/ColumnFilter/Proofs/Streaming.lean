import ColumnFilter.Proofs.Members
import ColumnFilter.Proofs.Shape
import ColumnFilter.Proofs.Value.Json

set_option autoImplicit false

/-!
# Decoding while reading, and decoding what was read

A text is decoded while it is read, in the order of the document, or it is read as a tree
first, which is then decoded in the order of its keys. What the first way answers the second
answers too. The second accepts more only where a key is repeated: it never sees the members
that later ones replace.
-/

namespace ColumnFilter

namespace Json

/-! ## Documents without repeated keys -/

mutual

/-- No object in the document has two members with one key. -/
def Document.HasDistinctKeys : Document → Prop
  | .array items _ => ItemsHaveDistinctKeys items
  | .object members _ =>
      (members.filterMap Prod.fst).Nodup ∧ MembersHaveDistinctKeys members
  | _ => True
termination_by structural document => document

def ItemsHaveDistinctKeys : List Document → Prop
  | [] => True
  | item :: rest => item.HasDistinctKeys ∧ ItemsHaveDistinctKeys rest
termination_by structural items => items

def MembersHaveDistinctKeys : List (Option String × Document) → Prop
  | [] => True
  | (_, value) :: rest => value.HasDistinctKeys ∧ MembersHaveDistinctKeys rest
termination_by structural members => members

end

theorem MembersHaveDistinctKeys.of_mem {members : List (Option String × Document)}
    (distinct : MembersHaveDistinctKeys members) :
    ∀ member ∈ members, member.2.HasDistinctKeys := by
  induction members with
  | nil => nofun
  | cons head rest ih =>
      intro member inside
      rcases List.mem_cons.mp inside with rfl | later
      · exact distinct.1
      · exact ih distinct.2 member later

theorem filterMap_keys_eq {room : Nat} {members : List (Option String × Document)}
    {trees : List (String × Json)} (all : List.Forall₂ (ReadsMember room) members trees) :
    members.filterMap Prod.fst = trees.map Prod.fst := by
  induction all with
  | nil => rfl
  | cons first _ ih => rw [List.filterMap_cons_some first.1, List.map_cons, ih]

/-- No member is lost from an object with distinct keys. -/
theorem exists_entry_of_distinct {room : Nat} {members : List (Option String × Document)}
    {trees : List (String × Json)} (distinct : (members.filterMap Prod.fst).Nodup)
    (all : List.Forall₂ (ReadsMember room) members trees) :
    ∀ member ∈ members, ∃ entry ∈ (KeyMap.ofList trees).entries,
      ReadsMember room member entry := by
  rw [filterMap_keys_eq all] at distinct
  intro member inside
  obtain ⟨entry, isTree, reads⟩ := exists_mem_of_forall₂ all inside
  exact ⟨entry, KeyMap.mem_foldl_insert_of_nodup distinct isTree .empty, reads⟩

/-! ## Texts -/

/-- The text is read as a tree, and the tree decodes. -/
def DecodesThroughTree {α : Type} (decode : Input → Except DecodeError α) (text : String)
    (a : α) : Prop :=
  ∃ json, ofText text = .ok json ∧ decode json.toInput = .ok a

section Routes

variable {α : Type} {direct : Nat → Document → Except Error α}
variable {decode : Input → Except DecodeError α}

theorem decodesThroughTree_of_decodeText
    (refines : ∀ {room document a}, direct room document = .ok a →
      ∃ json, read room document = .ok json ∧ decode json.toInput = .ok a)
    {text : String} {a : α} (decoded : decodeText (direct depthLimit) text = .ok a) :
    DecodesThroughTree decode text a := by
  obtain ⟨ended, decoded⟩ := decodeText_eq_ok_iff.mp decoded
  obtain ⟨json, parsed, same⟩ := refines decoded
  exact ⟨json, decodeText_eq_ok_iff.mpr ⟨ended, parsed⟩, same⟩

theorem decodeText_eq_ok_iff_throughTree
    (refines : ∀ {room document a}, direct room document = .ok a →
      ∃ json, read room document = .ok json ∧ decode json.toInput = .ok a)
    (reflects : ∀ {room document json a}, document.HasDistinctKeys →
      read room document = .ok json → decode json.toInput = .ok a →
      ∃ b, direct room document = .ok b)
    {text : String} (distinct : (Document.ofText text).1.HasDistinctKeys) {a : α} :
    decodeText (direct depthLimit) text = .ok a ↔ DecodesThroughTree decode text a := by
  constructor
  · exact decodesThroughTree_of_decodeText refines
  · rintro ⟨json, read, decoded⟩
    obtain ⟨ended, parsed⟩ := decodeText_eq_ok_iff.mp read
    obtain ⟨b, answered⟩ := reflects distinct parsed decoded
    have direct := decodeText_eq_ok_iff.mpr ⟨ended, answered⟩
    obtain ⟨other, readAgain, same⟩ := decodesThroughTree_of_decodeText refines direct
    cases read.symm.trans readAgain
    cases decoded.symm.trans same
    exact direct

end Routes

end Json

/-! ## Values -/

namespace Value

section Routes

variable {direct : Except Json.Error Value} {parsed : Except Json.Error Json} {v : Value}

theorem direct_iff_of_ok {w : Value} {json : Json} (answered : direct = .ok w)
    (tree : parsed = .ok json) (converted : ofJson json = .ok w) :
    direct = .ok v ↔ ∃ json, parsed = .ok json ∧ ofJson json = .ok v := by
  subst answered tree
  constructor
  · intro same
    cases same
    exact ⟨json, rfl, converted⟩
  · rintro ⟨_, same, again⟩
    cases same
    exact congrArg Except.ok (Except.ok.inj (converted.symm.trans again))

theorem direct_iff_of_error {error other : Json.Error} (refused : direct = .error error)
    (noTree : parsed = .error other) :
    direct = .ok v ↔ ∃ json, parsed = .ok json ∧ ofJson json = .ok v := by
  subst refused noTree
  constructor
  · intro answered
    cases answered
  · rintro ⟨_, tree, _⟩
    cases tree

end Routes

mutual

/-- A document is read as a value if it is read as a tree that has this value. Neither way
accepts objects, so repeated keys make no difference. -/
theorem read_eq_ok_iff : ∀ (document : Json.Document) {room : Nat} {v : Value},
    read room document = .ok v ↔
      ∃ json, Json.read room document = .ok json ∧ ofJson json = .ok v
  | .null, _, _ | .bool _, _, _ => direct_iff_of_ok rfl rfl rfl
  | .numeral n, room, v => by
      rw [read, Json.read]
      cases n.number? with
      | none => exact direct_iff_of_error rfl rfl
      | some exact => exact direct_iff_of_ok rfl rfl (ofJson_number exact)
  | .string none, _, _ => direct_iff_of_error rfl rfl
  | .string (some _), _, _ => direct_iff_of_ok rfl rfl rfl
  | .array _ _, 0, _ | .object _ _, 0, _ | .broken, _, _ => direct_iff_of_error rfl rfl
  | .array items closed, room + 1, v => by
      simp only [read, Json.read, Json.closing_eq_ok_iff, readItems_eq_ok_iff items]
      constructor
      · rintro ⟨isClosed, values, ⟨trees, parsed, converted⟩, same⟩
        exact ⟨.array trees, ⟨isClosed, trees, parsed, rfl⟩,
          except_map_eq_ok_iff.mpr ⟨values, converted, same⟩⟩
      · rintro ⟨_, ⟨isClosed, trees, parsed, rfl⟩, converted⟩
        obtain ⟨values, converted, same⟩ := except_map_eq_ok_iff.mp converted
        exact ⟨isClosed, values, ⟨trees, parsed, converted⟩, same⟩
  | .object members closed, room + 1, v => by
      constructor
      · intro answered
        cases answered
      · rintro ⟨json, parsed, converted⟩
        obtain ⟨_, object, _, rfl⟩ := Json.closing_eq_ok_iff.mp parsed
        cases converted

theorem readItems_eq_ok_iff : ∀ (items : List Json.Document) {room : Nat} {values : List Value},
    readItems room items = .ok values ↔
      ∃ trees, Json.readItems room items = .ok trees ∧ ofJsonItems trees = .ok values
  | [], room, values => by
      constructor
      · intro answered
        cases answered
        exact ⟨[], rfl, rfl⟩
      · rintro ⟨trees, parsed, converted⟩
        cases parsed
        cases converted
        rfl
  | item :: rest, room, values => by
      simp only [readItems, Json.readItems, except_bind_eq_ok_iff, read_eq_ok_iff item,
        readItems_eq_ok_iff rest]
      constructor
      · rintro ⟨value, ⟨tree, parsed, converted⟩, others, ⟨trees, parsedRest, convertedRest⟩, same⟩
        cases same
        refine ⟨tree :: trees, ⟨tree, parsed, trees, parsedRest, rfl⟩, ?_⟩
        rw [ofJsonItems, converted, convertedRest]
        rfl
      · rintro ⟨_, ⟨tree, parsed, trees, parsedRest, same⟩, converted⟩
        cases same
        obtain ⟨value, convertedItem, answered⟩ := except_bind_eq_ok_iff.mp converted
        obtain ⟨others, convertedRest, same⟩ := except_bind_eq_ok_iff.mp answered
        cases same
        exact ⟨value, ⟨tree, parsed, convertedItem⟩, others, ⟨trees, parsedRest, convertedRest⟩, rfl⟩

end

theorem read_eq_ok_iff_ofInput {document : Json.Document} {room : Nat} {v : Value} :
    read room document = .ok v ↔
      ∃ json, Json.read room document = .ok json ∧ ofInput json.toInput = .ok v := by
  simp only [read_eq_ok_iff, ofInput_toInput_eq_ok_iff]

theorem ofText_eq_ok_iff_throughTree {text : String} {v : Value} :
    ofText text = .ok v ↔ Json.DecodesThroughTree ofInput text v := by
  unfold ofText Json.DecodesThroughTree Json.ofText
  simp only [Json.decodeText_eq_ok_iff, read_eq_ok_iff_ofInput]
  constructor
  · rintro ⟨ended, json, parsed, decoded⟩
    exact ⟨json, ⟨ended, parsed⟩, decoded⟩
  · rintro ⟨json, ⟨ended, parsed⟩, decoded⟩
    exact ⟨ended, json, parsed, decoded⟩

end Value

/-! ## Predicates -/

namespace Predicate

theorem readsTarget_iff {room : Nat} {member : Option String × Json.Document}
    {target : Operator × Value} :
    ReadsTarget room member target ↔ ∃ entry, Json.ReadsMember room member entry ∧
      IsTarget entry target := by
  constructor
  · rintro ⟨name, isKey, named, decoded⟩
    obtain ⟨json, parsed, same⟩ := Value.read_eq_ok_iff_ofInput.mp decoded
    exact ⟨(name, json), ⟨isKey, parsed⟩, named, same⟩
  · rintro ⟨entry, ⟨isKey, parsed⟩, named, decoded⟩
    exact ⟨entry.1, isKey, named, Value.read_eq_ok_iff_ofInput.mpr ⟨entry.2, parsed, decoded⟩⟩

theorem reads_of_read {room : Nat} {document : Json.Document} {p : Predicate}
    (decoded : read room document = .ok p) :
    ∃ object : KeyMap String Json,
      Json.read room document = .ok (.object object.entries) ∧ ReadsAsPredicate object p := by
  obtain ⟨inner, members, rfl, rfl, read⟩ := read_eq_ok_iff.mp decoded
  obtain ⟨targets, all, rfl⟩ := readMembers_eq_ok_iff.mp read
  obtain ⟨trees, parsed, targeted⟩ := exists_forall₂_between all readsTarget_iff.mp
  have kept := KeyMap.forall₂_foldl_insert key_lt_key_iff targeted
    (m := .empty) (n := (empty : Predicate).targets) .nil
  refine ⟨.ofList trees, Json.read_eq_object_iff.mpr ⟨inner, members, trees, rfl, rfl, parsed, rfl⟩,
    ofInput_toInput_eq_ok_iff.mpr ⟨_, (insertAll targets empty).entries, rfl, ?_,
      insertAll_entries _⟩⟩
  rw [insertAll_eq]
  exact kept

theorem read_of_ofInput {room : Nat} {document : Json.Document} {json : Json} {p : Predicate}
    (distinct : document.HasDistinctKeys) (parsed : Json.read room document = .ok json)
    (decoded : ofInput json.toInput = .ok p) : ∃ q, read room document = .ok q := by
  obtain ⟨entries, targets, rfl, all, _⟩ := ofInput_toInput_eq_ok_iff.mp decoded
  obtain ⟨inner, members, trees, rfl, rfl, read, rfl⟩ := Json.read_eq_object_iff.mp parsed
  have each : ∀ member ∈ members, ∃ target, ReadsTarget inner member target := by
    intro member inside
    obtain ⟨entry, isEntry, reads⟩ :=
      Json.exists_entry_of_distinct distinct.1 read member inside
    obtain ⟨target, _, decodes⟩ := exists_mem_of_forall₂ all isEntry
    exact ⟨target, readsTarget_iff.mpr ⟨entry, reads, decodes⟩⟩
  obtain ⟨found, reads⟩ := exists_forall₂_iff.mpr each
  exact ⟨_, read_eq_ok_iff.mpr
    ⟨inner, members, rfl, rfl, readMembers_eq_ok_iff.mpr ⟨found, reads, rfl⟩⟩⟩

theorem exists_tree_of_read {room : Nat} {document : Json.Document} {p : Predicate}
    (decoded : read room document = .ok p) :
    ∃ json, Json.read room document = .ok json ∧ ofInput json.toInput = .ok p := by
  obtain ⟨object, parsed, reads⟩ := reads_of_read decoded
  exact ⟨.object object.entries, parsed, reads⟩

theorem exists_object_of_ofText {text : String} {p : Predicate} (decoded : ofText text = .ok p) :
    ∃ object : KeyMap String Json,
      Json.ofText text = .ok (.object object.entries) ∧ ReadsAsPredicate object p := by
  obtain ⟨ended, decoded⟩ := Json.decodeText_eq_ok_iff.mp decoded
  obtain ⟨object, parsed, reads⟩ := reads_of_read decoded
  exact ⟨object, Json.decodeText_eq_ok_iff.mpr ⟨ended, parsed⟩, reads⟩

theorem read_object_eq_ok_iff {room : Nat} {members : List (Option String × Json.Document)}
    {closed : Bool} {p : Predicate} :
    read (room + 1) (.object members closed) = .ok p ↔ closed = true ∧
      ∃ targets, List.Forall₂ (ReadsTarget room) members targets ∧
        insertAll targets empty = p := by
  rw [read_eq_ok_iff]
  constructor
  · rintro ⟨inner, others, sameRoom, sameDocument, decoded⟩
    cases sameRoom
    cases sameDocument
    exact ⟨rfl, readMembers_eq_ok_iff.mp decoded⟩
  · rintro ⟨rfl, decoded⟩
    exact ⟨room, members, rfl, rfl, readMembers_eq_ok_iff.mpr decoded⟩

theorem ofText_eq_ok_iff {text : String} {p : Predicate} :
    ofText text = .ok p ↔ ∃ members targets, Json.Document.ofText text = (.object members true, []) ∧
      List.Forall₂ (ReadsTarget (Json.depthLimit - 1)) members targets ∧
      insertAll targets empty = p := by
  unfold ofText
  rw [Json.decodeText_eq_ok_iff, read_eq_ok_iff]
  constructor
  · rintro ⟨ended, inner, members, depth, isObject, decoded⟩
    cases depth
    obtain ⟨targets, all, same⟩ := readMembers_eq_ok_iff.mp decoded
    exact ⟨members, targets, Prod.ext isObject ended, all, same⟩
  · rintro ⟨members, targets, isObject, all, same⟩
    rw [isObject]
    exact ⟨rfl, _, members, rfl, rfl, readMembers_eq_ok_iff.mpr ⟨targets, all, same⟩⟩

end Predicate

/-! ## Filters -/

namespace Filter

theorem readsColumn_of_entry {room : Nat} {member : Option String × Json.Document}
    {column : String × Predicate} (reads : ReadsColumn room member column) :
    ∃ entry, Json.ReadsMember room member entry ∧ IsColumn entry column := by
  obtain ⟨object, parsed, decodes⟩ := Predicate.reads_of_read reads.2
  exact ⟨(column.1, .object object.entries), ⟨reads.1, parsed⟩, rfl, decodes⟩

theorem reads_of_read {room : Nat} {document : Json.Document} {f : Filter}
    (decoded : read room document = .ok f) :
    ∃ object : KeyMap String Json,
      Json.read room document = .ok (.object object.entries) ∧ ReadsAsFilter object f := by
  obtain ⟨inner, members, rfl, rfl, read⟩ := read_eq_ok_iff.mp decoded
  obtain ⟨columns, all, rfl⟩ := readMembers_eq_ok_iff.mp read
  obtain ⟨trees, parsed, named⟩ := exists_forall₂_between all readsColumn_of_entry
  have kept := KeyMap.forall₂_foldl_insert key_lt_key_iff named
    (m := .empty) (n := (empty : Filter).columns) .nil
  refine ⟨.ofList trees, Json.read_eq_object_iff.mpr ⟨inner, members, trees, rfl, rfl, parsed, rfl⟩,
    ofInput_toInput_eq_ok_iff.mpr ⟨_, (insertAll columns empty).entries, rfl, ?_,
      insertAll_entries _⟩⟩
  rw [insertAll_eq]
  exact kept

theorem read_of_ofInput {room : Nat} {document : Json.Document} {json : Json} {f : Filter}
    (distinct : document.HasDistinctKeys) (parsed : Json.read room document = .ok json)
    (decoded : ofInput json.toInput = .ok f) : ∃ g, read room document = .ok g := by
  obtain ⟨entries, columns, rfl, all, _⟩ := ofInput_toInput_eq_ok_iff.mp decoded
  obtain ⟨inner, members, trees, rfl, rfl, read, rfl⟩ := Json.read_eq_object_iff.mp parsed
  have each : ∀ member ∈ members, ∃ column, ReadsColumn inner member column := by
    intro member inside
    obtain ⟨entry, isEntry, reads⟩ :=
      Json.exists_entry_of_distinct distinct.1 read member inside
    obtain ⟨column, _, decodes⟩ := exists_mem_of_forall₂ all isEntry
    obtain ⟨p, answered⟩ :=
      Predicate.read_of_ofInput (distinct.2.of_mem member inside) reads.2 decodes.2
    exact ⟨(entry.1, p), reads.1, answered⟩
  obtain ⟨found, reads⟩ := exists_forall₂_iff.mpr each
  exact ⟨_, read_eq_ok_iff.mpr
    ⟨inner, members, rfl, rfl, readMembers_eq_ok_iff.mpr ⟨found, reads, rfl⟩⟩⟩

theorem exists_tree_of_read {room : Nat} {document : Json.Document} {f : Filter}
    (decoded : read room document = .ok f) :
    ∃ json, Json.read room document = .ok json ∧ ofInput json.toInput = .ok f := by
  obtain ⟨object, parsed, reads⟩ := reads_of_read decoded
  exact ⟨.object object.entries, parsed, reads⟩

theorem exists_object_of_ofText {text : String} {f : Filter} (decoded : ofText text = .ok f) :
    ∃ object : KeyMap String Json,
      Json.ofText text = .ok (.object object.entries) ∧ ReadsAsFilter object f := by
  obtain ⟨ended, decoded⟩ := Json.decodeText_eq_ok_iff.mp decoded
  obtain ⟨object, parsed, reads⟩ := reads_of_read decoded
  exact ⟨object, Json.decodeText_eq_ok_iff.mpr ⟨ended, parsed⟩, reads⟩

theorem ofText_eq_ok_iff {text : String} {f : Filter} :
    ofText text = .ok f ↔ ∃ members columns, Json.Document.ofText text = (.object members true, []) ∧
      List.Forall₂ (ReadsColumn (Json.depthLimit - 1)) members columns ∧
      insertAll columns empty = f := by
  unfold ofText
  rw [Json.decodeText_eq_ok_iff, read_eq_ok_iff]
  constructor
  · rintro ⟨ended, inner, members, depth, isObject, decoded⟩
    cases depth
    obtain ⟨columns, all, same⟩ := readMembers_eq_ok_iff.mp decoded
    exact ⟨members, columns, Prod.ext isObject ended, all, same⟩
  · rintro ⟨members, columns, isObject, all, same⟩
    rw [isObject]
    exact ⟨rfl, _, members, rfl, rfl, readMembers_eq_ok_iff.mpr ⟨columns, all, same⟩⟩

end Filter

/-! ## Shapes -/

namespace Shape

theorem value_ofText_of_object {text : String} {object : KeyMap String Json}
    (parsed : Json.ofText text = .ok (.object object.entries)) :
    (ofText text).value = (ofObject object).value := by
  rw [ofText, parsed, ← ofJson_object]

theorem value_ofText_of_filter {text : String} {f : Filter} (decoded : Filter.ofText text = .ok f)
    (announced : f.isEmpty = true ∨ ∃ column ∈ objectKeys f, Operator.ofName? column = none) :
    (ofText text).value = .ok (.byColumn f) := by
  obtain ⟨object, parsed, reads⟩ := Filter.exists_object_of_ofText decoded
  rw [value_ofText_of_object parsed, value_ofObject_of_filter reads announced]

theorem error_ofText_of_filter {text : String} {f : Filter} (decoded : Filter.ofText text = .ok f)
    (hasColumns : f.isEmpty = false)
    (unannounced : ¬ ∃ column ∈ objectKeys f, Operator.ofName? column = none) :
    ∃ error, (ofText text).value = .error error ∧ error.className = "json" := by
  obtain ⟨object, parsed, reads⟩ := Filter.exists_object_of_ofText decoded
  rw [value_ofText_of_object parsed, value_ofObject_of_named reads hasColumns unannounced]
  exact ⟨_, rfl, rfl⟩

theorem value_ofText_of_predicate {text : String} {p : Predicate}
    (decoded : Predicate.ofText text = .ok p) (asksSomething : p.isEmpty = false) :
    (ofText text).value = .ok (.byOperator p) := by
  obtain ⟨object, parsed, reads⟩ := Predicate.exists_object_of_ofText decoded
  rw [value_ofText_of_object parsed, value_ofObject_of_predicate reads asksSomething]

end Shape

/-! ## Both ways -/

namespace Streaming

/-- A text that decodes while it is read is read as a tree that decodes alike, and where no key
is repeated the converse holds. Decoding while reading wants every member of an object to
decode, repeated keys included, and inserts them in the order of the document. So a text that
decodes as a filter is found again by its keys, unless all its columns are named as operators,
and a text that decodes as a predicate with targets always is. -/
theorem decodes_as_its_tree :
    (∀ text v, Value.ofText text = .ok v → Json.DecodesThroughTree Value.ofInput text v) ∧
    (∀ text p, Predicate.ofText text = .ok p →
      Json.DecodesThroughTree Predicate.ofInput text p) ∧
    (∀ text f, Filter.ofText text = .ok f → Json.DecodesThroughTree Filter.ofInput text f) ∧
    (∀ text, (Json.Document.ofText text).1.HasDistinctKeys →
      (∀ v, Value.ofText text = .ok v ↔ Json.DecodesThroughTree Value.ofInput text v) ∧
      (∀ p, Predicate.ofText text = .ok p ↔ Json.DecodesThroughTree Predicate.ofInput text p) ∧
      (∀ f, Filter.ofText text = .ok f ↔ Json.DecodesThroughTree Filter.ofInput text f)) ∧
    (∀ text p, Predicate.ofText text = .ok p ↔
      ∃ members targets, Json.Document.ofText text = (.object members true, []) ∧
        List.Forall₂ (Predicate.ReadsTarget (Json.depthLimit - 1)) members targets ∧
        Predicate.insertAll targets .empty = p) ∧
    (∀ text f, Filter.ofText text = .ok f ↔
      ∃ members columns, Json.Document.ofText text = (.object members true, []) ∧
        List.Forall₂ (Filter.ReadsColumn (Json.depthLimit - 1)) members columns ∧
        Filter.insertAll columns .empty = f) ∧
    (∀ room members closed p, Predicate.read (room + 1) (.object members closed) = .ok p ↔
      closed = true ∧ ∃ targets, List.Forall₂ (Predicate.ReadsTarget room) members targets ∧
        Predicate.insertAll targets .empty = p) ∧
    (∀ text f, Filter.ofText text = .ok f →
      (f.isEmpty = true ∨ (∃ column ∈ objectKeys f, Operator.ofName? column = none) →
        (Shape.ofText text).value = .ok (.byColumn f)) ∧
      (f.isEmpty = false → ¬ (∃ column ∈ objectKeys f, Operator.ofName? column = none) →
        ∃ error, (Shape.ofText text).value = .error error ∧ error.className = "json")) ∧
    (∀ text p, Predicate.ofText text = .ok p → p.isEmpty = false →
      (Shape.ofText text).value = .ok (.byOperator p)) := by
  refine ⟨?_, ?_, ?_, ?_, ?_, ?_, ?_, ?_, ?_⟩
  · intro text v decoded
    exact Value.ofText_eq_ok_iff_throughTree.mp decoded
  · intro text p decoded
    exact Json.decodesThroughTree_of_decodeText Predicate.exists_tree_of_read decoded
  · intro text f decoded
    exact Json.decodesThroughTree_of_decodeText Filter.exists_tree_of_read decoded
  · intro text distinct
    refine ⟨fun v => Value.ofText_eq_ok_iff_throughTree, fun p => ?_, fun f => ?_⟩
    · exact Json.decodeText_eq_ok_iff_throughTree Predicate.exists_tree_of_read
        Predicate.read_of_ofInput distinct
    · exact Json.decodeText_eq_ok_iff_throughTree Filter.exists_tree_of_read
        Filter.read_of_ofInput distinct
  · intro text p
    exact Predicate.ofText_eq_ok_iff
  · intro text f
    exact Filter.ofText_eq_ok_iff
  · intro room members closed p
    exact Predicate.read_object_eq_ok_iff
  · intro text f decoded
    exact ⟨Shape.value_ofText_of_filter decoded, Shape.error_ofText_of_filter decoded⟩
  · intro text p decoded asksSomething
    exact Shape.value_ofText_of_predicate decoded asksSomething

theorem decodes_as_its_tree_repeated_keys :
    Json.DecodesThroughTree Filter.ofInput
        (Json.text (Json.object [("a", .object [("eq", .null)]), ("a", .object [("in", .array [])])]))
        ((Predicate.oneOf ([] : List Value)).forColumn "a") ∧
      (Shape.ofText
        (Json.text (Json.object [("a", .object [("eq", .null)]), ("a", .object [])]))).value =
          .ok (.byColumn (Predicate.empty.forColumn "a")) ∧
      (∃ error, (Shape.ofText (Json.text (Json.object [("in", .object [("eq", .null)])]))).value =
        .error error ∧ error.className = "json") ∧
      (Shape.ofText (Json.text (Json.object [("eq", .null), ("eq", .string "x")]))).value =
        .ok (.byOperator (.equals "x")) ∧
      Json.DecodesThroughTree Value.ofInput (Json.text (Json.array [.null])) (.list [.null]) ∧
      Json.DecodesThroughTree Predicate.ofInput (Json.text (Json.object [])) .empty ∧
      (Filter.ofText (Json.text (Json.object [("a", .object [("eq", .null)])])) =
          .ok ((Predicate.equals Value.null).forColumn "a") ↔
        Json.DecodesThroughTree Filter.ofInput
          (Json.text (Json.object [("a", .object [("eq", .null)])]))
          ((Predicate.equals Value.null).forColumn "a")) := by
  obtain ⟨values, predicates, filters, distinct, _, _, _, columns, operators⟩ :=
    decodes_as_its_tree
  have noRepeats : (Json.Document.ofText
      (Json.text (Json.object [("a", .object [("eq", .null)])]))).1.HasDistinctKeys := by
    rw [Json.documentOfText_text]
    exact ⟨by decide, ⟨by decide, trivial, trivial⟩, trivial⟩
  refine ⟨filters _ _ ?_, (columns _ _ ?_).1 (.inr ⟨"a", ?_, rfl⟩),
    (columns _ ((Predicate.equals Value.null).forColumn "in") ?_).2 rfl ?_,
    operators _ _ ?_ rfl, values _ _ ?_, predicates _ _ ?_, (distinct _ noRepeats).2.2 _⟩
  · exact Json.decodeText_text _ _
  · exact Json.decodeText_text _ _
  · exact List.mem_singleton.mpr rfl
  · exact Json.decodeText_text _ _
  · rintro ⟨column, member, unnamed⟩
    cases List.mem_singleton.mp member
    cases unnamed
  · exact Json.decodeText_text _ _
  · exact Json.decodeText_text _ _
  · exact Json.decodeText_text _ _

/-- The tree does not hold the first member, which is no predicate. -/
example : Json.DecodesThroughTree Filter.ofInput
    (Json.text (Json.object [("a", .null), ("a", .object [])])) (Predicate.empty.forColumn "a") ∧
    Filter.ofText (Json.text (Json.object [("a", .null), ("a", .object [])])) =
      .error (.data (.invalidType .unit .map)) :=
  ⟨⟨.object [("a", .object [])], Json.decodeText_text _ _, rfl⟩, Json.decodeText_text _ _⟩

end Streaming

end ColumnFilter
