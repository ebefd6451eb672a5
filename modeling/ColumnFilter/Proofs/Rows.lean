import ColumnFilter.Proofs.Construction
import ColumnFilter.Proofs.Meaning
import ColumnFilter.Proofs.Value.Json

set_option autoImplicit false

/-!
# Rows that answer alike

A filter looks at the fields that it asks something of, and at nothing else of a row. A JSON
object can be read field by field or converted beforehand. Conversion loses the members in
which an object stands; a row that has such a member in a field that is asked for matches
nothing, so it is never taken for a row without the field.
-/

namespace ColumnFilter

namespace KeyMap

variable {κ α β : Type} [LT κ]

/-- The images that there are, under the keys they come from. -/
def filterMap (f : α → Option β) (m : KeyMap κ α) : KeyMap κ β where
  entries := m.entries.filterMap fun entry => (f entry.2).map fun image => (entry.1, image)
  sorted := by
    rw [List.pairwise_map, List.pairwise_filterMap]
    apply m.entries_sorted.imp
    intro entry other before image isImage next isNext
    obtain ⟨_, _, rfl⟩ := Option.map_eq_some_iff.mp isImage
    obtain ⟨_, _, rfl⟩ := Option.map_eq_some_iff.mp isNext
    exact before

theorem mem_entries_filterMap_iff {f : α → Option β} {m : KeyMap κ α} {key : κ} {image : β} :
    (key, image) ∈ (m.filterMap f).entries ↔
      ∃ value, (key, value) ∈ m.entries ∧ f value = some image := by
  simp [filterMap, List.mem_filterMap, Option.map_eq_some_iff]

theorem get?_filterMap [DecidableEq κ] [LE κ] [Std.LawfulOrderLT κ] (f : α → Option β)
    (m : KeyMap κ α) (key : κ) : (m.filterMap f).get? key = (m.get? key).bind f := by
  apply Option.ext
  intro image
  rw [get?_eq_some_iff, mem_entries_filterMap_iff, Option.bind_eq_some_iff]
  simp only [get?_eq_some_iff]

end KeyMap

/-! ## JSON objects as rows -/

theorem Field.ofJson_eq_unreadable_iff {json : Json} :
    ofJson json = .unreadable ↔ ¬ json.FreeOfObjects := by
  rw [← Value.exists_ofJson_eq_ok_iff, ofJson]
  cases converted : Value.ofJson json with
  | ok value => simp
  | error error => simp

/-- The members of a JSON object that have a value, with their values. -/
def readable (object : KeyMap String Json) : KeyMap String Value :=
  object.filterMap fun json => (Value.ofJson json).toOption

theorem field_json_eq_unreadable_iff {object : KeyMap String Json} {name : String} :
    Row.field object name = .unreadable ↔
      ∃ json, object.get? name = some json ∧ ¬ json.FreeOfObjects := by
  simp only [Row.field]
  cases found : object.get? name with
  | none => simp
  | some json => simp [Field.ofJson_eq_unreadable_iff]

theorem field_readable {object : KeyMap String Json} {name : String}
    (hasValue : Row.field object name ≠ .unreadable) :
    Row.field (readable object) name = Row.field object name := by
  simp only [Row.field, readable, KeyMap.get?_filterMap] at hasValue ⊢
  cases found : object.get? name with
  | none => rfl
  | some json =>
      simp only [found, Field.ofJson] at hasValue
      simp only [Option.bind_some, Field.ofJson]
      cases converted : Value.ofJson json with
      | ok value => rfl
      | error error => simp [converted] at hasValue

namespace Filter

/-- The filter has a predicate for the column that asks something. -/
def Asks (f : Filter) (column : String) : Prop :=
  ∃ p, f.column? column = some p ∧ p.isEmpty = false

theorem asks_of_mem_terms {f : Filter} {term : Term} (member : term ∈ f.terms) :
    f.Asks term.column := by
  obtain ⟨p, isColumn, isTarget⟩ := mem_terms_iff.mp member
  refine ⟨p, isColumn, ?_⟩
  rw [Bool.eq_false_iff]
  intro asksNothing
  have noTargets := Predicate.isEmpty_iff_entries_eq_nil.mp asksNothing
  have inTargets : (term.op, term.target) ∈ p.entries := KeyMap.get?_eq_some_iff.mp isTarget
  rw [noTargets] at inTargets
  cases inTargets

section Rows

variable {ρ σ : Type} [Row ρ] [Row σ] {f : Filter}

theorem matchesRow_congr_asked {row : ρ} {other : σ}
    (same : ∀ column, f.Asks column → Row.field row column = Row.field other column)
    (policy : MissingPolicy) : f.matchesRow policy row = f.matchesRow policy other :=
  matchesRow_congr_fields (fun _ member => same _ (asks_of_mem_terms member)) policy

theorem field_ne_unreadable_of_matches {policy : MissingPolicy} {row : ρ} {column : String}
    (matched : (f.matchesRow policy row).value = true) (asks : f.Asks column) :
    Row.field row column ≠ .unreadable := by
  intro unreadable
  obtain ⟨p, isColumn, asksSomething⟩ := asks
  have fails : (f.matchesRow policy row).value = false :=
    value_matchesRow_of_unreadable (KeyMap.get?_eq_some_iff.mp isColumn) asksSomething unreadable
  cases matched.symm.trans fails

end Rows

theorem value_matchesRow_json_iff {f : Filter} {policy : MissingPolicy}
    {object : KeyMap String Json} :
    (f.matchesRow policy object).value = true ↔
      (∀ column, f.Asks column → Row.field object column ≠ .unreadable) ∧
        (f.matchesRow policy (readable object)).value = true := by
  have converted : (∀ column, f.Asks column → Row.field object column ≠ .unreadable) →
      f.matchesRow policy (readable object) = f.matchesRow policy object := by
    intro haveValues
    apply matchesRow_congr_asked
    intro column asks
    exact field_readable (haveValues column asks)
  constructor
  · intro matched
    have haveValues : ∀ column, f.Asks column → Row.field object column ≠ .unreadable :=
      fun column asks => field_ne_unreadable_of_matches matched asks
    refine ⟨haveValues, ?_⟩
    rw [converted haveValues]
    exact matched
  · intro both
    rw [← converted both.1]
    exact both.2

/-- Rows of any kinds that agree on the fields that are asked for have the same answer and the
same events, from the filter and from its program. A JSON object matches if no object stands
in a member that is asked for and the members that have a value match by themselves. A member
in which an object stands is unreadable, not missing and not null: asked for, it fails. -/
theorem only_asked_fields_count (f : Filter) (policy : MissingPolicy) :
    (∀ {ρ σ : Type} [Row ρ] [Row σ] (row : ρ) (other : σ),
      (∀ column, f.Asks column → Row.field row column = Row.field other column) →
      f.matchesRow policy row = f.matchesRow policy other ∧
        ((Program.compile f).withPolicy policy).eval row =
          ((Program.compile f).withPolicy policy).eval other) ∧
    (∀ object : KeyMap String Json, (f.matchesRow policy object).value = true ↔
      (∀ column json, f.Asks column → object.get? column = some json → json.FreeOfObjects) ∧
        (f.matchesRow policy (readable object)).value = true) ∧
    (∀ (object : KeyMap String Json) column json, object.get? column = some json →
      ¬ json.FreeOfObjects → Row.field object column = .unreadable ∧
        (f.Asks column → (f.matchesRow policy object).value = false)) := by
  refine ⟨?_, ?_, ?_⟩
  · intro ρ σ _ _ row other same
    rw [Program.eval_compile, Program.eval_compile, matchesRow_congr_asked same]
    exact ⟨rfl, rfl⟩
  · intro object
    rw [value_matchesRow_json_iff]
    apply and_congr_left
    intro _
    constructor
    · intro haveValues column json asks found
      by_contra holdsObject
      exact haveValues column asks (field_json_eq_unreadable_iff.mpr ⟨json, found, holdsObject⟩)
    · intro free column asks unreadable
      obtain ⟨json, found, holdsObject⟩ := field_json_eq_unreadable_iff.mp unreadable
      exact holdsObject (free column json asks found)
  · intro object column json found holdsObject
    have unreadable := field_json_eq_unreadable_iff.mpr ⟨json, found, holdsObject⟩
    refine ⟨unreadable, ?_⟩
    intro asks
    rw [Bool.eq_false_iff]
    intro matched
    exact field_ne_unreadable_of_matches matched asks unreadable

theorem only_asked_fields_count_nested_object :
    ∃ (f : Filter) (object : KeyMap String Json) (row : KeyMap String Value)
      (other : Std.HashMap String Value), f.matchesRow .treatAsNull row =
        f.matchesRow .treatAsNull other ∧
      (f.matchesRow .treatAsNull (readable object)).value = true ∧
      Row.field object "a" = .unreadable ∧ (f.matchesRow .treatAsNull object).value = false := by
  let f : Filter := .ofList [("a", .equals Value.null), ("b", .empty)]
  let object : KeyMap String Json := .ofList [("a", .array [.object []]), ("b", .object [])]
  let row : KeyMap String Value := .ofList [("b", .int 1)]
  let other : Std.HashMap String Value := (∅ : Std.HashMap String Value).insert "c" (.text "x")
  obtain ⟨alike, _, opaqueMember⟩ := only_asked_fields_count f .treatAsNull
  have onlyA : ∀ column, f.Asks column → column = "a" := by
    intro column asks
    obtain ⟨p, isColumn, asksSomething⟩ := asks
    rcases List.mem_cons.mp (KeyMap.get?_eq_some_iff.mp isColumn) with isA | later
    · exact congrArg Prod.fst isA
    · cases List.mem_singleton.mp later
      cases asksSomething
  have holdsObject : ¬ (Json.array [.object []]).FreeOfObjects :=
    fun free => free [] (.item List.mem_cons_self .self)
  obtain ⟨unreadable, fails⟩ := opaqueMember object "a" _ rfl holdsObject
  refine ⟨f, object, row, other, (alike row other ?_).1, by decide, unreadable, fails ?_⟩
  · intro column asks
    cases onlyA column asks
    have absent : other["a"]? = none := by simp [other]
    simp only [Row.field, absent]
    rfl
  · exact ⟨_, rfl, rfl⟩

end Filter

end ColumnFilter
