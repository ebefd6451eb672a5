import ColumnFilter.Proofs.Meaning
import ColumnFilter.Proofs.Shape

set_option autoImplicit false

/-!
# Shapes attached to a column

An object that is read by operator and then attached to a column gives the filter that is read
from the object with this one column. Attachment changes no meaning: the filter matches the
rows whose field in the column has what the predicate asks. The predicate that asks nothing is
attached as no column at all, which matches the same rows.
-/

namespace ColumnFilter

/-! ## Decoding and attachment -/

section Decoding

variable {object : KeyMap String Json} {p : Predicate}

theorem isEmpty_eq_of_readsAsPredicate (reads : ReadsAsPredicate object p) :
    p.isEmpty = object.isEmpty := by
  have names : objectKeys p = p.targets.keys.map Operator.name := rfl
  rw [Bool.eq_iff_iff, KeyMap.isEmpty_iff_keys_eq_nil, keys_eq_of_readsAsPredicate reads, names,
    List.map_eq_nil_iff]
  exact KeyMap.isEmpty_iff_keys_eq_nil

/-- An object that is a predicate is, as the only member of another, a filter of one column. -/
theorem readsAsFilter_member (reads : ReadsAsPredicate object p) (column : String) :
    ReadsAsFilter (KeyMap.empty.insert column (.object object.entries)) (p.forColumn column) :=
  Filter.addInputs_eq_ok_iff.mpr ⟨[(column, p)], .cons ⟨rfl, reads⟩ .nil, rfl⟩

end Decoding

namespace Shape

theorem attach_byOperator_eq_forColumn_iff {p : Predicate} {column : String} :
    (byOperator p).attach column = p.forColumn column ↔ p.isEmpty = false := by
  rw [attach]
  split
  next asksNothing =>
    rw [asksNothing]
    constructor <;> intro same <;> cases same
  next asksSomething => simp only [asksSomething]

theorem isEmpty_attach (s : Shape) (column : String) : (s.attach column).isEmpty = s.isEmpty := by
  cases s with
  | byColumn f => rfl
  | byOperator p =>
      rw [attach, isEmpty]
      cases p.isEmpty <;> rfl

section Objects

variable {object : KeyMap String Json}

theorem isEmpty_of_value_ofObject {p : Predicate}
    (decoded : (ofObject object).value = .ok (.byOperator p)) : object.isEmpty = false := by
  rw [Bool.eq_false_iff]
  intro noKeys
  rw [ofObject_of_isEmpty noKeys] at decoded
  cases decoded

theorem readsAsFilter_attach_byOperator {p : Predicate}
    (decoded : (ofObject object).value = .ok (.byOperator p)) (column : String) :
    ReadsAsFilter (KeyMap.empty.insert column (.object object.entries))
      ((byOperator p).attach column) := by
  have hasKeys := isEmpty_of_value_ofObject decoded
  have reads := (value_ofObject_eq_byOperator_iff hasKeys).mp decoded
  have asksSomething := (isEmpty_eq_of_readsAsPredicate reads).trans hasKeys
  rw [attach_byOperator_eq_forColumn_iff.mpr asksSomething]
  exact readsAsFilter_member reads column

theorem readsAsFilter_attach_byColumn {f : Filter}
    (decoded : (ofObject object).value = .ok (.byColumn f)) (column : String) :
    ReadsAsFilter object ((byColumn f).attach column) := by
  cases noKeys : object.isEmpty with
  | true =>
      have empty : object = .empty := KeyMap.eq_of_entries_eq (List.isEmpty_iff.mp noKeys)
      subst empty
      cases decoded
      rfl
  | false => exact ((value_ofObject_eq_byColumn_iff noKeys).mp decoded).1

end Objects

/-! ## Meaning -/

section Meaning

variable {ρ : Type} [Row ρ] {policy : MissingPolicy} {row : ρ} {column : String}

/-- The row has what the shape asks for. A predicate is asked of the given column: whatever it
asks has to hold of the value by which the field is compared. -/
def Matches (policy : MissingPolicy) (row : ρ) (column : String) : Shape → Prop
  | byColumn f => (f.matchesRow policy row).value = true
  | byOperator p => ∀ op target, p.target? op = some target →
      ∃ value, (Row.field row column).Offers policy value ∧ (op.holds value target).value = true

theorem matchesRow_attach_byOperator (p : Predicate) :
    ((byOperator p).attach column).matchesRow policy row =
      p.matchesField policy (Row.field row column) := by
  rw [attach]
  split
  next asksNothing =>
    rw [Predicate.matchesField_of_isEmpty asksNothing]
    rfl
  · exact Filter.matchesRow_forColumn p column policy row

theorem matchesRow_attach_of_offers {p : Predicate} {value : Value}
    (offers : (Row.field row column).Offers policy value) :
    ((byOperator p).attach column).matchesRow policy row = p.holds value := by
  rw [matchesRow_attach_byOperator]
  cases asksNothing : p.isEmpty with
  | true =>
      rw [Predicate.matchesField_of_isEmpty asksNothing, Predicate.holds,
        Predicate.isEmpty_iff_entries_eq_nil.mp asksNothing]
      rfl
  | false =>
      rw [Predicate.matchesField_of_offered? asksNothing, Field.offered?_eq_some_iff.mpr offers]

theorem value_matchesRow_attach_iff {s : Shape} :
    ((s.attach column).matchesRow policy row).value = true ↔ s.Matches policy row column := by
  cases s with
  | byColumn f => rfl
  | byOperator p =>
      rw [matchesRow_attach_byOperator, Predicate.value_matchesField_iff]
      simp only [Matches, Operator.value_holds_iff]

end Meaning

/-- The filter that a decoded predicate is attached as is the filter decoded from the object
with the predicate's object under the column, and the filter of a shape by column is the one
decoded from the object itself. Attached to any column, a shape is empty if it was, and it
matches the rows that have what the shape asks for; where the field offers a value, an attached
predicate answers and reports what the predicate does of this value. A predicate that asks
something is attached as the filter of its one column. One that asks nothing is not, but
matches the same rows, with the same events. -/
theorem attachment_keeps_meaning (column : String) :
    (∀ (object : KeyMap String Json) p, (ofObject object).value = .ok (.byOperator p) →
      ReadsAsFilter (KeyMap.empty.insert column (.object object.entries))
        ((byOperator p).attach column)) ∧
    (∀ (object : KeyMap String Json) f, (ofObject object).value = .ok (.byColumn f) →
      ReadsAsFilter object ((byColumn f).attach column)) ∧
    (∀ s : Shape, (s.attach column).isEmpty = s.isEmpty) ∧
    (∀ {ρ : Type} [Row ρ] (policy : MissingPolicy) (row : ρ) (s : Shape),
      ((s.attach column).matchesRow policy row).value = true ↔ s.Matches policy row column) ∧
    (∀ {ρ : Type} [Row ρ] (policy : MissingPolicy) (row : ρ) (p : Predicate) value,
      (Row.field row column).Offers policy value →
      ((byOperator p).attach column).matchesRow policy row = p.holds value) ∧
    (∀ p : Predicate, (byOperator p).attach column = p.forColumn column ↔ p.isEmpty = false) ∧
    (∀ {ρ : Type} [Row ρ] (policy : MissingPolicy) (row : ρ) (p : Predicate),
      ((byOperator p).attach column).matchesRow policy row =
        (p.forColumn column).matchesRow policy row) := by
  refine ⟨?_, ?_, ?_, ?_, ?_, ?_, ?_⟩
  · intro object p decoded
    exact readsAsFilter_attach_byOperator decoded column
  · intro object f decoded
    exact readsAsFilter_attach_byColumn decoded column
  · intro s
    exact s.isEmpty_attach column
  · intro ρ _ policy row s
    exact value_matchesRow_attach_iff
  · intro ρ _ policy row p value offers
    exact matchesRow_attach_of_offers offers
  · intro p
    exact attach_byOperator_eq_forColumn_iff
  · intro ρ _ policy row p
    rw [matchesRow_attach_byOperator, Filter.matchesRow_forColumn]

theorem attachment_keeps_meaning_operator_column :
    ∃ (object columns : KeyMap String Json) (p : Predicate) (f : Filter)
      (row : KeyMap String Json),
      ReadsAsFilter (KeyMap.empty.insert "in" (.object object.entries))
        ((byOperator p).attach "in") ∧
      ReadsAsFilter columns ((byColumn f).attach "in") ∧
      ((byOperator p).attach "in").matchesRow .treatAsNull row = p.holds .null ∧
      ((byOperator p).attach "in").matchesRow .treatAsNull row =
        ⟨false, [.malformedTarget .oneOf .null]⟩ ∧
      (byOperator .empty).attach "in" ≠ Predicate.empty.forColumn "in" := by
  obtain ⟨predicates, filters, _, _, offered, sameAsColumn, _⟩ := attachment_keeps_meaning "in"
  let object : KeyMap String Json := .ofList [("in", .null), ("eq", .null)]
  let columns : KeyMap String Json := .ofList [("in", .object []), ("a", .object [])]
  let p : Predicate := (Predicate.single .oneOf .null).insert .equals .null
  let f : Filter := .ofList [("in", .empty), ("a", .empty)]
  have answered := offered .treatAsNull (KeyMap.empty : KeyMap String Json) p .null .missing
  refine ⟨object, columns, p, f, .empty, predicates object p rfl, filters columns f rfl, answered,
    answered.trans (by decide), ?_⟩
  intro same
  cases (sameAsColumn .empty).mp same

end Shape

end ColumnFilter
