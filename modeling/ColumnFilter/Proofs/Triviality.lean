import ColumnFilter.Proofs.Construction
import ColumnFilter.Proofs.Meaning

set_option autoImplicit false

/-!
# Programs that match every row

A program that asks anything can be refused by some row. For each operator and target there is
a value that the one does not relate to the other, and no row with this value in the column
matches. So a program matches every row exactly if it asks nothing.
-/

namespace ColumnFilter

/-- A value that the operator does not relate to the target. -/
def Operator.unrelated (target : Value) : Operator → Value
  | .equals => .list [target]
  | .oneOf => target

theorem Operator.not_relates_unrelated (op : Operator) (target : Value) :
    ¬ op.Relates (op.unrelated target) target := by
  -- Either way a list would be one of its own items.
  intro related
  cases op with
  | equals =>
      have same : Value.list [target] = target := relates_equals_iff.mp related
      exact Value.list_not_mem [target] (List.mem_singleton.mpr same)
  | oneOf =>
      cases related with
      | oneOf member => exact Value.list_not_mem _ member

theorem Predicate.terms_eq_nil_iff {p : Predicate} {column : String} :
    p.terms column = [] ↔ p.isEmpty = true := by
  rw [terms, List.map_eq_nil_iff, isEmpty_iff_entries_eq_nil]

theorem Filter.value_matchesRow_of_unrelated {ρ : Type} [Row ρ] {f : Filter}
    {policy : MissingPolicy} {row : ρ} {term : Term} (member : term ∈ f.terms)
    (holds : Row.field row term.column = .present (term.op.unrelated term.target)) :
    (f.matchesRow policy row).value = false := by
  rw [Bool.eq_false_iff]
  intro matched
  obtain ⟨value, offers, related⟩ := value_matchesRow_iff.mp matched term member
  rw [holds] at offers
  cases offers
  exact term.op.not_relates_unrelated term.target related

namespace Program

variable {f : Filter} {policy : MissingPolicy}

theorem isTrivial_iff_terms_eq_nil :
    ((compile f).withPolicy policy).isTrivial = true ↔ f.terms = [] := by
  change (f.entries.filter fun entry => !entry.2.isEmpty).isEmpty = true ↔ _
  rw [List.isEmpty_iff, List.filter_eq_nil_iff, Filter.terms, List.flatMap_eq_nil_iff]
  simp only [Predicate.terms_eq_nil_iff, Bool.not_eq_true', Bool.not_eq_false]

theorem eval_of_isTrivial (trivial : ((compile f).withPolicy policy).isTrivial = true)
    {ρ : Type} [Row ρ] (row : ρ) : ((compile f).withPolicy policy).eval row = pure true := by
  have asksNothing := isTrivial_iff_terms_eq_nil.mp trivial
  rw [eval_compile, Filter.matchesRow_eq_allM_terms, asksNothing]
  rfl

/-- A kind of rows that can hold any value in any column has a row that is refused, unless the
program asks nothing. -/
theorem isTrivial_iff_matches_all {ρ : Type} [Row ρ]
    (holding : ∀ column value, ∃ row : ρ, Row.field row column = .present value) :
    ((compile f).withPolicy policy).isTrivial = true ↔
      ∀ row : ρ, (((compile f).withPolicy policy).eval row).value = true := by
  constructor
  · intro trivial row
    rw [eval_of_isTrivial trivial]
    rfl
  · intro all
    rw [isTrivial_iff_terms_eq_nil, List.eq_nil_iff_forall_not_mem]
    intro term member
    obtain ⟨row, holds⟩ := holding term.column (term.op.unrelated term.target)
    have matched := all row
    rw [eval_compile, Filter.value_matchesRow_of_unrelated member holds] at matched
    cases matched

end Program

theorem exists_field_keyMap (column : String) (value : Value) :
    ∃ row : KeyMap String Value, Row.field row column = .present value := by
  refine ⟨KeyMap.empty.insert column value, ?_⟩
  simp only [Row.field, KeyMap.get?_insert, ↓reduceIte]
  rfl

theorem exists_field_hashMap (column : String) (value : Value) :
    ∃ row : Std.HashMap String Value, Row.field row column = .present value := by
  refine ⟨(∅ : Std.HashMap String Value).insert column value, ?_⟩
  simp only [Row.field, Std.HashMap.getElem?_insert_self]
  rfl

namespace Program

/-- A program is trivial exactly if its filter has no terms, and exactly if every map of values
matches. It then matches rows of all kinds and reports nothing. Each term of a filter has a
value for which every row with it in the column is refused, whatever else the filter asks and
under either policy. -/
theorem trivial_iff_every_row_matches (f : Filter) (policy : MissingPolicy) :
    (((compile f).withPolicy policy).isTrivial = true ↔ f.terms = []) ∧
    (f.terms = [] ↔ f.termCount = 0) ∧
    (((compile f).withPolicy policy).isTrivial = true ↔
      ∀ row : KeyMap String Value, (((compile f).withPolicy policy).eval row).value = true) ∧
    (((compile f).withPolicy policy).isTrivial = true ↔
      ∀ row : Std.HashMap String Value,
        (((compile f).withPolicy policy).eval row).value = true) ∧
    (((compile f).withPolicy policy).isTrivial = true → ∀ {ρ : Type} [Row ρ] (row : ρ),
      ((compile f).withPolicy policy).eval row = pure true) ∧
    (∀ term ∈ f.terms, ∃ value, ∀ {ρ : Type} [Row ρ] (row : ρ),
      Row.field row term.column = .present value →
      (((compile f).withPolicy policy).eval row).value = false) := by
  refine ⟨isTrivial_iff_terms_eq_nil, ?_, isTrivial_iff_matches_all exists_field_keyMap,
    isTrivial_iff_matches_all exists_field_hashMap, ?_, ?_⟩
  · rw [← f.length_terms, List.length_eq_zero_iff]
  · intro trivial ρ _ row
    exact eval_of_isTrivial trivial row
  · intro term member
    refine ⟨term.op.unrelated term.target, ?_⟩
    intro ρ _ row holds
    rw [eval_compile]
    exact Filter.value_matchesRow_of_unrelated member holds

theorem trivial_iff_every_row_matches_null_target :
    ∃ f g : Filter, f.termCount = 1 ∧
      (((compile f).withPolicy .treatAsNull).eval (.empty : KeyMap String Value)).value = true ∧
      (∃ row : KeyMap String Value,
        (((compile f).withPolicy .treatAsNull).eval row).value = false) ∧
      g.isEmpty = false ∧
      ((compile g).withPolicy .treatAsNull).eval
        (KeyMap.empty.insert "a" (.object []) : KeyMap String Json) = pure true := by
  let f : Filter := .ofList [("a", .empty), ("b", .oneOf [Value.null, .list []])]
  let g : Filter := .ofList [("a", .empty)]
  obtain ⟨_, _, _, _, _, refused⟩ := trivial_iff_every_row_matches f .treatAsNull
  obtain ⟨asksNothing, _, _, _, matched, _⟩ := trivial_iff_every_row_matches g .treatAsNull
  obtain ⟨value, refuses⟩ := refused ⟨"b", .oneOf, .list [.null, .list []]⟩ (by decide)
  refine ⟨f, g, by decide, by decide, ⟨KeyMap.empty.insert "b" value, refuses _ rfl⟩, by decide, ?_⟩
  exact matched (asksNothing.mpr (by decide)) _

end Program

end ColumnFilter
