import ColumnFilter.Filter.Column
import ColumnFilter.Proofs.Trace

set_option autoImplicit false

/-!
# Membership is equality with one of many

A clause of membership matches a row if some clause of equality with one of its targets does.
So only the set of its targets counts, and more targets match more. Targets are compared whole:
a list among them is one target, and its items are none.
-/

namespace ColumnFilter

namespace Clause

variable {ρ : Type} [Row ρ] {policy : MissingPolicy} {row : ρ} {column : String}

/-- The row matches the filter of the clause. -/
def Matches (policy : MissingPolicy) (row : ρ) (clause : Clause) : Prop :=
  (clause.filter.matchesRow policy row).value = true

theorem matchesRow_ofTerm (term : Term) (policy : MissingPolicy) (row : ρ) :
    (ofTerm term).filter.matchesRow policy row =
      term.holds policy (Row.field row term.column) := by
  have onlyTerm : (ofTerm term).filter.terms = [term] := rfl
  rw [Filter.matchesRow_eq_allM_terms, onlyTerm, allM_singleton]

theorem matches_ofTerm_iff {term : Term} :
    (ofTerm term).Matches policy row ↔ term.Fulfilled policy (Row.field row term.column) := by
  rw [Matches, matchesRow_ofTerm]
  exact Term.value_holds_iff

section Targets

variable {α : Type} [ToValue α]

theorem matches_whereEquals_iff {target : α} :
    (whereEquals column target).Matches policy row ↔
      (Row.field row column).Offers policy (toValue target) := by
  rw [whereEquals, matches_ofTerm_iff]
  constructor
  · intro fulfilled
    obtain ⟨value, offers, related⟩ := fulfilled
    rw [Operator.relates_equals_iff.mp related] at offers
    exact offers
  · intro offers
    exact ⟨_, offers, .equals⟩

theorem matches_whereOneOf_iff {targets : List α} :
    (whereOneOf column targets).Matches policy row ↔
      ∃ target ∈ targets, (whereEquals column target).Matches policy row := by
  simp only [matches_whereEquals_iff]
  rw [whereOneOf, matches_ofTerm_iff]
  constructor
  · intro fulfilled
    obtain ⟨value, offers, related⟩ := fulfilled
    obtain ⟨target, member, same⟩ := List.mem_map.mp (Operator.relates_oneOf_list_iff.mp related)
    subst same
    exact ⟨target, member, offers⟩
  · intro found
    obtain ⟨target, member, offers⟩ := found
    exact ⟨toValue target, offers, .oneOf (List.mem_map_of_mem member)⟩

theorem events_whereEquals (target : α) :
    ((whereEquals column target).filter.matchesRow policy row).events = [] := by
  rw [whereEquals, matchesRow_ofTerm]
  apply Term.events_holds_of_not_malformed
  intro malformed
  cases malformed.asksMembership

theorem events_whereOneOf (targets : List α) :
    ((whereOneOf column targets).filter.matchesRow policy row).events = [] := by
  rw [whereOneOf, matchesRow_ofTerm]
  apply Term.events_holds_of_not_malformed
  intro malformed
  cases malformed.notList

/-- More targets match more. -/
theorem matches_whereOneOf_of_subset {targets others : List α}
    (subset : ∀ target ∈ targets, target ∈ others)
    (matched : (whereOneOf column targets).Matches policy row) :
    (whereOneOf column others).Matches policy row := by
  rw [matches_whereOneOf_iff] at matched ⊢
  obtain ⟨target, member, equal⟩ := matched
  exact ⟨target, subset target member, equal⟩

/-- Neither the order of the targets nor their number counts. -/
theorem matchesRow_whereOneOf_congr {targets others : List α}
    (same : ∀ target, target ∈ targets ↔ target ∈ others) :
    (whereOneOf column targets).filter.matchesRow policy row =
      (whereOneOf column others).filter.matchesRow policy row := by
  apply Traced.eq_of_value_iff _ (events_whereOneOf targets) (events_whereOneOf others)
  constructor
  · exact matches_whereOneOf_of_subset fun target => (same target).mp
  · exact matches_whereOneOf_of_subset fun target => (same target).mpr

theorem matchesRow_whereOneOf_nil :
    (whereOneOf column ([] : List α)).filter.matchesRow policy row = pure false := by
  rw [Traced.eq_pure_iff, Bool.eq_false_iff]
  refine ⟨?_, events_whereOneOf []⟩
  intro matched
  obtain ⟨target, member, _⟩ := matches_whereOneOf_iff.mp matched
  cases member

theorem matchesRow_whereOneOf_singleton (target : α) :
    (whereOneOf column [target]).filter.matchesRow policy row =
      (whereEquals column target).filter.matchesRow policy row := by
  apply Traced.eq_of_value_iff _ (events_whereOneOf [target]) (events_whereEquals target)
  apply matches_whereOneOf_iff.trans
  simp only [List.mem_singleton, exists_eq_left]
  rfl

end Targets

/-- Where a field offers a value, membership asks for this value as a whole. -/
theorem matches_whereOneOf_iff_mem {items : List Value} {value : Value}
    (offers : (Row.field row column).Offers policy value) :
    (whereOneOf column items).Matches policy row ↔ value ∈ items := by
  rw [matches_whereOneOf_iff]
  simp only [matches_whereEquals_iff]
  constructor
  · intro found
    obtain ⟨item, member, offersItem⟩ := found
    rw [offers.unique offersItem]
    exact member
  · intro member
    exact ⟨value, member, offers⟩

/-- A list that is a target does not stand for its items. -/
theorem not_matches_whereOneOf_list {items : List Value} {value : Value}
    (offers : (Row.field row column).Offers policy value) (member : value ∈ items) :
    ¬ (whereOneOf column [Value.list items]).Matches policy row := by
  intro matched
  have whole := List.mem_singleton.mp ((matches_whereOneOf_iff_mem offers).mp matched)
  rw [whole] at member
  exact Value.list_not_mem items member

/-- The list of the targets is not one of them. -/
theorem not_matches_whereOneOf_items {items : List Value} {value : Value}
    (offers : (Row.field row column).Offers policy value) (whole : value = .list items) :
    ¬ (whereOneOf column items).Matches policy row := by
  intro matched
  have member := (matches_whereOneOf_iff_mem offers).mp matched
  rw [whole] at member
  exact Value.list_not_mem items member

/-- Of a predicate with both operators, equality settles which value is looked for. -/
theorem matches_forColumn_iff {p : Predicate} {target : Value} {items : List Value}
    (equality : p.target? .equals = some target)
    (membership : p.target? .oneOf = some (.list items)) :
    Matches policy row ⟨p.forColumn column⟩ ↔
      (whereEquals column target).Matches policy row ∧ target ∈ items := by
  rw [Matches, Filter.matchesRow_forColumn, Predicate.value_matchesField_iff,
    matches_whereEquals_iff]
  constructor
  · intro all
    obtain ⟨value, offers, related⟩ := all .equals target equality
    obtain ⟨other, offersOther, relatedOther⟩ := all .oneOf (.list items) membership
    cases Operator.relates_equals_iff.mp related
    cases offers.unique offersOther
    exact ⟨offers, Operator.relates_oneOf_list_iff.mp relatedOther⟩
  · intro both op asked isTarget
    refine ⟨target, both.1, ?_⟩
    cases op with
    | equals =>
        cases equality.symm.trans isTarget
        exact .equals
    | oneOf =>
        cases membership.symm.trans isTarget
        exact .oneOf both.2

/-- A clause of membership matches a row of any kind under either policy exactly if for one of
its targets the clause of equality does. Targets with the same members give the same answer
and report nothing, more targets match what fewer do, no targets match nothing, and one target
is asked for as by equality. A predicate with both operators matches if its clause of equality
does and the list of its targets has the target of equality. Of a list among the targets
nothing but the whole list is equal to a field: not one of its items, and a field that holds
the list of targets is none of them. -/
theorem membership_is_some_equality {ρ : Type} [Row ρ] (policy : MissingPolicy) (row : ρ)
    (column : String) :
    (∀ {α : Type} [ToValue α] (targets : List α),
      (whereOneOf column targets).Matches policy row ↔
        ∃ target ∈ targets, (whereEquals column target).Matches policy row) ∧
    (∀ {α : Type} [ToValue α] (targets others : List α),
      (∀ target, target ∈ targets ↔ target ∈ others) →
      (whereOneOf column targets).filter.matchesRow policy row =
        (whereOneOf column others).filter.matchesRow policy row) ∧
    (∀ {α : Type} [ToValue α] (targets others : List α),
      (∀ target ∈ targets, target ∈ others) →
      (whereOneOf column targets).Matches policy row →
      (whereOneOf column others).Matches policy row) ∧
    (∀ {α : Type} [ToValue α],
      (whereOneOf column ([] : List α)).filter.matchesRow policy row = pure false) ∧
    (∀ {α : Type} [ToValue α] (target : α),
      (whereOneOf column [target]).filter.matchesRow policy row =
        (whereEquals column target).filter.matchesRow policy row) ∧
    (∀ (p : Predicate) target items, p.target? .equals = some target →
      p.target? .oneOf = some (.list items) →
      (Matches policy row ⟨p.forColumn column⟩ ↔
        (whereEquals column target).Matches policy row ∧ target ∈ items)) ∧
    (∀ (items : List Value) value, (Row.field row column).Offers policy value →
      ((whereOneOf column items).Matches policy row ↔ value ∈ items) ∧
      (value ∈ items → ¬ (whereOneOf column [Value.list items]).Matches policy row) ∧
      (value = .list items → ¬ (whereOneOf column items).Matches policy row)) := by
  refine ⟨?_, ?_, ?_, ?_, ?_, ?_, ?_⟩
  · intro α _ targets
    exact matches_whereOneOf_iff
  · intro α _ targets others same
    exact matchesRow_whereOneOf_congr same
  · intro α _ targets others subset matched
    exact matches_whereOneOf_of_subset subset matched
  · intro α _
    exact matchesRow_whereOneOf_nil
  · intro α _ target
    exact matchesRow_whereOneOf_singleton target
  · intro p target items equality membership
    exact matches_forColumn_iff equality membership
  · intro items value offers
    exact ⟨matches_whereOneOf_iff_mem offers, not_matches_whereOneOf_list offers,
      not_matches_whereOneOf_items offers⟩

theorem membership_is_some_equality_nested_list :
    ∃ (row : KeyMap String Value) (inner : List Value) (p : Predicate),
      (whereOneOf "a" [Value.null, .list inner]).Matches .noMatch row ∧
      (whereOneOf "a" [Value.list inner, .null]).Matches .noMatch row ∧
      (whereOneOf "a" [Value.list inner, .null, .bool true]).Matches .noMatch row ∧
      Matches .noMatch row ⟨p.forColumn "a"⟩ ∧
      ¬ (whereOneOf "a" [Value.list [.list inner]]).Matches .noMatch row ∧
      ¬ (whereOneOf "a" inner).Matches .noMatch row ∧
      (whereOneOf "b" inner).Matches .treatAsNull row := by
  let inner : List Value := [.null, .list []]
  let p : Predicate := (Predicate.equals (Value.list inner)).insert .oneOf (.list [.list inner])
  let row : KeyMap String Value := KeyMap.empty.insert "a" (.list inner)
  obtain ⟨someEquality, same, more, _, _, both, whole⟩ :=
    membership_is_some_equality .noMatch row "a"
  obtain ⟨_, _, _, _, _, _, wholeOfMissing⟩ := membership_is_some_equality .treatAsNull row "b"
  have equal : (whereEquals "a" (Value.list inner)).Matches .noMatch row :=
    matches_whereEquals_iff.mpr .present
  have matched := (someEquality [Value.null, .list inner]).mpr ⟨.list inner, by decide, equal⟩
  have swapped : (whereOneOf "a" [Value.list inner, .null]).Matches .noMatch row := by
    have answer := same [Value.null, .list inner] [.list inner, .null] fun _ =>
      (List.Perm.swap (Value.list inner) .null []).mem_iff
    rw [Matches, ← answer]
    exact matched
  refine ⟨row, inner, p, matched, swapped, more _ _ ?_ swapped, ?_, ?_, ?_, ?_⟩
  · exact List.subset_append_left [Value.list inner, .null] [.bool true]
  · exact (both p (.list inner) [.list inner] rfl rfl).mpr ⟨equal, by decide⟩
  · exact (whole [.list inner] (.list inner) .present).2.1 (by decide)
  · exact (whole inner (.list inner) .present).2.2 rfl
  · exact (wholeOfMissing inner .null .missing).1.mpr (by decide)

end Clause

end ColumnFilter
