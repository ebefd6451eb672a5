import ColumnFilter.Program

set_option autoImplicit false

/-!
# Programs and filters evaluate alike

A program looks at fewer columns than the filter it was compiled from. The columns left out,
and no others, ask nothing, so they answer true on every field and report no event. Traced
answers carry their events, and an equation between them speaks of both.
-/

namespace ColumnFilter

/-- Leaving out entries whose check is certain to hold changes neither the answer nor the
effects of checking all of them. -/
theorem allM_filter_of_pure_true {α : Type} {m : Type → Type} [Monad m] [LawfulMonad m]
    {keep : α → Bool} {check : α → m Bool} {entries : List α}
    (certain : ∀ entry ∈ entries, keep entry = false → check entry = pure true) :
    (entries.filter keep).allM check = entries.allM check := by
  induction entries with
  | nil => rfl
  | cons entry rest ih =>
      have later : (rest.filter keep).allM check = rest.allM check :=
        ih fun other member => certain other (List.mem_cons_of_mem _ member)
      cases kept : keep entry with
      | true =>
          rw [List.filter_cons_of_pos kept, List.allM_cons, List.allM_cons, later]
      | false =>
          have dropped : ¬ keep entry = true := by simp [kept]
          rw [List.filter_cons_of_neg dropped, List.allM_cons,
            certain entry List.mem_cons_self kept, pure_bind, later]
          rfl

/-- Leaving out entries that contribute nothing changes no contribution. -/
theorem flatMap_filter_of_eq_nil {α β : Type} {keep : α → Bool} {parts : α → List β}
    {entries : List α} (nothing : ∀ entry ∈ entries, keep entry = false → parts entry = []) :
    (entries.filter keep).flatMap parts = entries.flatMap parts := by
  induction entries with
  | nil => rfl
  | cons entry rest ih =>
      have later : (rest.filter keep).flatMap parts = rest.flatMap parts :=
        ih fun other member => nothing other (List.mem_cons_of_mem _ member)
      cases kept : keep entry with
      | true =>
          rw [List.filter_cons_of_pos kept, List.flatMap_cons, List.flatMap_cons, later]
      | false =>
          have dropped : ¬ keep entry = true := by simp [kept]
          rw [List.filter_cons_of_neg dropped, List.flatMap_cons,
            nothing entry List.mem_cons_self kept, later, List.nil_append]

namespace Predicate

theorem isEmpty_iff_entries_eq_nil {p : Predicate} : p.isEmpty = true ↔ p.entries = [] :=
  List.isEmpty_iff

theorem matchesField_of_isEmpty {p : Predicate} (asksNothing : p.isEmpty = true)
    (policy : MissingPolicy) (field : Field) : p.matchesField policy field = pure true := by
  simp only [matchesField, asksNothing, ↓reduceIte]

theorem terms_of_isEmpty {p : Predicate} (asksNothing : p.isEmpty = true) (column : String) :
    p.terms column = [] := by
  rw [terms, isEmpty_iff_entries_eq_nil.mp asksNothing, List.map_nil]

end Predicate

namespace Program

variable {ρ : Type} [Row ρ]

theorem eval_compile (f : Filter) (policy : MissingPolicy) (row : ρ) :
    ((compile f).withPolicy policy).eval row = f.matchesRow policy row := by
  apply allM_filter_of_pure_true
  intro entry _ dropped
  have asksNothing : entry.2.isEmpty = true := by simpa using dropped
  exact Predicate.matchesField_of_isEmpty asksNothing policy (Row.field row entry.1)

theorem terms_compile (f : Filter) : (compile f).terms = f.terms := by
  apply flatMap_filter_of_eq_nil
  intro entry _ dropped
  have asksNothing : entry.2.isEmpty = true := by simpa using dropped
  exact Predicate.terms_of_isEmpty asksNothing entry.1

theorem columns_compile_sublist (f : Filter) : (compile f).columns.Sublist f.entries :=
  List.filter_sublist

theorem mem_columns_compile_iff {f : Filter} {entry : String × Predicate} :
    entry ∈ (compile f).columns ↔ entry ∈ f.entries ∧ entry.2.isEmpty = false := by
  rw [compile, List.mem_filter, Bool.not_eq_true']

/-- A compiled program keeps, in order, just those columns of the filter that ask something. It
answers as the filter does on every row and under either policy, reports the same events in the
same order, and asks the same terms in the same order. -/
theorem compile_agrees (f : Filter) (policy : MissingPolicy) :
    (∀ {ρ : Type} [Row ρ] (row : ρ),
        (((compile f).withPolicy policy).eval row).value = (f.matchesRow policy row).value ∧
        (((compile f).withPolicy policy).eval row).events = (f.matchesRow policy row).events) ∧
      ((compile f).withPolicy policy).terms = f.terms ∧
      ((compile f).withPolicy policy).columns.Sublist f.entries ∧
      (∀ entry, entry ∈ ((compile f).withPolicy policy).columns ↔
        entry ∈ f.entries ∧ entry.2.isEmpty = false) := by
  refine ⟨?_, terms_compile f, columns_compile_sublist f, ?_⟩
  · intro ρ _ row
    rw [eval_compile]
    exact ⟨rfl, rfl⟩
  · intro entry
    exact mem_columns_compile_iff

end Program

end ColumnFilter
