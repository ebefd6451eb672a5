import ColumnFilter.Proofs.Construction
import ColumnFilter.Proofs.Meaning

set_option autoImplicit false

/-!
# Filters put together

A filter matches if all its columns do, and a column is asked the same wherever it stands. So a
filter with the columns of two others matches what both match, a replaced predicate counts no
more, and a filter that asks less matches at least as much.
-/

namespace ColumnFilter

namespace KeyMap

variable {κ α : Type} [LT κ] [DecidableLT κ] [LE κ] [Std.IsLinearOrder κ] [Std.LawfulOrderLT κ]
variable [DecidableEq κ]

theorem mem_entries_insert_iff {m : KeyMap κ α} {key : κ} {value : α} {entry : κ × α} :
    entry ∈ (m.insert key value).entries ↔
      entry = (key, value) ∨ entry.1 ≠ key ∧ entry ∈ m.entries := by
  rw [← get?_eq_some_iff, get?_insert]
  by_cases same : entry.1 = key
  · simp [same, Prod.ext_iff, eq_comm]
  · simp [same, Prod.ext_iff, get?_eq_some_iff]

/-- Of entries with distinct keys every one stays, in whatever order they are collected. -/
theorem get?_ofList_eq_some_iff {entries : List (κ × α)}
    (distinct : (entries.map Prod.fst).Nodup) {key : κ} {value : α} :
    (ofList entries).get? key = some value ↔ (key, value) ∈ entries := by
  constructor
  · intro found
    rw [get?_ofList] at found
    exact mem_of_last?_eq_some found
  · intro member
    exact get?_eq_some_iff.mpr (mem_foldl_insert_of_nodup distinct member empty)

/-- What is inserted hides what was there. -/
theorem insert_eq_insert {m n : KeyMap κ α} {key : κ}
    (same : ∀ other, other ≠ key → m.get? other = n.get? other) (value : α) :
    m.insert key value = n.insert key value := by
  apply eq_of_get?_eq
  intro other
  rw [get?_insert, get?_insert]
  split
  · rfl
  next apart => exact same other apart

end KeyMap

namespace Filter

variable {ρ : Type} [Row ρ] {f g h : Filter} {policy : MissingPolicy} {row : ρ}

/-- The row has in the column what the predicate asks of it. -/
def ColumnMatches (policy : MissingPolicy) (row : ρ) (entry : String × Predicate) : Prop :=
  (entry.2.matchesField policy (Row.field row entry.1)).value = true

theorem value_matchesRow_iff_columns :
    (f.matchesRow policy row).value = true ↔
      ∀ entry ∈ f.entries, ColumnMatches policy row entry :=
  Traced.value_allM f.entries

/-- The filter has the columns of both others, and no more. -/
def Joins (h f g : Filter) : Prop :=
  ∀ column p, h.column? column = some p ↔ f.column? column = some p ∨ g.column? column = some p

/-- The filters have no column in common. -/
def Apart (f g : Filter) : Prop :=
  ∀ column, f.column? column = none ∨ g.column? column = none

theorem value_matchesRow_of_joins (joins : h.Joins f g) :
    (h.matchesRow policy row).value = true ↔
      (f.matchesRow policy row).value = true ∧ (g.matchesRow policy row).value = true := by
  have columns : ∀ entry, entry ∈ h.entries ↔ entry ∈ f.entries ∨ entry ∈ g.entries := by
    intro entry
    have joined := joins entry.1 entry.2
    simp only [column?, KeyMap.get?_eq_some_iff] at joined
    exact joined
  simp only [value_matchesRow_iff_columns, columns]
  constructor
  · intro all
    exact ⟨fun entry member => all entry (.inl member), fun entry member => all entry (.inr member)⟩
  · intro both entry member
    rcases member with inFirst | inSecond
    · exact both.1 entry inFirst
    · exact both.2 entry inSecond

theorem keys_nodup_of_apart (apart : f.Apart g) :
    ((f.entries ++ g.entries).map Prod.fst).Nodup := by
  rw [List.map_append, List.nodup_append]
  refine ⟨f.columns.keys_nodup, g.columns.keys_nodup, ?_⟩
  intro column inFirst other inSecond same
  obtain ⟨entry, isFirst, rfl⟩ := List.mem_map.mp inFirst
  obtain ⟨next, isSecond, rfl⟩ := List.mem_map.mp inSecond
  have first : f.column? entry.1 = some entry.2 := KeyMap.get?_eq_some_iff.mpr isFirst
  have second : g.column? entry.1 = some next.2 := by
    rw [same]
    exact KeyMap.get?_eq_some_iff.mpr isSecond
  rcases apart entry.1 with absent | absent
  · cases first.symm.trans absent
  · cases second.symm.trans absent

/-- Columns of filters that have none in common make the same filter in whatever order they are
inserted. -/
theorem joins_insertAll (apart : f.Apart g) {columns : List (String × Predicate)}
    (permuted : columns.Perm (f.entries ++ g.entries)) : (insertAll columns empty).Joins f g := by
  have distinct : (columns.map Prod.fst).Nodup :=
    (permuted.map Prod.fst).nodup_iff.mpr (keys_nodup_of_apart apart)
  intro column p
  rw [insertAll_empty]
  simp only [column?, ofList, KeyMap.get?_ofList_eq_some_iff distinct, permuted.mem_iff,
    List.mem_append, KeyMap.get?_eq_some_iff, entries]

theorem value_matchesRow_forColumn {p : Predicate} {column : String} :
    ((p.forColumn column).matchesRow policy row).value = true ↔
      ColumnMatches policy row (column, p) := by
  rw [matchesRow_forColumn, ColumnMatches]

theorem value_matchesRow_insert {column : String} {p : Predicate} :
    ((f.insert column p).matchesRow policy row).value = true ↔
      (∀ entry ∈ f.entries, entry.1 ≠ column → ColumnMatches policy row entry) ∧
        ((p.forColumn column).matchesRow policy row).value = true := by
  rw [value_matchesRow_iff_columns, value_matchesRow_forColumn]
  simp only [entries, insert, KeyMap.mem_entries_insert_iff]
  constructor
  · intro all
    exact ⟨fun entry member other => all entry (.inr ⟨other, member⟩), all (column, p) (.inl rfl)⟩
  · intro both entry member
    rcases member with rfl | ⟨other, member⟩
    · exact both.2
    · exact both.1 entry member other

theorem value_matchesRow_of_terms_subset (fewer : ∀ term ∈ f.terms, term ∈ g.terms)
    (matched : (g.matchesRow policy row).value = true) :
    (f.matchesRow policy row).value = true := by
  rw [value_matchesRow_iff] at matched ⊢
  intro term member
  exact matched term (fewer term member)

/-- A filter with the columns of two others matches a row if both of them do; it is made of the
columns of filters that have none in common in whatever order these are inserted. With a
predicate inserted for a column, a filter matches if its other columns do and the predicate
does by itself; what was asked of the column before makes no difference. A filter whose terms
are all terms of another matches what the other matches. -/
theorem matches_as_its_parts {ρ : Type} [Row ρ] (policy : MissingPolicy) (row : ρ) :
    (∀ f g h : Filter, h.Joins f g → ((h.matchesRow policy row).value = true ↔
      (f.matchesRow policy row).value = true ∧ (g.matchesRow policy row).value = true)) ∧
    (∀ f g : Filter, f.Apart g → ∀ columns : List (String × Predicate),
      columns.Perm (f.entries ++ g.entries) → (insertAll columns empty).Joins f g ∧
        (((insertAll columns empty).matchesRow policy row).value = true ↔
          (f.matchesRow policy row).value = true ∧ (g.matchesRow policy row).value = true)) ∧
    (∀ (f : Filter) column (p : Predicate),
      ((f.insert column p).matchesRow policy row).value = true ↔
        (∀ entry ∈ f.entries, entry.1 ≠ column → ColumnMatches policy row entry) ∧
          ((p.forColumn column).matchesRow policy row).value = true) ∧
    (∀ (f g : Filter) column (p : Predicate),
      (∀ other, other ≠ column → f.column? other = g.column? other) →
      f.insert column p = g.insert column p) ∧
    (∀ f g : Filter, (∀ term ∈ f.terms, term ∈ g.terms) →
      (g.matchesRow policy row).value = true → (f.matchesRow policy row).value = true) := by
  refine ⟨?_, ?_, ?_, ?_, ?_⟩
  · intro f g h joins
    exact value_matchesRow_of_joins joins
  · intro f g apart columns permuted
    have joins := joins_insertAll apart permuted
    exact ⟨joins, value_matchesRow_of_joins joins⟩
  · intro f column p
    exact value_matchesRow_insert
  · intro f g column p same
    exact congrArg Filter.mk (KeyMap.insert_eq_insert same p)
  · intro f g fewer
    exact value_matchesRow_of_terms_subset fewer

theorem matches_as_its_parts_replaced_column :
    ∃ (f g : Filter) (row : KeyMap String Json), f.Apart g ∧
      ((insertAll (g.entries ++ f.entries) empty).matchesRow .treatAsNull row).value = true ∧
      ((f.insert "b" (.single .oneOf .null)).matchesRow .treatAsNull row).value = false ∧
      (f.insert "b" (.equals true)).insert "b" .empty = f.insert "b" .empty ∧
      (g.matchesRow .treatAsNull row).value = true := by
  let f : Filter := .ofList [("b", .equals Value.null), ("m", .empty)]
  let g : Filter := .ofList [("a", .oneOf [Value.int 1, .null])]
  let row : KeyMap String Json :=
    .ofList [("a", .number (.ofInt64 1)), ("m", .array [.object []])]
  obtain ⟨joined, inserted, replaced, hidden, fewer⟩ := matches_as_its_parts .treatAsNull row
  have apart : f.Apart g := by
    intro column
    by_cases isA : column = "a"
    · exact .inl (isA ▸ rfl)
    · exact .inr ((KeyMap.lookup_cons_eq_ite ("a", _) [] column).trans (if_neg isA))
  obtain ⟨joins, both⟩ := inserted f g apart (g.entries ++ f.entries) List.perm_append_comm
  refine ⟨f, g, row, apart, both.mpr ⟨by decide, by decide⟩, ?_, ?_, ?_⟩
  · rw [Bool.eq_false_iff]
    intro matched
    exact absurd ((replaced f "b" _).mp matched).2 (by decide)
  · apply hidden
    intro other apart
    exact (KeyMap.get?_insert f.columns "b" other _).trans (if_neg apart)
  · exact fewer g (insertAll (g.entries ++ f.entries) empty) (by decide)
      ((joined f g _ joins).mpr ⟨by decide, by decide⟩)

end Filter

end ColumnFilter
