import ColumnFilter.Filter.Fingerprint
import ColumnFilter.Proofs.KeyMap.Collected
import ColumnFilter.Proofs.Members
import ColumnFilter.Proofs.Text.Bytes

set_option autoImplicit false

/-!
# Filters do not remember how they were built

Whether columns are inserted one after the other or collected at once, only the last predicate
given for each column counts. Filters with the same last predicates are equal, and so is all
that is made of them. Their terms come in a strict order, by the bytes of their columns and
then by operator, so no term comes twice.
-/

namespace ColumnFilter

/-! ## Terms in order -/

/-- The column has the smaller bytes, or it is the same and equality comes before membership. -/
def Term.Precedes (term other : Term) : Prop :=
  term.column.toUTF8.toList < other.column.toUTF8.toList ∨
    term.column = other.column ∧ term.op = .equals ∧ other.op = .oneOf

theorem Term.Precedes.ne {term other : Term} (before : term.Precedes other) : term ≠ other := by
  intro same
  subst same
  rcases before with smaller | ⟨_, equality, membership⟩
  · exact List.lt_irrefl _ smaller
  · cases equality.symm.trans membership

theorem Operator.lt_iff {op other : Operator} : op < other ↔ op = .equals ∧ other = .oneOf := by
  cases op <;> cases other <;> decide

theorem Predicate.terms_sorted (p : Predicate) (column : String) :
    (p.terms column).Pairwise Term.Precedes := by
  rw [terms, List.pairwise_map]
  apply p.targets.entries_sorted.imp
  intro target other before
  exact .inr ⟨rfl, Operator.lt_iff.mp before⟩

namespace Filter

theorem terms_sorted (f : Filter) : f.terms.Pairwise Term.Precedes := by
  rw [terms, List.pairwise_flatMap]
  constructor
  · intro entry _
    exact entry.2.terms_sorted entry.1
  · apply f.columns.entries_sorted.imp
    intro entry other before term member next nextMember
    obtain ⟨_, _, rfl⟩ := List.mem_map.mp member
    obtain ⟨_, _, rfl⟩ := List.mem_map.mp nextMember
    exact .inl (Text.bytes_lt_iff.mpr before)

theorem terms_nodup (f : Filter) : f.terms.Nodup :=
  f.terms_sorted.imp Term.Precedes.ne

theorem mem_terms_iff {f : Filter} {term : Term} :
    term ∈ f.terms ↔
      ∃ p, f.column? term.column = some p ∧ p.target? term.op = some term.target := by
  constructor
  · intro member
    obtain ⟨entry, isColumn, member⟩ := List.mem_flatMap.mp member
    obtain ⟨target, isTarget, rfl⟩ := List.mem_map.mp member
    exact ⟨entry.2, KeyMap.get?_eq_some_iff.mpr isColumn, KeyMap.get?_eq_some_iff.mpr isTarget⟩
  · intro asked
    obtain ⟨p, isColumn, isTarget⟩ := asked
    refine List.mem_flatMap.mpr ⟨(term.column, p), KeyMap.get?_eq_some_iff.mp isColumn, ?_⟩
    exact List.mem_map.mpr ⟨(term.op, term.target), KeyMap.get?_eq_some_iff.mp isTarget, rfl⟩

theorem length_terms (f : Filter) : f.terms.length = f.termCount := by
  have counted : ∀ (entries : List (String × Predicate)) (count : Nat),
      entries.foldl (fun count entry => count + entry.2.size) count =
        count + (entries.flatMap fun entry => entry.2.terms entry.1).length := by
    intro entries
    induction entries with
    | nil => exact fun _ => rfl
    | cons entry rest ih =>
        intro count
        have here : (entry.2.terms entry.1).length = entry.2.size := List.length_map _
        rw [List.foldl_cons, ih, List.flatMap_cons, List.length_append, here, Nat.add_assoc]
  exact ((counted f.entries 0).trans (Nat.zero_add _)).symm

end Filter

/-! ## Insertion and collection -/

namespace Predicate

theorem insertAll_empty (targets : List (Operator × Value)) :
    insertAll targets empty = ofList targets :=
  insertAll_eq targets empty

theorem ofList_eq_ofList_iff {targets others : List (Operator × Value)} :
    ofList targets = ofList others ↔
      ∀ op, KeyMap.last? targets op = KeyMap.last? others op := by
  rw [← KeyMap.ofList_eq_ofList_iff]
  exact ⟨congrArg Predicate.targets, congrArg Predicate.mk⟩

end Predicate

namespace Filter

theorem insertAll_empty (columns : List (String × Predicate)) :
    insertAll columns empty = ofList columns :=
  insertAll_eq columns empty

theorem column?_ofList (columns : List (String × Predicate)) (column : String) :
    (ofList columns).column? column = KeyMap.last? columns column :=
  KeyMap.get?_ofList columns column

theorem ofList_eq_ofList_iff {columns others : List (String × Predicate)} :
    ofList columns = ofList others ↔
      ∀ column, KeyMap.last? columns column = KeyMap.last? others column := by
  rw [← KeyMap.ofList_eq_ofList_iff]
  exact ⟨congrArg Filter.columns, congrArg Filter.mk⟩

end Filter

namespace Construction

/-- Inserting columns one after the other and collecting them, which sorts them, give the same
filter, and it asks of each column the last predicate given for it; so do targets give the same
predicate. Two lists of columns with the same last predicates make equal filters, with the same
terms, the same text and the same fingerprint; two that differ in the last predicate of a column
make different filters. The terms of a collected filter strictly increase by the bytes of their
columns and then by operator, so none comes twice. They are what the last predicates ask, and
the filter counts them. -/
theorem only_last_entries_count :
    (∀ columns : List (String × Predicate),
      Filter.insertAll columns .empty = .ofList columns ∧
      (Filter.ofList columns).entries = KeyMap.collect columns ∧
      ∀ column, (Filter.ofList columns).column? column = KeyMap.last? columns column) ∧
    (∀ targets : List (Operator × Value),
      Predicate.insertAll targets .empty = .ofList targets ∧
      (Predicate.ofList targets).entries = KeyMap.collect targets ∧
      ∀ op, (Predicate.ofList targets).target? op = KeyMap.last? targets op) ∧
    (∀ columns others : List (String × Predicate),
      (∀ column, KeyMap.last? columns column = KeyMap.last? others column) →
      Filter.ofList columns = .ofList others ∧
      (Filter.ofList columns).terms = (Filter.ofList others).terms ∧
      Json.text (Filter.ofList columns) = Json.text (Filter.ofList others) ∧
      (Filter.ofList columns).fingerprint = (Filter.ofList others).fingerprint) ∧
    (∀ (columns others : List (String × Predicate)) column,
      KeyMap.last? columns column ≠ KeyMap.last? others column →
      Filter.ofList columns ≠ .ofList others) ∧
    (∀ targets others : List (Operator × Value),
      Predicate.ofList targets = .ofList others ↔
        ∀ op, KeyMap.last? targets op = KeyMap.last? others op) ∧
    (∀ columns : List (String × Predicate),
      (Filter.ofList columns).terms.Pairwise Term.Precedes ∧
      (Filter.ofList columns).terms.Nodup ∧
      (∀ term, term ∈ (Filter.ofList columns).terms ↔
        ∃ p, KeyMap.last? columns term.column = some p ∧ p.target? term.op = some term.target) ∧
      (Filter.ofList columns).terms.length = (Filter.ofList columns).termCount) := by
  refine ⟨?_, ?_, ?_, ?_, ?_, ?_⟩
  · intro columns
    exact ⟨Filter.insertAll_empty columns, KeyMap.entries_ofList columns,
      Filter.column?_ofList columns⟩
  · intro targets
    exact ⟨Predicate.insertAll_empty targets, KeyMap.entries_ofList targets,
      KeyMap.get?_ofList targets⟩
  · intro columns others same
    rw [Filter.ofList_eq_ofList_iff.mpr same]
    exact ⟨rfl, rfl, rfl, rfl⟩
  · intro columns others column differ same
    exact differ (Filter.ofList_eq_ofList_iff.mp same column)
  · intro targets others
    exact Predicate.ofList_eq_ofList_iff
  · intro columns
    refine ⟨Filter.terms_sorted _, Filter.terms_nodup _, ?_, Filter.length_terms _⟩
    intro term
    rw [Filter.mem_terms_iff, Filter.column?_ofList]

theorem only_last_entries_count_replaced_column :
    ∃ columns others : List (String × Predicate), columns ≠ others ∧
      (∀ column, KeyMap.last? columns column = KeyMap.last? others column) ∧
      Filter.ofList columns = .ofList others ∧
      (Filter.ofList columns).fingerprint = (Filter.ofList others).fingerprint ∧
      KeyMap.last? columns "\uffff" ≠ KeyMap.last? columns.reverse "\uffff" ∧
      Filter.ofList columns ≠ .ofList columns.reverse ∧
      (Filter.ofList columns).terms.Nodup := by
  obtain ⟨_, _, same, differ, _, views⟩ := only_last_entries_count
  let columns : List (String × Predicate) :=
    [("\uffff", .equals true), ("😀", .oneOf [true]), ("", .empty), ("\uffff", .equals false)]
  let others : List (String × Predicate) :=
    [("", .empty), ("\uffff", .equals false), ("😀", .oneOf [true])]
  have sameLast : ∀ column, KeyMap.last? columns column = KeyMap.last? others column := by
    intro column
    simp only [columns, others, KeyMap.last?_cons]
    by_cases first : column = "\uffff"
    · subst first
      decide
    · simp only [first, ↓reduceIte]
      by_cases second : column = "" <;> simp [second, KeyMap.last?]
  have differLast : KeyMap.last? columns "\uffff" ≠ KeyMap.last? columns.reverse "\uffff" := by
    decide
  obtain ⟨equal, _, _, hashed⟩ := same columns others sameLast
  exact ⟨columns, others, by decide, sameLast, equal, hashed, differLast,
    differ columns columns.reverse "\uffff" differLast, (views columns).2.1⟩

end Construction

end ColumnFilter
