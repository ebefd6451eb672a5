import ColumnFilter.Proofs.Grammar
import ColumnFilter.Proofs.Meaning
import ColumnFilter.Proofs.Value.Canonical

set_option autoImplicit false

/-!
# Filters and rows sent as JSON

A filter that is encoded comes back with its targets under the canonical integer rule, and a
row of values that is converted field by field shows its values under the same rule. So what
follows the rule is matched at the other end as it was before it was sent.
-/

namespace ColumnFilter

/-! ## Filters -/

namespace Predicate

/-- A predicate is decoded from its tree, under the canonical integer rule. -/
theorem ofInput_tree (p : Predicate) : ofInput (Json.tree p).toInput = .ok p.canonical := by
  refine ofInput_toInput_eq_ok_iff.mpr ⟨_, p.canonical.entries, tree_eq p, ?_,
    insertAll_entries p.canonical⟩
  change List.Forall₂ IsTarget (p.entries.map encodedTarget)
    (p.entries.map fun entry => (entry.1, entry.2.canonical))
  rw [List.forall₂_map_left_iff, List.forall₂_map_right_iff, List.forall₂_same]
  intro target _
  exact ⟨Operator.ofName?_name target.1, Value.ofInput_tree target.2⟩

end Predicate

namespace Filter

/-- A filter is decoded from its tree, under the canonical integer rule. -/
theorem ofInput_tree (f : Filter) : ofInput (Json.tree f).toInput = .ok f.canonical := by
  refine ofInput_toInput_eq_ok_iff.mpr ⟨_, f.canonical.entries, rfl, ?_,
    insertAll_entries f.canonical⟩
  change List.Forall₂ IsColumn (f.entries.map fun column => (column.1, Json.tree column.2))
    (f.entries.map fun column => (column.1, column.2.canonical))
  rw [List.forall₂_map_left_iff, List.forall₂_map_right_iff, List.forall₂_same]
  intro column _
  exact ⟨rfl, Predicate.ofInput_tree column.2⟩

end Filter

/-! ## Rows -/

theorem Field.ofJson_toJson {v : Value} (settled : v.IsCanonical) :
    ofJson v.toJson = .present v := by
  rw [ofJson, Value.ofJson_toJson, (Value.canonical_eq_self_iff v).mpr settled]

/-- A field shows the same value in JSON, and no field is added or lost. -/
theorem field_map_toJson {m : KeyMap String Value}
    (settled : ∀ entry ∈ m.entries, entry.2.IsCanonical) (name : String) :
    Row.field (m.map Value.toJson) name = Row.field m name := by
  have converted := KeyMap.get?_map Value.toJson m name
  cases found : m.get? name with
  | none =>
      rw [found, Option.map_none] at converted
      simp only [Row.field, converted, found, Field.ofOption]
  | some v =>
      rw [found, Option.map_some] at converted
      simp only [Row.field, converted, found, Field.ofOption]
      exact Field.ofJson_toJson (settled _ (KeyMap.mem_entries_of_get?_eq_some found))

/-! ## Both ends -/

namespace Transport

/-- A filter decoded from its tree, and its program, answer on a row converted into JSON as
the filter does on the row, and report the same events, under either policy, as long as row
and filter follow the canonical integer rule. -/
theorem matches_at_both_ends (m : KeyMap String Value) (f : Filter) (policy : MissingPolicy)
    (rowSettled : ∀ entry ∈ m.entries, entry.2.IsCanonical)
    (filterSettled : ∀ term ∈ f.terms, term.target.IsCanonical) :
    ∃ g, Filter.ofInput (Json.tree f).toInput = .ok g ∧
      (g.matchesRow policy (m.map Value.toJson)).value = (f.matchesRow policy m).value ∧
      (g.matchesRow policy (m.map Value.toJson)).events = (f.matchesRow policy m).events ∧
      (((Program.compile g).withPolicy policy).eval (m.map Value.toJson)).value =
        (f.matchesRow policy m).value ∧
      (((Program.compile g).withPolicy policy).eval (m.map Value.toJson)).events =
        (f.matchesRow policy m).events := by
  have same : f.matchesRow policy (m.map Value.toJson) = f.matchesRow policy m :=
    Filter.matchesRow_congr_fields (fun term _ => field_map_toJson rowSettled term.column) policy
  refine ⟨f, ?_, ?_⟩
  · rw [Filter.ofInput_tree, Filter.canonical_eq_self filterSettled]
  · rw [Program.eval_compile, same]
    exact ⟨rfl, rfl, rfl, rfl⟩

theorem matches_at_both_ends_malformed_target :
    ∃ (m : KeyMap String Value) (f g : Filter), Filter.ofInput (Json.tree f).toInput = .ok g ∧
      (g.matchesRow .treatAsNull (m.map Value.toJson)).value = false ∧
      (g.matchesRow .treatAsNull (m.map Value.toJson)).events = [.malformedTarget .oneOf .text] := by
  let sizes : Value := .list [.uint 0x8000000000000000, .int (-1)]
  let m : KeyMap String Value := .ofList [("size", sizes)]
  let f : Filter := .ofList [("color", .oneOf [Value.null, .float .zero]), ("size", .equals sizes),
    ("total", .single .oneOf (.text "x"))]
  obtain ⟨g, decoded, value, events, _⟩ :=
    matches_at_both_ends m f .treatAsNull (by decide) (by decide)
  exact ⟨m, f, g, decoded, value.trans (by decide), events.trans (by decide)⟩

end Transport

end ColumnFilter
