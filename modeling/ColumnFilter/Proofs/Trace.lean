import ColumnFilter.Proofs.Meaning

set_option autoImplicit false

/-!
# What matching a row reports

A loop that stops at the first check that fails shows of it no more than that check. Terms
that a row fulfils report nothing, so a row reports one event at most: it does if the first
term that it does not fulfil asks for membership in something other than a list.
-/

namespace ColumnFilter

namespace Traced

theorem eq_pure_iff {α : Type} {x : Traced α} {a : α} :
    x = pure a ↔ x.value = a ∧ x.events = [] := by
  obtain ⟨value, events⟩ := x
  exact ⟨fun same => by cases same; exact ⟨rfl, rfl⟩, fun same => by simp_all [pure]⟩

theorem eq_of_value_iff {x y : Traced Bool} (value : x.value = true ↔ y.value = true)
    (silent : x.events = []) (otherSilent : y.events = []) : x = y := by
  obtain ⟨answer, events⟩ := x
  obtain ⟨other, others⟩ := y
  cases silent
  cases otherSilent
  cases Bool.eq_iff_iff.mpr value
  rfl

variable {α : Type} {check : α → Traced Bool}

theorem allM_of_forall_pass {entries : List α}
    (pass : ∀ entry ∈ entries, check entry = pure true) : entries.allM check = pure true := by
  induction entries with
  | nil => rfl
  | cons entry rest ih =>
      rw [List.allM_cons, pass entry List.mem_cons_self, pure_bind]
      exact ih fun other member => pass other (List.mem_cons_of_mem _ member)

/-- Where a loop has failed, what stands behind makes no difference. -/
theorem allM_append_of_fails {first : List α} (fails : (first.allM check).value = false)
    (second : List α) : (first ++ second).allM check = first.allM check := by
  rw [allM_append]
  generalize first.allM check = checked at fails
  obtain ⟨value, events⟩ := checked
  cases fails
  exact congrArg (Traced.mk false) (List.append_nil events)

theorem allM_of_first_failure {before after : List α} {entry : α}
    (pass : ∀ earlier ∈ before, check earlier = pure true)
    (fails : (check entry).value = false) :
    (before ++ entry :: after).allM check = check entry := by
  have upToHere : (before ++ [entry]).allM check = check entry := by
    rw [allM_append, allM_of_forall_pass pass, pure_bind, if_pos rfl, allM_singleton]
  rw [← List.singleton_append, ← List.append_assoc, allM_append_of_fails, upToHere]
  rw [upToHere, fails]

end Traced

namespace Term

/-- The field offers a value that the operator relates to the target. -/
def Fulfilled (policy : MissingPolicy) (field : Field) (term : Term) : Prop :=
  ∃ value, field.Offers policy value ∧ term.op.Relates value term.target

/-- Membership in something other than a list is asked of a field that offers a value. -/
structure Malformed (policy : MissingPolicy) (field : Field) (term : Term) : Prop where
  asksMembership : term.op = .oneOf
  notList : term.target.isList = false
  offers : ∃ value, field.Offers policy value

variable {policy : MissingPolicy} {field : Field} {term : Term}

theorem Malformed.not_fulfilled (malformed : term.Malformed policy field) :
    ¬ term.Fulfilled policy field := by
  obtain ⟨column, op, target⟩ := term
  obtain ⟨asksMembership, notList, _⟩ := malformed
  intro fulfilled
  obtain ⟨value, _, related⟩ := fulfilled
  cases related with
  | equals => cases asksMembership
  | oneOf member => cases notList

theorem events_holds_of_malformed (malformed : term.Malformed policy field) :
    (term.holds policy field).events = [.malformedTarget .oneOf term.target.kind] := by
  obtain ⟨asksMembership, notList, value, offers⟩ := malformed
  rw [holds, Field.offered?_eq_some_iff.mpr offers, asksMembership]
  cases target : term.target with
  | list items => simp [target, Value.isList] at notList
  | _ => rfl

theorem events_holds_of_not_malformed (wellFormed : ¬ term.Malformed policy field) :
    (term.holds policy field).events = [] := by
  unfold holds
  cases offered : field.offered? policy with
  | none => rfl
  | some value =>
      have offers := Field.offered?_eq_some_iff.mp offered
      obtain ⟨column, op, target⟩ := term
      cases op with
      | equals => rfl
      | oneOf =>
          cases target with
          | list items => rfl
          | _ => exact absurd ⟨rfl, rfl, value, offers⟩ wellFormed

theorem holds_of_fulfilled (fulfilled : term.Fulfilled policy field) :
    term.holds policy field = pure true := by
  rw [Traced.eq_pure_iff]
  constructor
  · exact value_holds_iff.mpr fulfilled
  · exact events_holds_of_not_malformed fun malformed => malformed.not_fulfilled fulfilled

theorem value_holds_of_not_fulfilled (fails : ¬ term.Fulfilled policy field) :
    (term.holds policy field).value = false :=
  Bool.eq_false_iff.mpr fun passed => fails (value_holds_iff.mp passed)

end Term

namespace Filter

variable {ρ : Type} [Row ρ] {f : Filter} {policy : MissingPolicy} {row : ρ}

/-- In the order of columns and operators, the term is the first that the row does not
fulfil. -/
def FailsFirst (f : Filter) (policy : MissingPolicy) (row : ρ) (term : Term) : Prop :=
  ∃ before after, f.terms = before ++ term :: after ∧
    (∀ earlier ∈ before, earlier.Fulfilled policy (Row.field row earlier.column)) ∧
    ¬ term.Fulfilled policy (Row.field row term.column)

theorem exists_failsFirst_or_forall_fulfilled (f : Filter) (policy : MissingPolicy) (row : ρ) :
    (∃ term, f.FailsFirst policy row term) ∨
      ∀ term ∈ f.terms, term.Fulfilled policy (Row.field row term.column) := by
  let fails := fun term : Term => !(term.holds policy (Row.field row term.column)).value
  cases found : f.terms.find? fails with
  | none =>
      right
      intro term member
      exact Term.value_holds_iff.mp (by simpa [fails] using List.find?_eq_none.mp found term member)
  | some term =>
      left
      obtain ⟨failing, before, after, split, pass⟩ := List.find?_eq_some_iff_append.mp found
      refine ⟨term, before, after, split, ?_, ?_⟩
      · intro earlier member
        exact Term.value_holds_iff.mp (by simpa [fails] using pass earlier member)
      · intro fulfilled
        simp [fails, Term.value_holds_iff.mpr fulfilled] at failing

theorem matchesRow_of_failsFirst {term : Term} (first : f.FailsFirst policy row term) :
    f.matchesRow policy row = term.holds policy (Row.field row term.column) := by
  obtain ⟨before, after, split, fulfilled, fails⟩ := first
  rw [matchesRow_eq_allM_terms, split]
  apply Traced.allM_of_first_failure
  · intro earlier member
    exact Term.holds_of_fulfilled (fulfilled earlier member)
  · exact Term.value_holds_of_not_fulfilled fails

theorem matchesRow_of_forall_fulfilled
    (fulfilled : ∀ term ∈ f.terms, term.Fulfilled policy (Row.field row term.column)) :
    f.matchesRow policy row = pure true := by
  rw [matchesRow_eq_allM_terms]
  apply Traced.allM_of_forall_pass
  intro term member
  exact Term.holds_of_fulfilled (fulfilled term member)

theorem value_matchesRow_of_failsFirst {term : Term} (first : f.FailsFirst policy row term) :
    (f.matchesRow policy row).value = false := by
  rw [matchesRow_of_failsFirst first]
  obtain ⟨_, _, _, _, fails⟩ := first
  exact Term.value_holds_of_not_fulfilled fails

theorem events_matchesRow_of_malformed {term : Term} (first : f.FailsFirst policy row term)
    (malformed : term.Malformed policy (Row.field row term.column)) :
    (f.matchesRow policy row).events = [.malformedTarget .oneOf term.target.kind] := by
  rw [matchesRow_of_failsFirst first]
  exact Term.events_holds_of_malformed malformed

/-- A row is silent, or it reports the first term that it does not fulfil. -/
theorem silent_or_reports_first (f : Filter) (policy : MissingPolicy) (row : ρ) :
    (f.matchesRow policy row).events = [] ∨
      ∃ term, f.FailsFirst policy row term ∧
        term.Malformed policy (Row.field row term.column) := by
  rcases exists_failsFirst_or_forall_fulfilled f policy row with ⟨term, first⟩ | fulfilled
  · by_cases malformed : term.Malformed policy (Row.field row term.column)
    · exact .inr ⟨term, first, malformed⟩
    · left
      rw [matchesRow_of_failsFirst first]
      exact Term.events_holds_of_not_malformed malformed
  · left
    rw [matchesRow_of_forall_fulfilled fulfilled]
    rfl

theorem events_matchesRow_of_forall_not_malformed
    (wellFormed : ∀ term, f.FailsFirst policy row term →
      ¬ term.Malformed policy (Row.field row term.column)) :
    (f.matchesRow policy row).events = [] := by
  rcases silent_or_reports_first f policy row with silent | ⟨term, first, malformed⟩
  · exact silent
  · exact absurd malformed (wellFormed term first)

theorem events_matchesRow_of_value (matched : (f.matchesRow policy row).value = true) :
    (f.matchesRow policy row).events = [] := by
  apply events_matchesRow_of_forall_not_malformed
  intro term first
  rw [value_matchesRow_of_failsFirst first] at matched
  cases matched

theorem length_events_matchesRow_le (f : Filter) (policy : MissingPolicy) (row : ρ) :
    (f.matchesRow policy row).events.length ≤ 1 := by
  rcases silent_or_reports_first f policy row with silent | ⟨term, first, malformed⟩
  · simp [silent]
  · simp [events_matchesRow_of_malformed first malformed]

theorem eq_malformedTarget_of_mem_events {event : Event}
    (reported : event ∈ (f.matchesRow policy row).events) :
    ∃ found, event = .malformedTarget .oneOf found := by
  rcases silent_or_reports_first f policy row with silent | ⟨term, first, malformed⟩
  · simp [silent] at reported
  · rw [events_matchesRow_of_malformed first malformed] at reported
    exact ⟨term.target.kind, List.mem_singleton.mp reported⟩

/-- Filters that ask the same up to a term that fails answer and report alike. -/
theorem matchesRow_congr_of_fails {g : Filter} {shared behind others : List Term}
    (split : f.terms = shared ++ behind) (splitOther : g.terms = shared ++ others)
    (fails : ∃ term ∈ shared, ¬ term.Fulfilled policy (Row.field row term.column)) :
    g.matchesRow policy row = f.matchesRow policy row := by
  have stops : (shared.allM fun term : Term =>
      term.holds policy (Row.field row term.column)).value = false := by
    obtain ⟨term, member, fails⟩ := fails
    rw [Bool.eq_false_iff]
    intro passed
    exact fails (Term.value_holds_iff.mp (Traced.value_allM shared |>.mp passed term member))
  rw [matchesRow_eq_allM_terms, matchesRow_eq_allM_terms, split, splitOther,
    Traced.allM_append_of_fails stops, Traced.allM_append_of_fails stops]

/-- A row reports at most one event, and only if it does not match: the kind of target of the
first term that it does not fulfil, if that term is malformed. A term that fails otherwise, as
equality does and any operator on a field that offers no value, is silent. Whatever fails, the
terms behind are not looked at. A filter that asks for membership in lists alone reports
nothing. -/
theorem reports_first_failure (f : Filter) (policy : MissingPolicy) (row : ρ) :
    (∀ term, f.FailsFirst policy row term → term.Malformed policy (Row.field row term.column) →
      (f.matchesRow policy row).events = [.malformedTarget .oneOf term.target.kind]) ∧
    ((∀ term, f.FailsFirst policy row term →
        ¬ term.Malformed policy (Row.field row term.column)) →
      (f.matchesRow policy row).events = []) ∧
    (f.matchesRow policy row).events.length ≤ 1 ∧
    ((f.matchesRow policy row).events ≠ [] → (f.matchesRow policy row).value = false) ∧
    (∀ term, f.FailsFirst policy row term →
      (term.op = .equals ∨ ∀ value, ¬ (Row.field row term.column).Offers policy value) →
      (f.matchesRow policy row).events = []) ∧
    (∀ (g : Filter) shared behind others,
      f.terms = shared ++ behind → g.terms = shared ++ others →
      (∃ term ∈ shared, ¬ term.Fulfilled policy (Row.field row term.column)) →
      g.matchesRow policy row = f.matchesRow policy row) ∧
    ((∀ term ∈ f.terms, term.op = .oneOf → term.target.isList = true) →
      (f.matchesRow policy row).events = []) := by
  refine ⟨?_, events_matchesRow_of_forall_not_malformed, length_events_matchesRow_le f policy row,
    ?_, ?_, ?_, ?_⟩
  · intro term first malformed
    exact events_matchesRow_of_malformed first malformed
  · intro reported
    rw [Bool.eq_false_iff]
    intro matched
    exact reported (events_matchesRow_of_value matched)
  · intro term first fails
    rw [matchesRow_of_failsFirst first]
    apply Term.events_holds_of_not_malformed
    intro malformed
    obtain ⟨asksMembership, _, value, offers⟩ := malformed
    rcases fails with equality | nothing
    · cases equality.symm.trans asksMembership
    · exact nothing value offers
  · intro g shared behind others split splitOther fails
    exact matchesRow_congr_of_fails split splitOther fails
  · intro lists
    apply events_matchesRow_of_forall_not_malformed
    intro term first malformed
    obtain ⟨before, after, split, _⟩ := first
    have member : term ∈ f.terms := by simp [split]
    cases (lists term member malformed.asksMembership).symm.trans malformed.notList

theorem reports_first_failure_missing_field :
    ∃ (f g : Filter) (row : KeyMap String Value),
      (f.matchesRow .treatAsNull row).events = [.malformedTarget .oneOf .text] ∧
      (f.matchesRow .treatAsNull row).value = false ∧
      g.matchesRow .treatAsNull row = f.matchesRow .treatAsNull row ∧
      (f.matchesRow .noMatch row).events = [] ∧
      ((Predicate.oneOf [Value.null]).forColumn "total").matchesRow .treatAsNull row =
        pure true := by
  let size : Term := ⟨"size", .equals, .int 1⟩
  let title : Term := ⟨"title", .oneOf, .text "x"⟩
  let total : Term := ⟨"total", .oneOf, .null⟩
  let f : Filter := .ofList [("size", .equals (Value.int 1)),
    ("title", .single .oneOf (.text "x")), ("total", .single .oneOf .null)]
  let g : Filter := .ofList [("size", .equals (Value.int 1)),
    ("title", .single .oneOf (.text "x"))]
  let row : KeyMap String Value := KeyMap.empty.insert "size" (.int 1)
  have fails : ∀ policy, ¬ title.Fulfilled policy .missing := by
    intro policy fulfilled
    obtain ⟨value, _, related⟩ := fulfilled
    cases related
  have first : ∀ policy, f.FailsFirst policy row title := by
    intro policy
    refine ⟨[size], [total], by decide, ?_, fails policy⟩
    intro earlier member
    cases List.mem_singleton.mp member
    exact ⟨.int 1, .present, .equals⟩
  obtain ⟨reported, _, _, unmatched, _, hidden, _⟩ := reports_first_failure f .treatAsNull row
  have events := reported title (first .treatAsNull) ⟨rfl, rfl, .null, .missing⟩
  obtain ⟨_, _, _, _, silent, _⟩ := reports_first_failure f .noMatch row
  obtain ⟨_, _, _, _, _, _, lists⟩ := reports_first_failure
    ((Predicate.oneOf [Value.null]).forColumn "total") .treatAsNull row
  refine ⟨f, g, row, events, unmatched (by simp [events]), ?_, ?_, ?_⟩
  · exact hidden g [size, title] [total] [] (by decide) (by decide)
      ⟨title, by simp, fails .treatAsNull⟩
  · exact silent title (first .noMatch) (.inr nofun)
  · exact Traced.eq_pure_iff.mpr ⟨by decide, lists (by decide)⟩

end Filter

end ColumnFilter
