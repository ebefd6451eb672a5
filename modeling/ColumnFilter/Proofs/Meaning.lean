import ColumnFilter.Proofs.Evaluation
import ColumnFilter.Proofs.KeyMap

set_option autoImplicit false

/-!
# What filters mean

A filter means the conjunction of its terms: of each, the field it names has to offer a value
that the operator relates to the target. Nested loops over columns and operators come to one
loop over the terms, so terms in the same order make the same answers and the same events.
-/

namespace ColumnFilter

/-! ## Relations -/

/-- What an operator asks of two values. Membership asks for a list. -/
inductive Operator.Relates (actual : Value) : Operator → Value → Prop where
  | equals : Relates actual .equals actual
  | oneOf {items : List Value} : actual ∈ items → Relates actual .oneOf (.list items)

theorem Operator.relates_equals_iff {actual target : Value} :
    Relates actual .equals target ↔ actual = target := by
  constructor
  · intro related
    cases related
    rfl
  · intro same
    subst same
    exact .equals

theorem Operator.relates_oneOf_list_iff {actual : Value} {items : List Value} :
    Relates actual .oneOf (.list items) ↔ actual ∈ items := by
  constructor
  · intro related
    cases related with
    | oneOf member => exact member
  · intro member
    exact .oneOf member

/-- No list is one of its own items. -/
theorem Value.list_not_mem (items : List Value) : list items ∉ items := by
  intro member
  have smaller := List.sizeOf_lt_of_mem member
  simp only [list.sizeOf_spec] at smaller
  omega

/-- The value by which a field is compared under a policy. -/
inductive Field.Offers : MissingPolicy → Field → Value → Prop where
  | present {policy : MissingPolicy} {value : Value} : Offers policy (.present value) value
  | missing : Offers .treatAsNull .missing .null

theorem Operator.value_holds_iff {actual target : Value} {op : Operator} :
    (op.holds actual target).value = true ↔ op.Relates actual target := by
  cases op with
  | equals => exact beq_iff_eq.trans relates_equals_iff.symm
  | oneOf =>
      cases target with
      | list items =>
          rw [relates_oneOf_list_iff]
          constructor
          · intro found
            obtain ⟨item, member, same⟩ := List.any_eq_true.mp found
            rw [eq_of_beq same]
            exact member
          · intro member
            exact List.any_eq_true.mpr ⟨actual, member, beq_self_eq_true actual⟩
      | _ => constructor <;> intro related <;> cases related

def Field.offered? (policy : MissingPolicy) : Field → Option Value
  | .present value => some value
  | .unreadable => none
  | .missing =>
      match policy with
      | .noMatch => none
      | .treatAsNull => some .null

theorem Field.offered?_eq_some_iff {policy : MissingPolicy} {field : Field} {value : Value} :
    field.offered? policy = some value ↔ field.Offers policy value := by
  constructor
  · intro offered
    cases field with
    | present other =>
        cases offered
        exact .present
    | unreadable => cases offered
    | missing =>
        cases policy with
        | noMatch => cases offered
        | treatAsNull =>
            cases offered
            exact .missing
  · intro offers
    cases offers <;> rfl

theorem Field.Offers.unique {policy : MissingPolicy} {field : Field} {value other : Value}
    (offers : field.Offers policy value) (offersOther : field.Offers policy other) :
    value = other := by
  have same := (offered?_eq_some_iff.mpr offers).symm.trans (offered?_eq_some_iff.mpr offersOther)
  exact Option.some.inj same

/-! ## Terms one after the other -/

section Loops

variable {α β : Type}

theorem allM_append {m : Type → Type} [Monad m] [LawfulMonad m] {check : α → m Bool}
    (first second : List α) :
    (first ++ second).allM check =
      (do if ← first.allM check then second.allM check else pure false) := by
  induction first with
  | nil =>
      exact (pure_bind true fun passed => if passed then second.allM check else pure false).symm
  | cons entry rest ih =>
      rw [List.cons_append, List.allM_cons, List.allM_cons, ih, bind_assoc]
      apply bind_congr
      intro passed
      cases passed with
      | true => rfl
      | false => simp only [Bool.false_eq_true, ↓reduceIte, pure_bind]

/-- A loop within a loop is one loop over all parts. -/
theorem allM_flatMap {m : Type → Type} [Monad m] [LawfulMonad m] {parts : α → List β}
    {check : β → m Bool} (entries : List α) :
    (entries.flatMap parts).allM check = entries.allM fun entry => (parts entry).allM check := by
  induction entries with
  | nil => rfl
  | cons entry rest ih => rw [List.flatMap_cons, allM_append, List.allM_cons, ih]

theorem allM_singleton {m : Type → Type} [Monad m] [LawfulMonad m] {check : α → m Bool}
    (entry : α) : [entry].allM check = check entry := by
  have kept : ∀ passed : Bool,
      (if passed then [].allM check else pure false) = (pure passed : m Bool) := by
    intro passed
    cases passed <;> rfl
  rw [List.allM_cons, bind_congr kept, bind_pure]

theorem allM_map {m : Type → Type} [Monad m] {f : α → β} {check : β → m Bool}
    (entries : List α) : (entries.map f).allM check = entries.allM fun entry => check (f entry) := by
  induction entries with
  | nil => rfl
  | cons entry rest ih => rw [List.map_cons, List.allM_cons, List.allM_cons, ih]

theorem allM_congr {m : Type → Type} [Monad m] {check other : α → m Bool} {entries : List α}
    (same : ∀ entry ∈ entries, check entry = other entry) :
    entries.allM check = entries.allM other := by
  induction entries with
  | nil => rfl
  | cons entry rest ih =>
      have later := ih fun next member => same next (List.mem_cons_of_mem _ member)
      rw [List.allM_cons, List.allM_cons, same entry List.mem_cons_self, later]

theorem allM_pure_false {m : Type → Type} [Monad m] [LawfulMonad m] {entries : List α}
    (some : entries ≠ []) : entries.allM (fun _ => (pure false : m Bool)) = pure false := by
  cases entries with
  | nil => exact absurd rfl some
  | cons entry rest => rw [List.allM_cons, pure_bind]; rfl

theorem Traced.value_allM {check : α → Traced Bool} (entries : List α) :
    (entries.allM check).value = true ↔ ∀ entry ∈ entries, (check entry).value = true := by
  induction entries with
  | nil => exact ⟨fun _ => nofun, fun _ => rfl⟩
  | cons entry rest ih =>
      rw [List.forall_mem_cons, ← ih, List.allM_cons]
      change Traced.value (if (check entry).value = true then rest.allM check else pure false) =
        true ↔ _
      cases (check entry).value with
      | true => exact ⟨fun passed => ⟨rfl, passed⟩, fun both => both.2⟩
      | false => exact ⟨nofun, fun both => both.1⟩

end Loops

/-- The check of one term on the field that it names. -/
def Term.holds (policy : MissingPolicy) (field : Field) (term : Term) : Traced Bool :=
  match field.offered? policy with
  | some value => term.op.holds value term.target
  | none => pure false

theorem Term.value_holds_iff {policy : MissingPolicy} {field : Field} {term : Term} :
    (term.holds policy field).value = true ↔
      ∃ value, field.Offers policy value ∧ term.op.Relates value term.target := by
  simp only [← Field.offered?_eq_some_iff, ← Operator.value_holds_iff, holds]
  cases field.offered? policy with
  | none =>
      constructor
      · intro passed
        cases passed
      · intro offers
        obtain ⟨value, offered, _⟩ := offers
        cases offered
  | some value =>
      constructor
      · intro passed
        exact ⟨value, rfl, passed⟩
      · intro offers
        obtain ⟨other, offered, passed⟩ := offers
        cases offered
        exact passed

theorem Predicate.matchesField_of_offered? {p : Predicate} (asksSomething : p.isEmpty = false)
    (policy : MissingPolicy) (field : Field) :
    p.matchesField policy field =
      match field.offered? policy with
      | some value => p.holds value
      | none => pure false := by
  simp only [matchesField, asksSomething, Bool.false_eq_true, ↓reduceIte]
  cases field with
  | missing => cases policy <;> rfl
  | _ => rfl

theorem Predicate.matchesField_eq_allM_terms (p : Predicate) (column : String)
    (policy : MissingPolicy) (field : Field) :
    p.matchesField policy field = (p.terms column).allM (Term.holds policy field) := by
  rw [terms, allM_map]
  cases asksNothing : p.isEmpty with
  | true =>
      rw [matchesField_of_isEmpty asksNothing, isEmpty_iff_entries_eq_nil.mp asksNothing]
      rfl
  | false =>
      rw [matchesField_of_offered? asksNothing]
      unfold Term.holds
      cases field.offered? policy with
      | some value => rfl
      | none =>
          have hasTargets : p.entries ≠ [] := fun none =>
            Bool.eq_false_iff.mp asksNothing (isEmpty_iff_entries_eq_nil.mpr none)
          exact (allM_pure_false hasTargets).symm

theorem Predicate.value_matchesField_iff {p : Predicate} {policy : MissingPolicy} {field : Field} :
    (p.matchesField policy field).value = true ↔
      ∀ op target, p.target? op = some target →
        ∃ value, field.Offers policy value ∧ op.Relates value target := by
  -- A term is checked on the field alone, so any name will do for the column.
  rw [p.matchesField_eq_allM_terms "", Traced.value_allM, terms, List.forall_mem_map, Prod.forall]
  simp only [Term.value_holds_iff, target?, KeyMap.get?_eq_some_iff, entries]

namespace Filter

variable {ρ : Type} [Row ρ]

theorem matchesRow_forColumn (p : Predicate) (column : String) (policy : MissingPolicy) (row : ρ) :
    (p.forColumn column).matchesRow policy row = p.matchesField policy (Row.field row column) :=
  allM_singleton (column, p)

theorem matchesRow_eq_allM_terms (f : Filter) (policy : MissingPolicy) (row : ρ) :
    f.matchesRow policy row =
      f.terms.allM fun term => term.holds policy (Row.field row term.column) := by
  rw [matchesRow, terms, allM_flatMap]
  congr 1
  funext entry
  rw [Predicate.matchesField_eq_allM_terms _ entry.1, Predicate.terms, allM_map, allM_map]

theorem matchesRow_congr_terms {f g : Filter} (same : f.terms = g.terms) (policy : MissingPolicy)
    (row : ρ) : f.matchesRow policy row = g.matchesRow policy row := by
  rw [matchesRow_eq_allM_terms, matchesRow_eq_allM_terms, same]

/-- Rows of any kinds that agree on the fields that are asked for match alike. -/
theorem matchesRow_congr_fields {σ : Type} [Row σ] {f : Filter} {row : ρ} {other : σ}
    (same : ∀ term ∈ f.terms, Row.field row term.column = Row.field other term.column)
    (policy : MissingPolicy) : f.matchesRow policy row = f.matchesRow policy other := by
  rw [matchesRow_eq_allM_terms, matchesRow_eq_allM_terms]
  apply allM_congr
  intro term member
  rw [same term member]

theorem value_matchesRow_iff {f : Filter} {policy : MissingPolicy} {row : ρ} :
    (f.matchesRow policy row).value = true ↔ ∀ term ∈ f.terms, ∃ value,
      (Row.field row term.column).Offers policy value ∧ term.op.Relates value term.target := by
  rw [matchesRow_eq_allM_terms, Traced.value_allM]
  simp only [Term.value_holds_iff]

theorem value_matchesRow_of_unreadable {f : Filter} {policy : MissingPolicy} {row : ρ}
    {entry : String × Predicate} (member : entry ∈ f.entries)
    (asksSomething : entry.2.isEmpty = false) (unreadable : Row.field row entry.1 = .unreadable) :
    (f.matchesRow policy row).value = false := by
  obtain ⟨target, isTarget⟩ : ∃ target, target ∈ entry.2.entries := by
    apply List.exists_mem_of_ne_nil
    intro none
    exact Bool.eq_false_iff.mp asksSomething (Predicate.isEmpty_iff_entries_eq_nil.mpr none)
  have isTerm : Term.mk entry.1 target.1 target.2 ∈ f.terms :=
    List.mem_flatMap.mpr ⟨entry, member, List.mem_map_of_mem isTarget⟩
  rw [Bool.eq_false_iff]
  intro passed
  obtain ⟨value, offers, _⟩ := value_matchesRow_iff.mp passed _ isTerm
  rw [unreadable] at offers
  cases offers

theorem terms_insert_of_isEmpty {f : Filter} {column : String} (free : f.column? column = none)
    {p : Predicate} (asksNothing : p.isEmpty = true) : (f.insert column p).terms = f.terms := by
  apply KeyMap.flatMap_insertEntry_of_eq_nil
  · intro entry member same
    have other := List.lookup_eq_none_iff.mp free entry member
    rw [same, bne_self_eq_false] at other
    cases other
  · exact Predicate.terms_of_isEmpty asksNothing column

/-- A filter matches a row if each of its terms names a field that offers a value which the
operator relates to the target; values are related by equality alone. An unreadable field
fails every predicate that asks something. A predicate that asks nothing makes no difference,
and the filter without columns matches every row. The terms carry all of this. -/
theorem matches_iff_terms_hold (f : Filter) (policy : MissingPolicy) :
    (∀ {ρ : Type} [Row ρ] (row : ρ), (f.matchesRow policy row).value = true ↔
      ∀ term ∈ f.terms, ∃ value, (Row.field row term.column).Offers policy value ∧
        term.op.Relates value term.target) ∧
    (∀ {ρ : Type} [Row ρ] (row : ρ), ∀ entry ∈ f.entries, entry.2.isEmpty = false →
      Row.field row entry.1 = .unreadable → (f.matchesRow policy row).value = false) ∧
    (∀ {ρ : Type} [Row ρ] (row : ρ) column (p : Predicate), f.column? column = none →
      p.isEmpty = true → (f.insert column p).matchesRow policy row = f.matchesRow policy row) ∧
    (∀ {ρ : Type} [Row ρ] (row : ρ), empty.matchesRow policy row = pure true) ∧
    (∀ g : Filter, f.terms = g.terms → ∀ {ρ : Type} [Row ρ] (row : ρ),
      f.matchesRow policy row = g.matchesRow policy row) := by
  refine ⟨?_, ?_, ?_, ?_, ?_⟩
  · intro ρ _ row
    exact value_matchesRow_iff
  · intro ρ _ row entry member asksSomething unreadable
    exact value_matchesRow_of_unreadable member asksSomething unreadable
  · intro ρ _ row column p free asksNothing
    exact matchesRow_congr_terms (terms_insert_of_isEmpty free asksNothing) policy row
  · intro ρ _ row
    rfl
  · intro g same ρ _ row
    exact matchesRow_congr_terms same policy row

theorem matches_iff_terms_hold_unreadable_field :
    ∃ (f : Filter) (row : KeyMap String Json), f.terms ≠ [] ∧
      (f.matchesRow .treatAsNull row).value = false ∧
      (f.insert "b" .empty).matchesRow .treatAsNull row = f.matchesRow .treatAsNull row ∧
      (f.insert "b" .empty).matchesRow .treatAsNull (KeyMap.empty : KeyMap String Value) =
        f.matchesRow .treatAsNull (KeyMap.empty : KeyMap String Value) := by
  let f : Filter := (Predicate.oneOf [Value.null]).forColumn "a"
  obtain ⟨_, unreadable, nothing, _, sameTerms⟩ := matches_iff_terms_hold f .treatAsNull
  refine ⟨f, KeyMap.empty.insert "a" (.object []), by decide, ?_, ?_, ?_⟩
  · exact unreadable _ ("a", .oneOf [Value.null]) List.mem_cons_self rfl rfl
  · exact nothing _ "b" .empty rfl rfl
  · exact (sameTerms (f.insert "b" .empty) rfl _).symm

example : (((Predicate.equals (Value.int 1)).forColumn "a").matchesRow .noMatch
    (KeyMap.empty.insert "a" (.uint 1) : KeyMap String Value)).value = false := by decide

end Filter

end ColumnFilter
