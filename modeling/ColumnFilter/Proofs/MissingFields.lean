import ColumnFilter.Proofs.Rows

set_option autoImplicit false

/-!
# Missing fields

To take missing fields for null is to fill them in with null, in all columns of the filter, and
to match as if none were missing. So it can only make rows match that would not, and makes no
difference to rows that have every field that is asked for.
-/

namespace ColumnFilter

/-! ## Filling in -/

/-- Steps that each fill in one key, if nothing is there, fill in all of them. -/
theorem foldl_fills {σ κ α : Type} [DecidableEq κ] (look : σ → Option α) {step : σ → κ → σ}
    {key : κ} {value : α}
    (fills : ∀ state next, look (step state next) =
      (look state).or (if key = next then some value else none))
    (keys : List κ) (state : σ) :
    look (keys.foldl step state) = (look state).or (if key ∈ keys then some value else none) := by
  induction keys generalizing state with
  | nil => exact Option.or_none.symm
  | cons next rest ih =>
      rw [List.foldl_cons, ih, fills, Option.or_assoc]
      by_cases here : key = next
      · simp [here]
      · simp [here]

namespace KeyMap

variable {κ α : Type} [DecidableEq κ]
variable [LT κ] [DecidableLT κ] [LE κ] [Std.IsLinearOrder κ] [Std.LawfulOrderLT κ]

/-- Adds an entry unless there is one with the key. -/
def insertIfNew (m : KeyMap κ α) (key : κ) (value : α) : KeyMap κ α :=
  if (m.get? key).isSome then m else m.insert key value

theorem get?_insertIfNew (m : KeyMap κ α) (key other : κ) (value : α) :
    (m.insertIfNew key value).get? other =
      (m.get? other).or (if other = key then some value else none) := by
  unfold insertIfNew
  split
  next present =>
    by_cases same : other = key
    · rw [same, Option.or_of_isSome present]
    · rw [if_neg same, Option.or_none]
  next absent =>
    rw [get?_insert]
    split
    next same => rw [same, Option.not_isSome_iff_eq_none.mp absent, Option.none_or]
    · exact Option.or_none.symm

/-- The map with a value under all of some keys. What it holds already stays. -/
def fill (keys : List κ) (value : α) (m : KeyMap κ α) : KeyMap κ α :=
  keys.foldl (fun filled key => filled.insertIfNew key value) m

theorem get?_fill (keys : List κ) (value : α) (m : KeyMap κ α) (key : κ) :
    (m.fill keys value).get? key =
      (m.get? key).or (if key ∈ keys then some value else none) :=
  foldl_fills (fun filled : KeyMap κ α => filled.get? key)
    (fun filled next => filled.get?_insertIfNew next key value) keys m

end KeyMap

/-- The map with null under all of some names. What it holds already stays. -/
def fillHashMap (names : List String) (m : Std.HashMap String Value) : Std.HashMap String Value :=
  names.foldl (fun filled name => filled.insertIfNew name .null) m

theorem getElem?_fillHashMap (names : List String) (m : Std.HashMap String Value) (name : String) :
    (fillHashMap names m)[name]? =
      m[name]?.or (if name ∈ names then some .null else none) := by
  apply foldl_fills (fun filled : Std.HashMap String Value => filled[name]?)
  intro filled next
  rw [Std.HashMap.getElem?_insertIfNew]
  by_cases same : name = next
  · subst same
    cases found : filled[name]? <;> simp [Std.HashMap.mem_iff_isSome_getElem?, found]
  · simp [same, Ne.symm same]

/-! ## Null for missing fields -/

/-- The field with null in place of nothing. -/
def Field.orNull : Field → Field
  | .missing => .present .null
  | field => field

theorem Field.orNull_ofOption (value : Option Value) :
    (ofOption value).orNull = ofOption (value.or (some .null)) := by
  cases value <;> rfl

theorem Predicate.matchesField_treatAsNull (p : Predicate) (field : Field) :
    p.matchesField .treatAsNull field = p.matchesField .noMatch field.orNull := by
  cases field <;> rfl

section Filled

variable {names : List String} {name : String}

theorem field_fill (member : name ∈ names) (row : KeyMap String Value) :
    Row.field (row.fill names .null) name = (Row.field row name).orNull := by
  simp only [Row.field, KeyMap.get?_fill, if_pos member, Field.orNull_ofOption]

theorem field_fillHashMap (member : name ∈ names) (row : Std.HashMap String Value) :
    Row.field (fillHashMap names row) name = (Row.field row name).orNull := by
  simp only [Row.field, getElem?_fillHashMap, if_pos member, Field.orNull_ofOption]

theorem field_fill_json (member : name ∈ names) (object : KeyMap String Json) :
    Row.field (object.fill names .null) name = (Row.field object name).orNull := by
  simp only [Row.field, KeyMap.get?_fill, if_pos member]
  cases object.get? name with
  | none => rfl
  | some json =>
      simp only [Option.some_or, Field.ofJson]
      cases Value.ofJson json <;> rfl

end Filled

theorem Field.Offers.treatAsNull {field : Field} {value : Value}
    (offers : field.Offers .noMatch value) : field.Offers .treatAsNull value := by
  cases offers
  exact .present

theorem Term.holds_of_ne_missing {term : Term} {field : Field} (there : field ≠ .missing) :
    term.holds .noMatch field = term.holds .treatAsNull field := by
  cases field with
  | missing => exact absurd rfl there
  | _ => rfl

namespace Filter

variable {ρ σ : Type} [Row ρ] [Row σ] {f : Filter} {row : ρ}

theorem matchesRow_treatAsNull {filled : σ}
    (fills : ∀ column ∈ f.columns.keys,
      Row.field filled column = (Row.field row column).orNull) :
    f.matchesRow .treatAsNull row = f.matchesRow .noMatch filled := by
  apply allM_congr
  intro entry member
  rw [Predicate.matchesField_treatAsNull, fills entry.1 (List.mem_map_of_mem member)]

theorem value_matchesRow_treatAsNull (matched : (f.matchesRow .noMatch row).value = true) :
    (f.matchesRow .treatAsNull row).value = true := by
  rw [value_matchesRow_iff] at matched ⊢
  intro term member
  obtain ⟨value, offers, related⟩ := matched term member
  exact ⟨value, offers.treatAsNull, related⟩

theorem matchesRow_of_carried
    (carried : ∀ column, f.Asks column → Row.field row column ≠ .missing) :
    f.matchesRow .noMatch row = f.matchesRow .treatAsNull row := by
  rw [matchesRow_eq_allM_terms, matchesRow_eq_allM_terms]
  apply allM_congr
  intro term member
  exact Term.holds_of_ne_missing (carried term.column (asks_of_mem_terms member))

/-- A map or a JSON object is matched with missing fields taken for null as it is matched, with
the same events, once null is filled in for every column of the filter that it does not have,
whatever else it has. Programs evaluate as their filters do. A row of any kind that matches
with missing fields as failures also matches with them as null, and the policies agree on a row
that has every field that is asked for. -/
theorem missing_fields_are_null (f : Filter) :
    (∀ row : KeyMap String Value,
      f.matchesRow .treatAsNull row = f.matchesRow .noMatch (row.fill f.columns.keys .null)) ∧
    (∀ row : Std.HashMap String Value,
      f.matchesRow .treatAsNull row = f.matchesRow .noMatch (fillHashMap f.columns.keys row)) ∧
    (∀ object : KeyMap String Json,
      f.matchesRow .treatAsNull object =
        f.matchesRow .noMatch (object.fill f.columns.keys .null)) ∧
    (∀ {ρ : Type} [Row ρ] (row : ρ) policy,
      ((Program.compile f).withPolicy policy).eval row = f.matchesRow policy row) ∧
    (∀ {ρ : Type} [Row ρ] (row : ρ), (f.matchesRow .noMatch row).value = true →
      (f.matchesRow .treatAsNull row).value = true) ∧
    (∀ {ρ : Type} [Row ρ] (row : ρ),
      (∀ column, f.Asks column → Row.field row column ≠ .missing) →
      f.matchesRow .noMatch row = f.matchesRow .treatAsNull row) := by
  refine ⟨?_, ?_, ?_, ?_, ?_, ?_⟩
  · intro row
    exact matchesRow_treatAsNull fun column member => field_fill member row
  · intro row
    exact matchesRow_treatAsNull fun column member => field_fillHashMap member row
  · intro object
    exact matchesRow_treatAsNull fun column member => field_fill_json member object
  · intro ρ _ row policy
    exact Program.eval_compile f policy row
  · intro ρ _ row matched
    exact value_matchesRow_treatAsNull matched
  · intro ρ _ row carried
    exact matchesRow_of_carried carried

theorem missing_fields_are_null_malformed_target :
    ∃ (f g : Filter) (object : KeyMap String Json),
      f.matchesRow .treatAsNull object =
        f.matchesRow .noMatch (object.fill f.columns.keys .null) ∧
      (f.matchesRow .treatAsNull object).events = [.malformedTarget .oneOf .text] ∧
      (f.matchesRow .noMatch object).events = [] ∧
      (g.matchesRow .treatAsNull object).value = true ∧
      g.matchesRow .noMatch object = g.matchesRow .treatAsNull object := by
  let f : Filter := .ofList [("a", .oneOf [Value.null]), ("b", .empty),
    ("c", .single .oneOf (.text "x"))]
  let g : Filter := (Predicate.equals (1 : Int64)).forColumn "d"
  let object : KeyMap String Json := .ofList [("b", .object []), ("d", .number (.ofInt64 1))]
  obtain ⟨_, _, filled, _⟩ := missing_fields_are_null f
  obtain ⟨_, _, _, _, weaker, alike⟩ := missing_fields_are_null g
  refine ⟨f, g, object, filled object, by decide, by decide, weaker object (by decide), ?_⟩
  apply alike
  intro column asks
  obtain ⟨p, isColumn, _⟩ := asks
  cases List.mem_singleton.mp (KeyMap.get?_eq_some_iff.mp isColumn)
  decide

end Filter

end ColumnFilter
