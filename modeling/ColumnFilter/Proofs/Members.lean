import ColumnFilter.Proofs.Decoding
import ColumnFilter.Proofs.KeyMap

set_option autoImplicit false

/-!
# Members decoded one after the other

Filters, predicates and trees are all decoded from their members in the same way: each member
is decoded by itself and inserted on top of those before it. So every member has to decode,
even one whose key comes again, and the last of several with one key stays.
-/

namespace ColumnFilter

/-- A decoder that takes entries in turn, decodes each and adds it to what it has, succeeds
if every entry decodes, and then answers all of them added in order. -/
theorem gathers_iff {ε δ β σ : Type} {run : List δ → σ → Except ε σ} {Decodes : δ → β → Prop}
    {add : σ → β → σ} (nil : ∀ state, run [] state = .ok state)
    (cons : ∀ {entry rest state result}, run (entry :: rest) state = .ok result ↔
      ∃ item, Decodes entry item ∧ run rest (add state item) = .ok result)
    {entries : List δ} {state result : σ} :
    run entries state = .ok result ↔
      ∃ items, List.Forall₂ Decodes entries items ∧ items.foldl add state = result := by
  induction entries generalizing state with
  | nil =>
      rw [nil]
      constructor
      · intro same
        exact ⟨[], .nil, Except.ok.inj same⟩
      · rintro ⟨items, none, same⟩
        cases none
        exact congrArg Except.ok same
  | cons entry rest ih =>
      rw [cons]
      constructor
      · rintro ⟨item, decoded, answered⟩
        obtain ⟨items, others, same⟩ := ih.mp answered
        exact ⟨item :: items, .cons decoded others, same⟩
      · rintro ⟨items, all, same⟩
        cases all with
        | cons decoded others => exact ⟨_, decoded, ih.mpr ⟨_, others, same⟩⟩

theorem exists_forall₂_iff {α β : Type} {R : α → β → Prop} {entries : List α} :
    (∃ items, List.Forall₂ R entries items) ↔ ∀ entry ∈ entries, ∃ item, R entry item := by
  constructor
  · rintro ⟨items, all⟩
    induction all with
    | nil => nofun
    | cons first _ ih =>
        intro entry member
        rcases List.mem_cons.mp member with rfl | later
        · exact ⟨_, first⟩
        · exact ih entry later
  · intro each
    induction entries with
    | nil => exact ⟨[], .nil⟩
    | cons entry rest ih =>
        obtain ⟨item, first⟩ := each entry List.mem_cons_self
        obtain ⟨items, others⟩ := ih fun other later => each other (List.mem_cons_of_mem _ later)
        exact ⟨item :: items, .cons first others⟩

theorem exists_forall₂_between {α β γ : Type} {R : α → γ → Prop} {S : α → β → Prop}
    {T : β → γ → Prop} {entries : List α} {results : List γ}
    (all : List.Forall₂ R entries results) (split : ∀ {a c}, R a c → ∃ b, S a b ∧ T b c) :
    ∃ items, List.Forall₂ S entries items ∧ List.Forall₂ T items results := by
  induction all with
  | nil => exact ⟨[], .nil, .nil⟩
  | cons first _ ih =>
      obtain ⟨item, left, right⟩ := split first
      obtain ⟨items, lefts, rights⟩ := ih
      exact ⟨item :: items, .cons left lefts, .cons right rights⟩

theorem exists_mem_of_forall₂ {α β : Type} {R : α → β → Prop} {entries : List α}
    {items : List β} (all : List.Forall₂ R entries items) {entry : α} (member : entry ∈ entries) :
    ∃ item ∈ items, R entry item := by
  induction all with
  | nil => cases member
  | cons first _ ih =>
      rcases List.mem_cons.mp member with rfl | later
      · exact ⟨_, List.mem_cons_self, first⟩
      · obtain ⟨item, itemMember, related⟩ := ih later
        exact ⟨item, List.mem_cons_of_mem _ itemMember, related⟩

/-! ## Trees -/

namespace Json

theorem decodeText_eq_ok_iff {α : Type} {decode : Document → Except Error α} {text : String}
    {a : α} : decodeText decode text = .ok a ↔
      (Document.ofText text).2 = [] ∧ decode (Document.ofText text).1 = .ok a := by
  rw [decodeText, except_bind_eq_ok_iff]
  constructor
  · rintro ⟨found, decoded, answered⟩
    split at answered
    next ended =>
      cases answered
      exact ⟨List.isEmpty_iff.mp ended, decoded⟩
    · cases answered
  · rintro ⟨ended, decoded⟩
    exact ⟨a, decoded, if_pos (List.isEmpty_iff.mpr ended)⟩

/-- A reader of a container succeeds if its contents are read and its closing bracket is
there. -/
theorem closing_eq_ok_iff {α β : Type} {contents : Except Error α} {closed : Bool} {f : α → β}
    {result : β} :
    (do let found ← contents; if closed then pure (f found) else throw Error.malformed) =
        .ok result ↔
      closed = true ∧ ∃ found, contents = .ok found ∧ f found = result := by
  rw [except_bind_eq_ok_iff]
  constructor
  · rintro ⟨found, read, answered⟩
    cases closed with
    | false => cases answered
    | true => exact ⟨rfl, found, read, Except.ok.inj answered⟩
  · rintro ⟨rfl, found, read, same⟩
    exact ⟨found, read, congrArg Except.ok same⟩

theorem readKey_eq_ok_iff {key : Option String} {name : String} :
    readKey key = .ok name ↔ key = some name := by
  cases key with
  | none => constructor <;> intro answered <;> cases answered
  | some other =>
      constructor
      · intro answered
        exact congrArg some (Except.ok.inj answered)
      · intro same
        exact congrArg Except.ok (Option.some.inj same)

def ReadsMember (room : Nat) (member : Option String × Document) (entry : String × Json) : Prop :=
  member.1 = some entry.1 ∧ read room member.2 = .ok entry.2

theorem readMembers_eq_ok_iff {room : Nat} {members : List (Option String × Document)}
    {before object : KeyMap String Json} :
    readMembers room members before = .ok object ↔
      ∃ entries, List.Forall₂ (ReadsMember room) members entries ∧
        entries.foldl (fun m entry => m.insert entry.1 entry.2) before = object := by
  apply gathers_iff
  · intro state
    rfl
  · intro member rest state result
    constructor
    · intro answered
      obtain ⟨key, named, answered⟩ := except_bind_eq_ok_iff.mp answered
      obtain ⟨value, decoded, answered⟩ := except_bind_eq_ok_iff.mp answered
      exact ⟨(key, value), ⟨readKey_eq_ok_iff.mp named, decoded⟩, answered⟩
    · rintro ⟨entry, ⟨named, decoded⟩, answered⟩
      exact except_bind_eq_ok_iff.mpr ⟨entry.1, readKey_eq_ok_iff.mpr named,
        except_bind_eq_ok_iff.mpr ⟨entry.2, decoded, answered⟩⟩

theorem read_eq_object_iff {room : Nat} {document : Document} {entries : List (String × Json)} :
    read room document = .ok (.object entries) ↔ ∃ inner members trees, room = inner + 1 ∧
      document = .object members true ∧ List.Forall₂ (ReadsMember inner) members trees ∧
      (KeyMap.ofList trees).entries = entries := by
  constructor
  · intro answered
    cases document with
    | object members closed =>
        cases room with
        | zero => cases answered
        | succ inner =>
            obtain ⟨rfl, object, decoded, same⟩ := closing_eq_ok_iff.mp answered
            obtain ⟨trees, all, rfl⟩ := readMembers_eq_ok_iff.mp decoded
            exact ⟨inner, members, trees, rfl, rfl, all, Json.object.inj same⟩
    | array items closed =>
        cases room with
        | zero => cases answered
        | succ inner =>
            obtain ⟨_, _, _, same⟩ := closing_eq_ok_iff.mp answered
            cases same
    | numeral n =>
        rw [read] at answered
        split at answered <;> cases answered
    | string s =>
        obtain ⟨_, _, same⟩ := except_map_eq_ok_iff.mp answered
        cases same
    | _ => cases answered
  · rintro ⟨inner, members, trees, rfl, rfl, all, rfl⟩
    exact closing_eq_ok_iff.mpr
      ⟨rfl, .ofList trees, readMembers_eq_ok_iff.mpr ⟨trees, all, rfl⟩, rfl⟩

def memberInput (member : String × Json) : String × Input :=
  (member.1, member.2.toInput)

theorem toInputMembers_eq_map (members : List (String × Json)) :
    toInputMembers members = members.map memberInput := by
  induction members with
  | nil => rfl
  | cons member rest ih =>
      rw [toInputMembers, ih]
      rfl

theorem toInput_eq_map_iff {json : Json} {entries : List (String × Input)} :
    json.toInput = .map entries ↔
      ∃ members, json = .object members ∧ members.map memberInput = entries := by
  constructor
  · intro same
    cases json with
    | object members =>
        refine ⟨members, rfl, ?_⟩
        rw [← toInputMembers_eq_map]
        exact Input.map.inj same
    | number n => cases n with
      | float x finite => cases same
      | integer i lower upper =>
          rw [toInput, Number.toInput] at same
          split at same <;> cases same
    | _ => cases same
  · rintro ⟨members, rfl, rfl⟩
    rw [← toInputMembers_eq_map]
    rfl

end Json

/-! ## Predicates -/

namespace Operator

theorem eq_name_of_ofName? {name : String} {op : Operator} (named : ofName? name = some op) :
    name = op.name := by
  unfold ofName? at named
  split at named
  next isEquals =>
    cases named
    exact isEquals
  · split at named
    next isOneOf =>
      cases named
      exact isOneOf
    · cases named

theorem ofName?_name (op : Operator) : ofName? op.name = some op := by
  cases op <;> rfl

theorem name_lt_name_iff {a b : Operator} : a.name < b.name ↔ a < b := by
  cases a <;> cases b <;> decide

end Operator

namespace Predicate

/-- Targets asked one after the other, on top of what was asked before. -/
def insertAll (targets : List (Operator × Value)) (p : Predicate) : Predicate :=
  targets.foldl (fun before target => before.insert target.1 target.2) p

theorem insertAll_eq (targets : List (Operator × Value)) (p : Predicate) :
    insertAll targets p =
      ⟨targets.foldl (fun before target => before.insert target.1 target.2) p.targets⟩ :=
  List.foldl_hom Predicate.mk fun _ _ => rfl

theorem insertAll_entries (p : Predicate) : insertAll p.entries empty = p := by
  rw [insertAll_eq]
  exact congrArg Predicate.mk (KeyMap.ofList_entries p.targets)

theorem entries_insertAll {targets : List (Operator × Value)}
    (sorted : (targets.map Prod.fst).Pairwise (· < ·)) :
    (insertAll targets empty).entries = targets := by
  rw [insertAll_eq]
  exact KeyMap.entries_foldl_insert (m := .empty) sorted

/-- The entry decodes as a target. -/
def DecodesTarget (entry : String × Input) (target : Operator × Value) : Prop :=
  Operator.ofName? entry.1 = some target.1 ∧ Value.ofInput entry.2 = .ok target.2

def IsTarget (member : String × Json) (target : Operator × Value) : Prop :=
  DecodesTarget (Json.memberInput member) target

def ReadsTarget (room : Nat) (member : Option String × Json.Document)
    (target : Operator × Value) : Prop :=
  ∃ name, member.1 = some name ∧ Operator.ofName? name = some target.1 ∧
    Value.read room member.2 = .ok target.2

theorem addInputs_eq_ok_iff {entries : List (String × Input)} {before p : Predicate} :
    addInputs entries before = .ok p ↔
      ∃ targets, List.Forall₂ DecodesTarget entries targets ∧ insertAll targets before = p := by
  apply gathers_iff
  · intro state
    rfl
  · intro entry rest state result
    constructor
    · intro answered
      obtain ⟨op, named, answered⟩ := except_bind_eq_ok_iff.mp answered
      obtain ⟨target, decoded, answered⟩ := except_bind_eq_ok_iff.mp answered
      exact ⟨(op, target), ⟨Operator.ofKey_eq_ok_iff.mp named, decoded⟩, answered⟩
    · rintro ⟨target, ⟨named, decoded⟩, answered⟩
      exact except_bind_eq_ok_iff.mpr ⟨target.1, Operator.ofKey_eq_ok_iff.mpr named,
        except_bind_eq_ok_iff.mpr ⟨target.2, decoded, answered⟩⟩

theorem ofInput_eq_ok_iff {input : Input} {p : Predicate} :
    ofInput input = .ok p ↔ ∃ entries, input = .map entries ∧ addInputs entries empty = .ok p := by
  constructor
  · intro decoded
    cases input with
    | map entries => exact ⟨entries, rfl, decoded⟩
    | _ => cases decoded
  · rintro ⟨entries, rfl, decoded⟩
    exact decoded

theorem entries_decode_of_addInputs {entries : List (String × Input)} {before p : Predicate}
    (decoded : addInputs entries before = .ok p) :
    ∀ entry ∈ entries, (Operator.ofName? entry.1).isSome = true ∧
      ∃ value, Value.ofInput entry.2 = .ok value := by
  obtain ⟨targets, all, _⟩ := addInputs_eq_ok_iff.mp decoded
  intro entry member
  obtain ⟨target, _, named, valued⟩ := exists_mem_of_forall₂ all member
  exact ⟨Option.isSome_of_eq_some named, target.2, valued⟩

theorem key_lt_key_iff {member other : String × Json} {target second : Operator × Value}
    (first : IsTarget member target) (last : IsTarget other second) :
    member.1 < other.1 ↔ target.1 < second.1 := by
  rw [← Operator.name_lt_name_iff, ← Operator.eq_name_of_ofName? first.1,
    ← Operator.eq_name_of_ofName? last.1]
  rfl

theorem names_eq_of_decodes {members : List (String × Json)} {targets : List (Operator × Value)}
    (all : List.Forall₂ IsTarget members targets) :
    members.map Prod.fst = targets.map fun target => target.1.name := by
  induction all with
  | nil => rfl
  | cons first _ ih =>
      rw [List.map_cons, List.map_cons, ih]
      exact congrArg (· :: _) (Operator.eq_name_of_ofName? first.1)

theorem entries_insertAll_of_decodes {members : List (String × Json)}
    {targets : List (Operator × Value)} (sorted : (members.map Prod.fst).Pairwise (· < ·))
    (all : List.Forall₂ IsTarget members targets) :
    (insertAll targets empty).entries = targets := by
  rw [names_eq_of_decodes all, List.pairwise_map] at sorted
  apply entries_insertAll
  exact List.pairwise_map.mpr (sorted.imp Operator.name_lt_name_iff.mp)

theorem forall₂_isTarget_iff {members : List (String × Json)} {targets : List (Operator × Value)} :
    List.Forall₂ DecodesTarget (members.map Json.memberInput) targets ↔
      List.Forall₂ IsTarget members targets :=
  List.forall₂_map_left_iff

theorem ofInput_toInput_eq_ok_iff {json : Json} {p : Predicate} :
    ofInput json.toInput = .ok p ↔ ∃ members targets, json = .object members ∧
      List.Forall₂ IsTarget members targets ∧
      insertAll targets empty = p := by
  simp only [ofInput_eq_ok_iff, Json.toInput_eq_map_iff, addInputs_eq_ok_iff]
  constructor
  · rintro ⟨_, ⟨members, isObject, rfl⟩, targets, all, same⟩
    exact ⟨members, targets, isObject, forall₂_isTarget_iff.mp all, same⟩
  · rintro ⟨members, targets, isObject, all, same⟩
    exact ⟨_, ⟨members, isObject, rfl⟩, targets, forall₂_isTarget_iff.mpr all, same⟩

theorem readMembers_eq_ok_iff {room : Nat} {members : List (Option String × Json.Document)}
    {before p : Predicate} :
    readMembers room members before = .ok p ↔
      ∃ targets, List.Forall₂ (ReadsTarget room) members targets ∧
        insertAll targets before = p := by
  apply gathers_iff
  · intro state
    rfl
  · intro member rest state result
    constructor
    · intro answered
      obtain ⟨name, isKey, answered⟩ := except_bind_eq_ok_iff.mp answered
      obtain ⟨op, named, answered⟩ := except_bind_eq_ok_iff.mp answered
      obtain ⟨target, decoded, answered⟩ := except_bind_eq_ok_iff.mp answered
      exact ⟨(op, target), ⟨name, Json.readKey_eq_ok_iff.mp isKey,
        Operator.ofKey_eq_ok_iff.mp (except_mapError_eq_ok_iff.mp named), decoded⟩, answered⟩
    · rintro ⟨target, ⟨name, isKey, named, decoded⟩, answered⟩
      exact except_bind_eq_ok_iff.mpr ⟨name, Json.readKey_eq_ok_iff.mpr isKey,
        except_bind_eq_ok_iff.mpr ⟨target.1,
          except_mapError_eq_ok_iff.mpr (Operator.ofKey_eq_ok_iff.mpr named),
          except_bind_eq_ok_iff.mpr ⟨target.2, decoded, answered⟩⟩⟩

theorem read_eq_ok_iff {room : Nat} {document : Json.Document} {p : Predicate} :
    read room document = .ok p ↔ ∃ inner members, room = inner + 1 ∧
      document = .object members true ∧ readMembers inner members empty = .ok p := by
  constructor
  · intro answered
    unfold read at answered
    split at answered
    · cases answered
    next inner members closed =>
      obtain ⟨rfl, q, decoded, rfl⟩ := Json.closing_eq_ok_iff.mp answered
      exact ⟨inner, members, rfl, rfl, decoded⟩
    · cases answered
  · rintro ⟨inner, members, rfl, rfl, decoded⟩
    exact Json.closing_eq_ok_iff.mpr ⟨rfl, p, decoded, rfl⟩

end Predicate

/-! ## Filters -/

namespace Filter

/-- Columns constrained one after the other, on top of what was constrained before. -/
def insertAll (columns : List (String × Predicate)) (f : Filter) : Filter :=
  columns.foldl (fun before column => before.insert column.1 column.2) f

theorem insertAll_eq (columns : List (String × Predicate)) (f : Filter) :
    insertAll columns f =
      ⟨columns.foldl (fun before column => before.insert column.1 column.2) f.columns⟩ :=
  List.foldl_hom Filter.mk fun _ _ => rfl

theorem insertAll_entries (f : Filter) : insertAll f.entries empty = f := by
  rw [insertAll_eq]
  exact congrArg Filter.mk (KeyMap.ofList_entries f.columns)

theorem entries_insertAll {columns : List (String × Predicate)}
    (sorted : (columns.map Prod.fst).Pairwise (· < ·)) :
    (insertAll columns empty).entries = columns := by
  rw [insertAll_eq]
  exact KeyMap.entries_foldl_insert (m := .empty) sorted

/-- The entry decodes as a column. -/
def DecodesColumn (entry : String × Input) (column : String × Predicate) : Prop :=
  entry.1 = column.1 ∧ Predicate.ofInput entry.2 = .ok column.2

def IsColumn (member : String × Json) (column : String × Predicate) : Prop :=
  DecodesColumn (Json.memberInput member) column

def ReadsColumn (room : Nat) (member : Option String × Json.Document)
    (column : String × Predicate) : Prop :=
  member.1 = some column.1 ∧ Predicate.read room member.2 = .ok column.2

theorem addInputs_eq_ok_iff {entries : List (String × Input)} {before f : Filter} :
    addInputs entries before = .ok f ↔
      ∃ columns, List.Forall₂ DecodesColumn entries columns ∧ insertAll columns before = f := by
  apply gathers_iff
  · intro state
    rfl
  · rintro ⟨name, input⟩ rest state result
    constructor
    · intro answered
      obtain ⟨p, decoded, answered⟩ := except_bind_eq_ok_iff.mp answered
      exact ⟨(name, p), ⟨rfl, decoded⟩, answered⟩
    · rintro ⟨column, ⟨rfl, decoded⟩, answered⟩
      exact except_bind_eq_ok_iff.mpr ⟨column.2, decoded, answered⟩

/-- Maps are no values, so entries that decode both as a predicate's and as a filter's are
none. -/
theorem eq_nil_of_addInputs_both {entries : List (String × Input)} {before f : Filter}
    {earlier p : Predicate} (asFilter : addInputs entries before = .ok f)
    (asPredicate : Predicate.addInputs entries earlier = .ok p) : entries = [] := by
  cases entries with
  | nil => rfl
  | cons head rest =>
      obtain ⟨columns, all, _⟩ := addInputs_eq_ok_iff.mp asFilter
      obtain ⟨column, _, _, decoded⟩ := exists_mem_of_forall₂ all List.mem_cons_self
      obtain ⟨_, value, valued⟩ :=
        Predicate.entries_decode_of_addInputs asPredicate head List.mem_cons_self
      obtain ⟨inner, isMap, _⟩ := Predicate.ofInput_eq_ok_iff.mp decoded
      rw [isMap] at valued
      cases valued

theorem ofInput_eq_ok_iff {input : Input} {f : Filter} :
    ofInput input = .ok f ↔ ∃ entries, input = .map entries ∧ addInputs entries empty = .ok f := by
  constructor
  · intro decoded
    cases input with
    | map entries => exact ⟨entries, rfl, decoded⟩
    | _ => cases decoded
  · rintro ⟨entries, rfl, decoded⟩
    exact decoded

theorem key_lt_key_iff {member other : String × Json} {column second : String × Predicate}
    (first : IsColumn member column) (last : IsColumn other second) :
    member.1 < other.1 ↔ column.1 < second.1 := by
  rw [← first.1, ← last.1]
  rfl

theorem names_eq_of_decodes {members : List (String × Json)}
    {columns : List (String × Predicate)}
    (all : List.Forall₂ IsColumn members columns) :
    members.map Prod.fst = columns.map Prod.fst := by
  induction all with
  | nil => rfl
  | cons first _ ih =>
      rw [List.map_cons, List.map_cons, ih]
      exact congrArg (· :: _) first.1

theorem entries_insertAll_of_decodes {members : List (String × Json)}
    {columns : List (String × Predicate)} (sorted : (members.map Prod.fst).Pairwise (· < ·))
    (all : List.Forall₂ IsColumn members columns) :
    (insertAll columns empty).entries = columns := by
  rw [names_eq_of_decodes all] at sorted
  exact entries_insertAll sorted

theorem forall₂_isColumn_iff {members : List (String × Json)}
    {columns : List (String × Predicate)} :
    List.Forall₂ DecodesColumn (members.map Json.memberInput) columns ↔
      List.Forall₂ IsColumn members columns :=
  List.forall₂_map_left_iff

theorem ofInput_toInput_eq_ok_iff {json : Json} {f : Filter} :
    ofInput json.toInput = .ok f ↔ ∃ members columns, json = .object members ∧
      List.Forall₂ IsColumn members columns ∧
      insertAll columns empty = f := by
  simp only [ofInput_eq_ok_iff, Json.toInput_eq_map_iff, addInputs_eq_ok_iff]
  constructor
  · rintro ⟨_, ⟨members, isObject, rfl⟩, columns, all, same⟩
    exact ⟨members, columns, isObject, forall₂_isColumn_iff.mp all, same⟩
  · rintro ⟨members, columns, isObject, all, same⟩
    exact ⟨_, ⟨members, isObject, rfl⟩, columns, forall₂_isColumn_iff.mpr all, same⟩

theorem readMembers_eq_ok_iff {room : Nat} {members : List (Option String × Json.Document)}
    {before f : Filter} :
    readMembers room members before = .ok f ↔
      ∃ columns, List.Forall₂ (ReadsColumn room) members columns ∧
        insertAll columns before = f := by
  apply gathers_iff
  · intro state
    rfl
  · intro member rest state result
    constructor
    · intro answered
      obtain ⟨column, named, answered⟩ := except_bind_eq_ok_iff.mp answered
      obtain ⟨p, decoded, answered⟩ := except_bind_eq_ok_iff.mp answered
      exact ⟨(column, p), ⟨Json.readKey_eq_ok_iff.mp named, decoded⟩, answered⟩
    · rintro ⟨column, ⟨named, decoded⟩, answered⟩
      exact except_bind_eq_ok_iff.mpr ⟨column.1, Json.readKey_eq_ok_iff.mpr named,
        except_bind_eq_ok_iff.mpr ⟨column.2, decoded, answered⟩⟩

theorem read_eq_ok_iff {room : Nat} {document : Json.Document} {f : Filter} :
    read room document = .ok f ↔ ∃ inner members, room = inner + 1 ∧
      document = .object members true ∧ readMembers inner members empty = .ok f := by
  constructor
  · intro answered
    unfold read at answered
    split at answered
    · cases answered
    next inner members closed =>
      obtain ⟨rfl, g, decoded, rfl⟩ := Json.closing_eq_ok_iff.mp answered
      exact ⟨inner, members, rfl, rfl, decoded⟩
    · cases answered
  · rintro ⟨inner, members, rfl, rfl, decoded⟩
    exact Json.closing_eq_ok_iff.mpr ⟨rfl, f, decoded, rfl⟩

end Filter

end ColumnFilter
