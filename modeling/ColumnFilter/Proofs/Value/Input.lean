import ColumnFilter.Proofs.Float64
import ColumnFilter.Proofs.Integers

set_option autoImplicit false

/-!
# Values of any input

A decoder can be fed with more than JSON: with options, with numbers that are not finite and
with texts of two kinds. Maps and numbers that are not finite are refused wherever they stand.
The error is that of the first of them, the nodes of the input taken depth first. All else has
one value, in which options have left no trace.
-/

namespace ColumnFilter

/-! ## Messages -/

/-- The word for a number that is not finite. -/
def Binary64.nonFiniteWord (x : Binary64) : String :=
  if x.isNaN then "NaN" else if x.negative then "-inf" else "inf"

theorem FloatFormat.write_nonFinite (format : FloatFormat) {x : Binary64}
    (notFinite : x.isFinite = false) : String.ofList (format.write x) = x.nonFiniteWord := by
  rw [write, Binary64.nonFiniteWord, notFinite]
  cases x.isNaN with
  | true => rfl
  | false => cases x.negative <;> rfl

theorem DecodeError.message_nonFinite (wording : Wording) {x : Binary64}
    (notFinite : x.isFinite = false) :
    (nonFinite x).message wording =
      "invalid value: floating point `" ++ x.nonFiniteWord ++ "`, expected a finite float" := by
  have described : (Found.float x).describe wording =
      "floating point `" ++ x.nonFiniteWord ++ "`" :=
    congrArg (fun word => "floating point `" ++ word ++ "`")
      (wording.float.write_nonFinite notFinite)
  have before : "invalid value: " ++ "floating point `" = "invalid value: floating point `" := by
    decide
  have after : "`" ++ ", expected a finite float" = "`, expected a finite float" := by decide
  change "invalid value: " ++ (Found.float x).describe wording ++ ", expected a finite float" = _
  rw [described, ← before, ← after]
  simp only [String.append_assoc]

namespace Input

/-! ## Nodes -/

/-- The first input stands somewhere in the second, at any depth. -/
inductive Within (inner : Input) : Input → Prop where
  | self : Within inner inner
  | content {content : Input} : Within inner content → Within inner (.present content)
  | item {items : List Input} {item : Input} :
      item ∈ items → Within inner item → Within inner (.sequence items)
  | entry {entries : List (String × Input)} {entry : String × Input} :
      entry ∈ entries → Within inner entry.2 → Within inner (.map entries)

mutual

/-- All that stands in an input, depth first: each node comes before what it contains. -/
def nodes : Input → List Input
  | .present content => .present content :: nodes content
  | .sequence items => .sequence items :: nodesOfItems items
  | .map entries => .map entries :: nodesOfEntries entries
  | input => [input]
termination_by structural input => input

def nodesOfItems : List Input → List Input
  | [] => []
  | item :: rest => nodes item ++ nodesOfItems rest
termination_by structural items => items

def nodesOfEntries : List (String × Input) → List Input
  | [] => []
  | (_, value) :: rest => nodes value ++ nodesOfEntries rest
termination_by structural entries => entries

end

mutual

theorem mem_nodes_iff {inner : Input} : ∀ input : Input, inner ∈ input.nodes ↔ Within inner input
  | .unit | .absent | .bool _ | .signed _ | .unsigned _ | .float _ | .lentText _ | .givenText _ => by
      rw [nodes, List.mem_singleton]
      · constructor
        · intro same
          subst same
          exact .self
        · intro within
          cases within
          rfl
      all_goals nofun
  | .present content => by
      rw [nodes, List.mem_cons, mem_nodes_iff content]
      constructor
      · intro found
        rcases found with same | within
        · subst same
          exact .self
        · exact .content within
      · intro within
        cases within with
        | self => exact .inl rfl
        | content within => exact .inr within
  | .sequence items => by
      rw [nodes, List.mem_cons, mem_nodesOfItems_iff items]
      constructor
      · intro found
        rcases found with same | ⟨item, member, within⟩
        · subst same
          exact .self
        · exact .item member within
      · intro within
        cases within with
        | self => exact .inl rfl
        | item member within => exact .inr ⟨_, member, within⟩
  | .map entries => by
      rw [nodes, List.mem_cons, mem_nodesOfEntries_iff entries]
      constructor
      · intro found
        rcases found with same | ⟨entry, member, within⟩
        · subst same
          exact .self
        · exact .entry member within
      · intro within
        cases within with
        | self => exact .inl rfl
        | entry member within => exact .inr ⟨_, member, within⟩

theorem mem_nodesOfItems_iff {inner : Input} : ∀ items : List Input,
    inner ∈ nodesOfItems items ↔ ∃ item ∈ items, Within inner item
  | [] => by simp [nodesOfItems]
  | item :: rest => by
      rw [nodesOfItems, List.mem_append, mem_nodes_iff item, mem_nodesOfItems_iff rest,
        List.exists_mem_cons_iff]

theorem mem_nodesOfEntries_iff {inner : Input} : ∀ entries : List (String × Input),
    inner ∈ nodesOfEntries entries ↔ ∃ entry ∈ entries, Within inner entry.2
  | [] => by simp [nodesOfEntries]
  | (key, value) :: rest => by
      rw [nodesOfEntries, List.mem_append, mem_nodes_iff value, mem_nodesOfEntries_iff rest,
        List.exists_mem_cons_iff]

end

/-! ## Refusals -/

/-- What a node is refused for by itself. -/
def refusal? : Input → Option DecodeError
  | .map _ => some (.invalidType .map .value)
  | .float x => if x.isFinite then none else some (.nonFinite x)
  | _ => none

/-- What the first node that is refused is refused for. -/
def firstRefusal? (input : Input) : Option DecodeError :=
  input.nodes.findSome? refusal?

theorem refusal?_eq_none_iff {input : Input} :
    input.refusal? = none ↔
      (∀ entries, input ≠ .map entries) ∧ ∀ x, input = .float x → x.isFinite = true := by
  cases input with
  | float x => simp [refusal?]
  | map entries => simp [refusal?]
  | _ => simp [refusal?]

theorem firstRefusal?_eq_none_iff {input : Input} :
    input.firstRefusal? = none ↔
      ∀ node, Within node input →
        (∀ entries, node ≠ .map entries) ∧ ∀ x, node = .float x → x.isFinite = true := by
  rw [firstRefusal?, List.findSome?_eq_none_iff]
  simp only [mem_nodes_iff, refusal?_eq_none_iff]

theorem refusal?_nonFinite {x : Binary64} (notFinite : x.isFinite = false) :
    (Input.float x).refusal? = some (.nonFinite x) := by
  rw [refusal?, notFinite]
  rfl

/-! ## Meanings -/

/-- The value that an input has. An option has that of its content, and texts of both kinds
are alike. Integers follow the canonical integer rule, and there is one zero. -/
inductive Means : Input → Value → Prop where
  | unit : Means .unit .null
  | absent : Means .absent .null
  | present {content : Input} {value : Value} : Means content value → Means (.present content) value
  | bool {b : Bool} : Means (.bool b) (.bool b)
  | signed {i : Int64} : Means (.signed i) (.int i)
  | small {n : UInt64} {i : Int64} : i.toInt = n.toNat → Means (.unsigned n) (.int i)
  | large {n : UInt64} : 0x8000000000000000 ≤ n.toNat → Means (.unsigned n) (.uint n)
  | float {x : Float64} : Means (.float x.toBinary64) (.float x)
  | zero {x : Binary64} : x.isZero = true → Means (.float x) (.float .zero)
  | lentText {s : String} : Means (.lentText s) (.text s)
  | givenText {s : String} : Means (.givenText s) (.text s)
  | sequence {items : List Input} {values : List Value} :
      List.Forall₂ Means items values → Means (.sequence items) (.list values)

theorem means_float_iff {x : Binary64} {v : Value} :
    (Input.float x).Means v ↔ ∃ y, Float64.ofBinary64? x = some y ∧ v = .float y := by
  constructor
  · intro means
    cases means with
    | float => exact ⟨_, Float64.ofBinary64?_toBinary64 _, rfl⟩
    | zero isZero =>
        refine ⟨.zero, Float64.ofBinary64?_eq_some_iff.mpr ⟨?_, ?_⟩, rfl⟩
        · simp only [Binary64.isZero, decide_eq_true_eq] at isZero
          simp only [Binary64.isFinite, isZero]
          decide
        · exact (if_pos isZero).symm
  · intro decoded
    obtain ⟨y, finite, same⟩ := decoded
    subst same
    obtain ⟨_, kept⟩ := Float64.ofBinary64?_eq_some_iff.mp finite
    rw [Binary64.withoutNegativeZero] at kept
    split at kept
    next isZero =>
      have same : y = .zero := Float64.eq_of_toBinary64_eq kept
      rw [same]
      exact .zero isZero
    · rw [← kept]
      exact .float

theorem means_unsigned_iff {n : UInt64} {v : Value} :
    (Input.unsigned n).Means v ↔ Value.ofUInt64 n = v := by
  have kept := Value.integers?_ofUInt64 n
  constructor
  · intro means
    cases means with
    | @small _ i same =>
        have bound := i.toInt_lt
        have fits : n.toNat < 0x8000000000000000 := by omega
        rw [Value.ofUInt64, if_pos fits] at kept ⊢
        have exact := Integers.one.inj (Option.some.inj kept)
        exact congrArg Value.int (Int64.toInt_inj.mp (exact.trans same.symm))
    | large beyond => exact if_neg (Nat.not_lt.mpr beyond)
  · intro same
    subst same
    rw [Value.ofUInt64] at kept ⊢
    split
    next fits =>
      rw [if_pos fits] at kept
      exact .small (Integers.one.inj (Option.some.inj kept))
    next beyond => exact .large (Nat.not_lt.mp beyond)

end Input

namespace Value

mutual

theorem ofInput_eq_ok_iff_means : ∀ (input : Input) {v : Value},
    ofInput input = .ok v ↔ input.Means v
  | .unit, v | .absent, v | .bool _, v | .signed _, v | .lentText _, v | .givenText _, v => by
      constructor
      · intro decoded
        cases decoded
        constructor
      · intro means
        cases means
        rfl
  | .unsigned n, v => by
      change Except.ok (ofUInt64 n) = .ok v ↔ _
      rw [Input.means_unsigned_iff, Except.ok.injEq]
  | .float x, v => by
      rw [Input.means_float_iff, ofInput]
      cases Float64.ofBinary64? x with
      | none => simp
      | some y =>
          change Except.ok (Value.float y) = .ok v ↔ _
          simp [eq_comm]
  | .present content, v => by
      rw [ofInput, ofInput_eq_ok_iff_means content]
      constructor
      · intro means
        exact .present means
      · intro means
        cases means with
        | present means => exact means
  | .sequence items, v => by
      rw [ofInput, except_map_eq_ok_iff]
      simp only [ofInputs_eq_ok_iff_means items]
      constructor
      · intro decoded
        obtain ⟨values, all, same⟩ := decoded
        subst same
        exact .sequence all
      · intro means
        cases means with
        | sequence all => exact ⟨_, all, rfl⟩
  | .map _, v => by
      constructor
      · intro decoded
        cases decoded
      · intro means
        cases means

theorem ofInputs_eq_ok_iff_means : ∀ (items : List Input) {values : List Value},
    ofInputs items = .ok values ↔ List.Forall₂ Input.Means items values
  | [], values => by
      constructor
      · intro decoded
        cases decoded
        exact .nil
      · intro all
        cases all
        rfl
  | item :: rest, values => by
      rw [ofInputs, except_bind_eq_ok_iff]
      simp only [except_bind_eq_ok_iff, ofInput_eq_ok_iff_means item, ofInputs_eq_ok_iff_means rest]
      constructor
      · intro decoded
        obtain ⟨value, means, others, all, same⟩ := decoded
        cases same
        exact .cons means all
      · intro all
        cases all with
        | cons means all => exact ⟨_, means, _, all, rfl⟩

end

mutual

theorem ofInput_eq_error_iff : ∀ (input : Input) {error : DecodeError},
    ofInput input = .error error ↔ input.firstRefusal? = some error
  | .unit, error | .absent, error | .bool _, error | .signed _, error | .unsigned _, error
  | .lentText _, error | .givenText _, error => by
      constructor
      · intro failed
        cases failed
      · intro refused
        cases refused
  | .float x, error => by
      have alone : (Input.float x).firstRefusal? = (Input.float x).refusal? :=
        List.findSome?_singleton
      rw [alone, ofInput, Float64.ofBinary64?, Input.refusal?]
      by_cases finite : x.isFinite = true
      · simp only [finite, ↓reduceDIte, ↓reduceIte]
        constructor <;> intro failed <;> cases failed
      · simp only [finite]
        constructor <;> intro failed <;> cases failed <;> rfl
  | .present content, error => by
      rw [ofInput, ofInput_eq_error_iff content]
      rfl
  | .sequence items, error => by
      rw [ofInput, except_map_eq_error_iff, ofInputs_eq_error_iff items]
      rfl
  | .map _, error => by
      change Except.error _ = _ ↔ some _ = _
      rw [Except.error.injEq, Option.some.injEq]

theorem ofInputs_eq_error_iff : ∀ (items : List Input) {error : DecodeError},
    ofInputs items = .error error ↔
      (Input.nodesOfItems items).findSome? Input.refusal? = some error
  | [], error => by
      constructor
      · intro failed
        cases failed
      · intro refused
        cases refused
  | item :: rest, error => by
      have accepted := except_exists_eq_ok_iff fun _ => ofInput_eq_error_iff item
      rw [ofInputs, Input.nodesOfItems, List.findSome?_append, Option.or_eq_some_iff,
        except_bind_eq_error_iff, ofInput_eq_error_iff item]
      -- The rest is looked at only if the first item is accepted, that is, has no refused node.
      apply or_congr_right
      rw [← Input.firstRefusal?, ← accepted, ← ofInputs_eq_error_iff rest]
      simp only [bind_pure_comp, except_map_eq_error_iff, exists_and_right]

end

/-- Any input has a value unless a map or a number that is not finite stands in it, at any
depth. If some do, the error is that of the first in the order of nodes, depth first, whatever
lists and options it stands in; it speaks of a map, or it names the number. The value is what
the input means. -/
theorem decodes_or_names_first_refusal (input : Input) :
    ((∃ v, ofInput input = .ok v) ↔
      ∀ node, Input.Within node input →
        (∀ entries, node ≠ .map entries) ∧ ∀ x, node = .float x → x.isFinite = true) ∧
    (∀ error, ofInput input = .error error ↔
      ∃ before node after, input.nodes = before ++ node :: after ∧
        node.refusal? = some error ∧ ∀ earlier ∈ before, earlier.refusal? = none) ∧
    (∀ wording entries, ∃ error, (Input.map entries).refusal? = some error ∧
      error.message wording =
        "invalid type: map, expected a scalar or a sequence of scalars") ∧
    (∀ wording (x : Binary64), x.isFinite = false →
      ∃ error, (Input.float x).refusal? = some error ∧
        error.message wording =
          "invalid value: floating point `" ++ x.nonFiniteWord ++ "`, expected a finite float") ∧
    (∀ v, ofInput input = .ok v ↔ input.Means v) := by
  refine ⟨?_, ?_, ?_, ?_, ?_⟩
  · rw [← Input.firstRefusal?_eq_none_iff]
    exact except_exists_eq_ok_iff fun _ => ofInput_eq_error_iff input
  · intro error
    rw [ofInput_eq_error_iff, Input.firstRefusal?, List.findSome?_eq_some_iff]
  · intro wording entries
    exact ⟨_, rfl, rfl⟩
  · intro wording x notFinite
    exact ⟨.nonFinite x, Input.refusal?_nonFinite notFinite,
      DecodeError.message_nonFinite wording notFinite⟩
  · intro v
    exact ofInput_eq_ok_iff_means input

theorem decodes_or_names_first_refusal_wrapped_nan :
    ∃ (nan : Binary64) (refused accepted : Input),
      ofInput refused = .error (.nonFinite nan) ∧
      (∃ error, (Input.float nan).refusal? = some error ∧
        error.message .general =
          "invalid value: floating point `NaN`, expected a finite float") ∧
      ofInput accepted = .ok (.list [.float .zero, .null, .int 7, .text "x"]) := by
  let nan : Binary64 := ⟨0xfff8000000000001⟩
  let negativeZero : Binary64 := ⟨0x8000000000000000⟩
  let first : List Input := [.float negativeZero, .present .absent, .unsigned 7, .lentText "x"]
  let refused : Input :=
    .sequence [.sequence first, .present (.present (.float nan)), .map [("a", .unit)]]
  obtain ⟨_, failing, _, named, _⟩ := decodes_or_names_first_refusal refused
  obtain ⟨_, _, _, _, valued⟩ := decodes_or_names_first_refusal (.sequence first)
  obtain ⟨error, refusal, message⟩ := named .general nan (by decide)
  refine ⟨nan, refused, .sequence first, ?_, ⟨error, refusal, ?_⟩, ?_⟩
  · exact (failing _).mpr (List.findSome?_eq_some_iff.mp (by decide))
  · rw [message]
    decide
  · apply (valued _).mpr
    refine .sequence (.cons (.zero (by decide)) (.cons (.present .absent) (.cons (.small ?_)
      (.cons .lentText .nil))))
    decide

end Value

end ColumnFilter
