import ColumnFilter.Filter.Clause
import ColumnFilter.Proofs.Members
import ColumnFilter.Proofs.Value.RoundTrip

set_option autoImplicit false

/-!
# Filters through text

The members of a written object come in key order, so reading them inserts each behind
those before it and rebuilds the map. A predicate, a filter and a clause each open one
object around what is inside them; that is all by which they differ in depth.
-/

namespace ColumnFilter

/-! ## Members -/

namespace Json

/-- The trees of the values of some members, under their keys. -/
def memberTrees {α : Type} [Encodable α] (members : List (String × α)) : List (String × Json) :=
  members.map fun member => (member.1, tree member.2)

theorem encode_members {α τ : Type} [Encodable α] [Encoding τ] {members : List (String × α)}
    (faithful : ∀ member ∈ members, (encode member.2 : τ) = encodeTree (tree member.2)) :
    (encode members : τ) = encodeTree (tree members) := by
  apply congrArg Encoding.object
  induction members with
  | nil => rfl
  | cons member rest ih =>
      have first := faithful member List.mem_cons_self
      have others := ih fun other later => faithful other (List.mem_cons_of_mem member later)
      rw [List.map_cons, first, others]
      rfl

theorem depthOfMembers_memberTrees_le {α : Type} [Encodable α] {members : List (String × α)}
    {room : Nat} (fit : ∀ member ∈ members, (tree member.2).depth ≤ room) :
    depthOfMembers (memberTrees members) ≤ room := by
  induction members with
  | nil => exact Nat.zero_le room
  | cons member rest ih =>
      have first := fit member List.mem_cons_self
      have others := ih fun other later => fit other (List.mem_cons_of_mem member later)
      exact Nat.max_le.mpr ⟨first, others⟩

end Json

/-! ## Predicates -/

namespace Predicate

/-- The floating point numbers in the targets. -/
def floats (p : Predicate) : List Float64 :=
  p.entries.flatMap fun entry => entry.2.floats

def named (entry : Operator × Value) : String × Value :=
  (entry.1.name, entry.2)

theorem encode_eq_encodeTree {τ : Type} [Json.Encoding τ] (p : Predicate) :
    (Json.encode p : τ) = Json.encodeTree (Json.tree p) :=
  Json.encode_members fun member _ => member.2.encode_eq_encodeTree

theorem text_tree (p : Predicate) : Json.text (Json.tree p) = Json.text p :=
  congrArg String.ofList p.encode_eq_encodeTree.symm

theorem foldl_insert_canonical (p : Predicate) :
    p.entries.foldl (fun before entry => before.insert entry.1 entry.2.canonical) empty =
      p.canonical := by
  have onTargets := KeyMap.foldl_insert_image Value.canonical p.targets
  rw [canonical, ← onTargets]
  exact List.foldl_hom Predicate.mk fun _ _ => rfl

theorem readMembers_documents {entries : List (Operator × Value)} (room : Nat)
    (back : ∀ entry ∈ entries, ∀ x ∈ entry.2.floats, x.ReadsBack) (before : Predicate) :
    readMembers room (Json.memberDocuments (Json.memberTrees (entries.map named))) before =
      Json.answerWithin room (Json.depthOfMembers (Json.memberTrees (entries.map named)))
        (entries.foldl (fun p entry => p.insert entry.1 entry.2.canonical) before) := by
  induction entries generalizing before with
  | nil => exact (Json.answerWithin_zero room before).symm
  | cons entry rest ih =>
      obtain ⟨op, target⟩ := entry
      have first := target.read_document (back (op, target) List.mem_cons_self) room
      have others := ih fun other later => back other (List.mem_cons_of_mem _ later)
      change (do
        let op ← (Operator.ofKey op.name).mapError Json.Error.data
        let target ← Value.read room (Json.tree target).document
        readMembers room (Json.memberDocuments (Json.memberTrees (rest.map named)))
          (before.insert op target)) = _
      rw [Operator.ofKey_eq_ok_iff.mpr (Operator.ofName?_name op)]
      simp only [first, others]
      exact Json.answerWithin_bind room _ _ _ _

/-- The document of a predicate's tree is read as the predicate in canonical form, unless
more containers are open than there is room for. -/
theorem read_document (p : Predicate) (back : ∀ x ∈ p.floats, x.ReadsBack) (room : Nat) :
    read room (Json.tree p).document =
      Json.answerWithin room (Json.tree p).depth p.canonical := by
  have inTargets : ∀ entry ∈ p.entries, ∀ x ∈ entry.2.floats, x.ReadsBack :=
    fun entry member x inside => back x (List.mem_flatMap.mpr ⟨entry, member, inside⟩)
  cases room with
  | zero => exact (Json.answerWithin_no_room _ _).symm
  | succ room =>
      have members := readMembers_documents room inTargets empty
      rw [foldl_insert_canonical] at members
      change (readMembers room (Json.memberDocuments (Json.memberTrees (p.entries.map named)))
        empty >>= pure) = Json.answerWithin (room + 1) (Json.depthOfMembers _ + 1) p.canonical
      rw [members, bind_pure, Json.answerWithin_succ]
      rfl

theorem readWithin_of_readMembers {members : List (Option String × Json.Document)} {room : Nat}
    {before p : Predicate} (answered : readMembers room members before = .ok p)
    (earlier : ∀ entry ∈ before.entries, Json.ReadWithin Value.canonical room entry.2) :
    ∀ entry ∈ p.entries, Json.ReadWithin Value.canonical room entry.2 := by
  induction members generalizing before with
  | nil =>
      cases answered
      exact earlier
  | cons member rest ih =>
      obtain ⟨_, _, answered⟩ := except_bind_eq_ok_iff.mp answered
      obtain ⟨op, _, answered⟩ := except_bind_eq_ok_iff.mp answered
      obtain ⟨target, decoded, answered⟩ := except_bind_eq_ok_iff.mp answered
      apply ih answered
      intro entry inserted
      cases KeyMap.mem_insertEntry inserted with
      | inl new =>
          rw [new]
          exact Value.readWithin_of_read _ decoded
      | inr old => exact earlier entry old

/-- A predicate that was read is in canonical form, and its tree fits into the room there
was. -/
theorem readWithin_of_read {room : Nat} {document : Json.Document} {p : Predicate}
    (answered : read room document = .ok p) : Json.ReadWithin canonical room p := by
  obtain ⟨inner, members, rfl, _, decoded⟩ := read_eq_ok_iff.mp answered
  have targets := readWithin_of_readMembers decoded fun entry inside => nomatch inside
  constructor
  · have fixed : p.targets.map Value.canonical = p.targets :=
      KeyMap.map_eq_self fun entry member => (targets entry member).fixed
    exact congrArg Predicate.mk fixed
  · refine Nat.succ_le_succ (Json.depthOfMembers_memberTrees_le ?_)
    intro member inside
    obtain ⟨entry, isTarget, rfl⟩ := List.mem_map.mp inside
    exact (targets entry isTarget).fits

end Predicate

/-! ## Filters -/

namespace Filter

def floats (f : Filter) : List Float64 :=
  f.entries.flatMap fun entry => entry.2.floats

theorem encode_eq_encodeTree {τ : Type} [Json.Encoding τ] (f : Filter) :
    (Json.encode f : τ) = Json.encodeTree (Json.tree f) :=
  Json.encode_members fun member _ => member.2.encode_eq_encodeTree

theorem text_tree (f : Filter) : Json.text (Json.tree f) = Json.text f :=
  congrArg String.ofList f.encode_eq_encodeTree.symm

theorem foldl_insert_canonical (f : Filter) :
    f.entries.foldl (fun before entry => before.insert entry.1 entry.2.canonical) empty =
      f.canonical := by
  have onColumns := KeyMap.foldl_insert_image Predicate.canonical f.columns
  rw [canonical, ← onColumns]
  exact List.foldl_hom Filter.mk fun _ _ => rfl

theorem readMembers_documents {entries : List (String × Predicate)} (room : Nat)
    (back : ∀ entry ∈ entries, ∀ x ∈ entry.2.floats, x.ReadsBack) (before : Filter) :
    readMembers room (Json.memberDocuments (Json.memberTrees entries)) before =
      Json.answerWithin room (Json.depthOfMembers (Json.memberTrees entries))
        (entries.foldl (fun f entry => f.insert entry.1 entry.2.canonical) before) := by
  induction entries generalizing before with
  | nil => exact (Json.answerWithin_zero room before).symm
  | cons entry rest ih =>
      obtain ⟨column, p⟩ := entry
      have first := p.read_document (back (column, p) List.mem_cons_self) room
      have others := ih fun other later => back other (List.mem_cons_of_mem _ later)
      change (do
        let p ← Predicate.read room (Json.tree p).document
        readMembers room (Json.memberDocuments (Json.memberTrees rest))
          (before.insert column p)) = _
      simp only [first, others]
      exact Json.answerWithin_bind room _ _ _ _

/-- The document of a filter's tree is read as the filter in canonical form, unless more
containers are open than there is room for. -/
theorem read_document (f : Filter) (back : ∀ x ∈ f.floats, x.ReadsBack) (room : Nat) :
    read room (Json.tree f).document =
      Json.answerWithin room (Json.tree f).depth f.canonical := by
  have inColumns : ∀ entry ∈ f.entries, ∀ x ∈ entry.2.floats, x.ReadsBack :=
    fun entry member x inside => back x (List.mem_flatMap.mpr ⟨entry, member, inside⟩)
  cases room with
  | zero => exact (Json.answerWithin_no_room _ _).symm
  | succ room =>
      have members := readMembers_documents room inColumns empty
      rw [foldl_insert_canonical] at members
      change (readMembers room (Json.memberDocuments (Json.memberTrees f.entries)) empty >>= pure) =
        Json.answerWithin (room + 1) (Json.depthOfMembers _ + 1) f.canonical
      rw [members, bind_pure, Json.answerWithin_succ]
      rfl

theorem readWithin_of_readMembers {members : List (Option String × Json.Document)} {room : Nat}
    {before f : Filter} (answered : readMembers room members before = .ok f)
    (earlier : ∀ entry ∈ before.entries, Json.ReadWithin Predicate.canonical room entry.2) :
    ∀ entry ∈ f.entries, Json.ReadWithin Predicate.canonical room entry.2 := by
  induction members generalizing before with
  | nil =>
      cases answered
      exact earlier
  | cons member rest ih =>
      obtain ⟨column, _, answered⟩ := except_bind_eq_ok_iff.mp answered
      obtain ⟨p, decoded, answered⟩ := except_bind_eq_ok_iff.mp answered
      apply ih answered
      intro entry inserted
      cases KeyMap.mem_insertEntry inserted with
      | inl new =>
          rw [new]
          exact Predicate.readWithin_of_read decoded
      | inr old => exact earlier entry old

theorem readWithin_of_read {room : Nat} {document : Json.Document} {f : Filter}
    (answered : read room document = .ok f) : Json.ReadWithin canonical room f := by
  obtain ⟨inner, members, rfl, _, decoded⟩ := read_eq_ok_iff.mp answered
  have columns := readWithin_of_readMembers decoded fun entry inside => nomatch inside
  constructor
  · have fixed : f.columns.map Predicate.canonical = f.columns :=
      KeyMap.map_eq_self fun entry member => (columns entry member).fixed
    exact congrArg Filter.mk fixed
  · exact Nat.succ_le_succ
      (Json.depthOfMembers_memberTrees_le fun member inside => (columns member inside).fits)

end Filter

/-! ## Clauses -/

namespace Clause

theorem encode_eq_encodeTree {τ : Type} [Json.Encoding τ] (clause : Clause) :
    (Json.encode clause : τ) = Json.encodeTree (Json.tree clause) := by
  have inside : (Json.encode clause.filter : τ) = Json.encodeTree (Json.tree clause.filter) :=
    clause.filter.encode_eq_encodeTree
  change Json.Encoding.object [("where", (Json.encode clause.filter : τ))] =
    Json.Encoding.object [("where", Json.encodeTree (Json.tree clause.filter))]
  rw [inside]

theorem text_tree (clause : Clause) : Json.text (Json.tree clause) = Json.text clause :=
  congrArg String.ofList clause.encode_eq_encodeTree.symm

theorem read_document (clause : Clause) (back : ∀ x ∈ clause.filter.floats, x.ReadsBack)
    (room : Nat) :
    read room (Json.tree clause).document =
      Json.answerWithin room (Json.tree clause).depth clause.canonical := by
  have deeper : (Json.tree clause).depth = (Json.tree clause.filter).depth + 1 :=
    congrArg (· + 1) (Nat.max_zero _)
  cases room with
  | zero => exact (Json.answerWithin_no_room _ _).symm
  | succ room =>
      have inner := clause.filter.read_document back room
      change (do
        let f ← Filter.read room (Json.tree clause.filter).document
        pure (Clause.mk f)) = _
      rw [inner, deeper, Json.answerWithin_succ]
      exact Json.answerWithin_bind_pure room _ _ Clause.mk

end Clause

/-! ## Round trips -/

namespace RoundTrip

theorem exists_document_of_decodeText {α : Type} {decode : Json.Document → Except Json.Error α}
    {text : String} {a : α} (answered : Json.decodeText decode text = .ok a) :
    ∃ document, decode document = .ok a := by
  obtain ⟨_, decoded⟩ := Json.decodeText_eq_ok_iff.mp answered
  exact ⟨_, decoded⟩

/-- A decoder is given the document of what was written, if text is the text of the tree. -/
theorem decodeText_written {α β : Type} [Json.Encodable α] {a : α}
    (decode : Json.Document → Except Json.Error β)
    (faithful : Json.text (Json.tree a) = Json.text a) :
    Json.decodeText decode (Json.text a) = decode (Json.tree a).document := by
  rw [← faithful, Json.decodeText_text]

theorem value_law (v : Value) (back : ∀ x ∈ v.floats, x.ReadsBack) :
    Value.ofText (Json.text v) =
      Json.answerWithin Json.depthLimit (Json.tree v).depth v.canonical :=
  (decodeText_written _ v.text_tree).trans (v.read_document back Json.depthLimit)

theorem predicate_law (p : Predicate) (back : ∀ x ∈ p.floats, x.ReadsBack) :
    Predicate.ofText (Json.text p) =
      Json.answerWithin Json.depthLimit (Json.tree p).depth p.canonical :=
  (decodeText_written _ p.text_tree).trans (p.read_document back Json.depthLimit)

theorem filter_law (f : Filter) (back : ∀ x ∈ f.floats, x.ReadsBack) :
    Filter.ofText (Json.text f) =
      Json.answerWithin Json.depthLimit (Json.tree f).depth f.canonical :=
  (decodeText_written _ f.text_tree).trans (f.read_document back Json.depthLimit)

theorem clause_law (clause : Clause) (back : ∀ x ∈ clause.filter.floats, x.ReadsBack) :
    Clause.ofText (Json.text clause) =
      Json.answerWithin Json.depthLimit (Json.tree clause).depth clause.canonical :=
  (decodeText_written _ clause.text_tree).trans (clause.read_document back Json.depthLimit)

theorem filter_of_readWithin {f : Filter} (back : ∀ x ∈ f.floats, x.ReadsBack)
    (settled : Json.ReadWithin Filter.canonical Json.depthLimit f) :
    Filter.ofText (Json.text f) = .ok f := by
  rw [filter_law f back, Json.answerWithin, if_pos settled.fits, settled.fixed]

/-- Compact text decodes into what was written, under the canonical integer rule, if at most
`Json.depthLimit` containers are open at once in it; otherwise it is refused as malformed. So
filters in canonical form come back as they are, among them all that were decoded before. The
floating point numbers have to read back from their own text. -/
theorem decodes_as_written :
    (∀ v : Value, (∀ x ∈ v.floats, x.ReadsBack) →
      Value.ofText (Json.text v) =
        if (Json.tree v).depth ≤ Json.depthLimit then .ok v.canonical else .error .malformed) ∧
    (∀ p : Predicate, (∀ x ∈ p.floats, x.ReadsBack) →
      Predicate.ofText (Json.text p) =
        if (Json.tree p).depth ≤ Json.depthLimit then .ok p.canonical else .error .malformed) ∧
    (∀ f : Filter, (∀ x ∈ f.floats, x.ReadsBack) →
      Filter.ofText (Json.text f) =
        if (Json.tree f).depth ≤ Json.depthLimit then .ok f.canonical else .error .malformed) ∧
    (∀ clause : Clause, (∀ x ∈ clause.filter.floats, x.ReadsBack) →
      Clause.ofText (Json.text clause) =
        if (Json.tree clause).depth ≤ Json.depthLimit then .ok clause.canonical
        else .error .malformed) ∧
    (∀ f : Filter, (∀ x ∈ f.floats, x.ReadsBack) → f.canonical = f →
      (Json.tree f).depth ≤ Json.depthLimit → Filter.ofText (Json.text f) = .ok f) ∧
    (∀ (text : String) (f : Filter), Filter.ofText text = .ok f →
      (∀ x ∈ f.floats, x.ReadsBack) → Filter.ofText (Json.text f) = .ok f) := by
  refine ⟨value_law, predicate_law, filter_law, clause_law, ?_, ?_⟩
  · intro f back fixed fits
    exact filter_of_readWithin back ⟨fixed, fits⟩
  · intro text f answered back
    obtain ⟨document, decoded⟩ := exists_document_of_decodeText answered
    exact filter_of_readWithin back (Filter.readWithin_of_read decoded)

theorem decodes_as_written_mixed_list :
    ∃ (p : Predicate) (f : Filter), f.floats ≠ [] ∧ f.canonical ≠ f ∧
      Predicate.ofText (Json.text p) = .ok p.canonical ∧
      Filter.ofText (Json.text f) = .ok f.canonical ∧
      Clause.ofText (Json.text (Clause.mk f)) = .ok ⟨f.canonical⟩ ∧
      Filter.ofText (Json.text f.canonical) = .ok f.canonical ∧
      Filter.ofText (Json.text (Filter.empty.insert "" .empty)) =
        .ok (Filter.empty.insert "" .empty) ∧
      Value.ofText (Json.text (Nat.repeat (fun v => Value.list [v]) 128 .null)) =
        .error .malformed := by
  obtain ⟨values, predicates, filters, clauses, settled, again⟩ := decodes_as_written
  let half : Float64 := .ofFinite ⟨0x3fe0000000000000⟩ (by decide)
  let p : Predicate := .ofList [(.equals, .uint 7), (.oneOf, .list [.float half, .int (-1)])]
  let f : Filter := .ofList [("", .empty), ("size", p)]
  have back : ∀ x ∈ f.floats, x.ReadsBack := by decide +kernel
  have written : Filter.ofText (Json.text f) = .ok f.canonical :=
    (filters f back).trans (if_pos (by decide))
  refine ⟨p, f, by decide, by decide, ?_, written, ?_, ?_, ?_, ?_⟩
  · exact (predicates p (by decide +kernel)).trans (if_pos (by decide))
  · exact (clauses ⟨f⟩ back).trans (if_pos (by decide))
  · exact again _ _ written (by decide +kernel)
  · exact settled _ (by decide) (by decide) (by decide)
  · exact (values _ (by decide +kernel)).trans (if_neg (by decide +kernel))

end RoundTrip

end ColumnFilter
