import ColumnFilter.Filter.Basic
import ColumnFilter.Proofs.KeyMap

set_option autoImplicit false

/-!
# The canonical integer rule

A value follows the rule if no integer without a sign stands in it, at any depth, that would
fit an integer with a sign. These are the values that the rule leaves as they are, and
predicates and filters follow it by their targets.
-/

namespace ColumnFilter

namespace Value

/-- The first value stands somewhere in the second, at any depth. -/
inductive Within (inner : Value) : Value → Prop where
  | self : Within inner inner
  | item {items : List Value} {item : Value} :
      item ∈ items → Within inner item → Within inner (.list items)

/-- Every integer without a sign in the value is too large for one with a sign. -/
def IsCanonical (v : Value) : Prop :=
  ∀ n, Within (.uint n) v → 0x8000000000000000 ≤ n.toNat

theorem isCanonical_uint_iff {n : UInt64} :
    IsCanonical (.uint n) ↔ 0x8000000000000000 ≤ n.toNat := by
  constructor
  · intro settled
    exact settled n .self
  · intro large other within
    cases within with
    | self => exact large

theorem isCanonical_list_iff {items : List Value} :
    IsCanonical (.list items) ↔ ∀ item ∈ items, IsCanonical item := by
  constructor
  · intro settled item member n within
    exact settled n (.item member within)
  · intro settled n within
    cases within with
    | item member within => exact settled _ member n within

theorem canonical_uint_iff {n : UInt64} :
    canonical (.uint n) = .uint n ↔ IsCanonical (.uint n) := by
  rw [isCanonical_uint_iff, canonical, ofUInt64]
  split
  next small => exact ⟨nofun, fun large => absurd small (Nat.not_lt.mpr large)⟩
  next large => exact ⟨fun _ => Nat.not_lt.mp large, fun _ => rfl⟩

mutual

/-- The rule leaves exactly the values that follow it as they are. -/
theorem canonical_eq_self_iff : ∀ v : Value, v.canonical = v ↔ v.IsCanonical
  | .uint _ => canonical_uint_iff
  | .list items => by
      rw [isCanonical_list_iff, ← canonicalItems_eq_self_iff items, canonical]
      exact ⟨Value.list.inj, congrArg Value.list⟩
  | .null | .bool _ | .int _ | .float _ | .text _ => ⟨fun _ => nofun, fun _ => rfl⟩

theorem canonicalItems_eq_self_iff : ∀ items : List Value,
    canonicalItems items = items ↔ ∀ item ∈ items, item.IsCanonical
  | [] => ⟨fun _ => nofun, fun _ => rfl⟩
  | item :: rest => by
      rw [List.forall_mem_cons, ← canonical_eq_self_iff item, ← canonicalItems_eq_self_iff rest,
        canonicalItems, List.cons.injEq]

end

instance (v : Value) : Decidable v.IsCanonical :=
  decidable_of_iff _ (canonical_eq_self_iff v)

end Value

theorem Predicate.canonical_eq_self {p : Predicate}
    (settled : ∀ entry ∈ p.entries, entry.2.IsCanonical) : p.canonical = p := by
  apply congrArg Predicate.mk
  apply KeyMap.map_eq_self
  intro entry member
  exact (Value.canonical_eq_self_iff entry.2).mpr (settled entry member)

theorem Filter.canonical_eq_self {f : Filter}
    (settled : ∀ term ∈ f.terms, term.target.IsCanonical) : f.canonical = f := by
  apply congrArg Filter.mk
  apply KeyMap.map_eq_self
  intro column member
  apply Predicate.canonical_eq_self
  intro entry isTarget
  exact settled ⟨column.1, entry.1, entry.2⟩
    (List.mem_flatMap.mpr ⟨column, member, List.mem_map_of_mem isTarget⟩)

end ColumnFilter
