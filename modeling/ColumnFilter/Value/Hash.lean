import ColumnFilter.Value.Basic
import Std.Data.HashSet

set_option autoImplicit false

/-!
# Hashing values

Equal values hash alike: a value is hashed through `hashInput`, which lists its kind and
its contents as words, down to the items of nested lists.
-/

namespace ColumnFilter

/-- The place of a kind in the order of declaration, by which its values are hashed. -/
def ValueKind.place (kind : ValueKind) : UInt64 := .ofNat kind.ctorIdx

namespace Value

mutual

/-- The words a value contributes to its hash. -/
def hashInput : Value → List UInt64
  | .null => [ValueKind.null.place]
  | .bool b => [ValueKind.bool.place, if b then 1 else 0]
  | .int i => [ValueKind.int.place, i.toUInt64]
  | .uint n => [ValueKind.uint.place, n]
  | .float x => [ValueKind.float.place, x.bits]
  | .text s => ValueKind.text.place :: s.toUTF8.toList.map UInt8.toUInt64 ++ [0xff]
  | .list items =>
      ValueKind.list.place :: UInt64.ofNat items.length :: hashInputItems items
termination_by structural value => value

def hashInputItems : List Value → List UInt64
  | [] => []
  | item :: rest => hashInput item ++ hashInputItems rest
termination_by structural items => items

end

instance : Hashable Value := ⟨fun value => hash value.hashInput⟩

/-- The positions at which a list shows a value for the first time. -/
def firstOccurrences (values : List Value) : List Nat :=
  let step := fun (seen : Std.HashSet Value × List Nat) (entry : Value × Nat) =>
    if seen.1.contains entry.1 then seen
    else (seen.1.insert entry.1, entry.2 :: seen.2)
  (values.zipIdx.foldl step (∅, [])).2.reverse

end Value

end ColumnFilter
