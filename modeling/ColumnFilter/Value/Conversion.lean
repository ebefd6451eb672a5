import ColumnFilter.Value.Basic

set_option autoImplicit false

/-!
# Values of other types

`ToValue` collects the types whose members are values by themselves. Integers arrive in
canonical form, what is absent is null, and lists convert item by item.
-/

namespace ColumnFilter

/-- Types that convert into values without loss. -/
class ToValue (α : Type) where
  toValue : α → Value

export ToValue (toValue)

instance : ToValue Value := ⟨id⟩

instance : ToValue Bool := ⟨.bool⟩

instance : ToValue Int64 := ⟨.int⟩

instance : ToValue Int32 := ⟨fun n => .int n.toInt64⟩

instance : ToValue UInt32 := ⟨fun n => .int n.toUInt64.toInt64⟩

instance : ToValue UInt64 := ⟨Value.ofUInt64⟩

instance : ToValue Float64 := ⟨.float⟩

instance : ToValue String := ⟨.text⟩

/-- What is absent is null. -/
instance {α : Type} [ToValue α] : ToValue (Option α) where
  toValue
    | none => .null
    | some a => toValue a

namespace Value

def ofItems {α : Type} [ToValue α] (items : List α) : Value :=
  .list (items.map toValue)

end Value

instance {α : Type} [ToValue α] : ToValue (List α) := ⟨Value.ofItems⟩

end ColumnFilter
