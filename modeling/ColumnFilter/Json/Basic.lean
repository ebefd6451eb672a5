import ColumnFilter.DecodeError
import ColumnFilter.Float64.Basic

set_option autoImplicit false

/-!
# JSON trees

A JSON number is an integer between `-2 ^ 63` and `2 ^ 64 - 1` or a finite floating point
number. The members of an object are kept in the order of their keys; `Json.Ordered` says
so of a whole tree, and every tree read from a text satisfies it.
-/

namespace ColumnFilter

/-- An integer in range or a finite floating point number. -/
inductive Json.Number where
  | integer (i : Int) (lower : -0x8000000000000000 ≤ i) (upper : i < 0x10000000000000000)
  | float (x : Binary64) (finite : x.isFinite = true)
  deriving DecidableEq

inductive Json where
  | null
  | bool (b : Bool)
  | number (n : Json.Number)
  | string (s : String)
  | array (items : List Json)
  | object (members : List (String × Json))
  deriving Inhabited

namespace Json

/-- Why a JSON text does not decode: it is not JSON, or it is JSON of the wrong type. -/
inductive Error where
  | malformed
  | data (error : DecodeError)
  deriving DecidableEq

def Number.ofInt64 (i : Int64) : Number :=
  .integer i.toInt (by have := i.le_toInt; omega) (by have := i.toInt_lt; omega)

def Number.ofUInt64 (n : UInt64) : Number :=
  .integer n.toNat (by omega) (by have := n.toNat_lt; omega)

/-- The number of a finite floating point number. Others have none. -/
def Number.ofBinary64? (x : Binary64) : Option Number :=
  if finite : x.isFinite then some (.float x finite) else none

/-- The number as an integer with a sign, if it is one that fits. -/
def Number.int64? : Number → Option Int64
  | .integer i _ _ => if i < 0x8000000000000000 then some (.ofInt i) else none
  | .float _ _ => none

/-- The number as an integer without a sign, if it is one that fits. -/
def Number.uint64? : Number → Option UInt64
  | .integer i _ _ => if 0 ≤ i then some (.ofNat i.toNat) else none
  | .float _ _ => none

/-- The number as a floating point number. Integers are taken to the nearest. -/
def Number.toBinary64 : Number → Binary64
  | .integer i _ _ => .ofInt i
  | .float x _ => x

/-- What a decoder finds in a number it cannot use. -/
def Number.found : Number → Found
  | .integer i _ _ => .integer i
  | .float x _ => .float x

mutual

/-- How many containers are open at once at the deepest place of a tree. -/
def depth : Json → Nat
  | .array items => depthOfItems items + 1
  | .object members => depthOfMembers members + 1
  | _ => 0
termination_by structural json => json

def depthOfItems : List Json → Nat
  | [] => 0
  | item :: rest => max (depth item) (depthOfItems rest)
termination_by structural items => items

def depthOfMembers : List (String × Json) → Nat
  | [] => 0
  | (_, value) :: rest => max (depth value) (depthOfMembers rest)
termination_by structural members => members

end

mutual

/-- The keys of every object in the tree strictly increase. -/
def Ordered : Json → Prop
  | .array items => OrderedItems items
  | .object members =>
      (members.map Prod.fst).Pairwise (· < ·) ∧ OrderedMembers members
  | _ => True
termination_by structural json => json

def OrderedItems : List Json → Prop
  | [] => True
  | item :: rest => Ordered item ∧ OrderedItems rest
termination_by structural items => items

def OrderedMembers : List (String × Json) → Prop
  | [] => True
  | (_, value) :: rest => Ordered value ∧ OrderedMembers rest
termination_by structural members => members

end

end Json

end ColumnFilter
