import ColumnFilter.Json.Basic

set_option autoImplicit false

/-!
# Decoder input

An `Input` is anything a decoder can be fed with, whatever format it comes from. JSON trees
are such input, but they have neither options nor numbers that are not finite.
-/

namespace ColumnFilter

/-- What a format hands to a decoder. -/
inductive Input where
  | unit
  | absent
  | present (content : Input)
  | bool (b : Bool)
  | signed (i : Int64)
  | unsigned (n : UInt64)
  | float (x : Binary64)
  /-- A text that the decoder has to copy. -/
  | lentText (s : String)
  /-- A text that the decoder may keep. -/
  | givenText (s : String)
  | sequence (items : List Input)
  | map (entries : List (String × Input))
  deriving Inhabited

/-- What a decoder finds in an input it cannot use. -/
def Input.found : Input → Found
  | .unit => .unit
  | .absent => .option
  | .present _ => .option
  | .bool b => .bool b
  | .signed i => .integer i.toInt
  | .unsigned n => .integer n.toNat
  | .float x => .float x
  | .lentText s => .text s
  | .givenText s => .text s
  | .sequence _ => .sequence
  | .map _ => .map

namespace Json

/-- A number as decoder input. Integers that are not negative come without a sign. -/
def Number.toInput : Number → Input
  | .integer i _ _ => if i < 0 then .signed (.ofInt i) else .unsigned (.ofNat i.toNat)
  | .float x _ => .float x

mutual

def toInput : Json → Input
  | .null => .unit
  | .bool b => .bool b
  | .number n => n.toInput
  | .string s => .givenText s
  | .array items => .sequence (toInputItems items)
  | .object members => .map (toInputMembers members)
termination_by structural json => json

def toInputItems : List Json → List Input
  | [] => []
  | item :: rest => toInput item :: toInputItems rest
termination_by structural items => items

/-- The values of some members as decoder input, under their keys. -/
def toInputMembers : List (String × Json) → List (String × Input)
  | [] => []
  | (key, value) :: rest => (key, toInput value) :: toInputMembers rest
termination_by structural members => members

end

end Json

end ColumnFilter
