import ColumnFilter.Json.Basic

set_option autoImplicit false

/-!
# Encoding as JSON

A type with a JSON form says once how it is encoded, as a program over the constructions
of an `Encoding`. There are two encodings: JSON trees, and compact JSON text, where no
blanks stand between the tokens.
-/

namespace ColumnFilter

/-- What JSON can be encoded into: a result for each construction of a tree. -/
class Json.Encoding (τ : Type) where
  null : τ
  bool : Bool → τ
  number : Json.Number → τ
  string : String → τ
  array : List τ → τ
  object : List (String × τ) → τ

class Json.Encodable (α : Type) where
  encode {τ : Type} [Json.Encoding τ] : α → τ

namespace Json

export Encodable (encode)

instance : Encoding Json where
  null := .null
  bool := .bool
  number := .number
  string := .string
  array := .array
  object := .object

/-- One character of a JSON string. Quotes, backslashes and controls are escaped, and
nothing else is. -/
def writeChar (c : Char) : List Char :=
  match c with
  | '"' => ['\\', '"']
  | '\\' => ['\\', '\\']
  | '\x08' => ['\\', 'b']
  | '\x0c' => ['\\', 'f']
  | '\n' => ['\\', 'n']
  | '\r' => ['\\', 'r']
  | '\t' => ['\\', 't']
  | c =>
      if c.toNat < 0x20 then
        ['\\', 'u', '0', '0', Nat.digitChar (c.toNat / 16), Nat.digitChar (c.toNat % 16)]
      else [c]

def writeString (s : String) : List Char :=
  '"' :: s.toList.flatMap writeChar ++ ['"']

def writeInt (i : Int) : List Char :=
  (if i < 0 then ['-'] else []) ++ Nat.toDigits 10 i.natAbs

/-- A number. A floating point number always carries a fraction or an exponent. -/
def Number.write : Number → List Char
  | .integer i _ _ => writeInt i
  | .float x _ => FloatFormat.json.write x

def writeMember (member : String × List Char) : List Char :=
  writeString member.1 ++ ':' :: member.2

/-- Encoding into compact text. -/
instance : Encoding (List Char) where
  null := ['n', 'u', 'l', 'l']
  bool b := if b then ['t', 'r', 'u', 'e'] else ['f', 'a', 'l', 's', 'e']
  number := Number.write
  string := writeString
  array items := '[' :: [','].intercalate items ++ [']']
  object members := '\x7b' :: [','].intercalate (members.map writeMember) ++ ['\x7d']

/-- The compact JSON text of anything with a JSON form. -/
def text {α : Type} [Encodable α] (a : α) : String :=
  String.ofList (encode a)

def tree {α : Type} [Encodable α] (a : α) : Json :=
  encode a

mutual

/-- A tree encodes as itself. -/
def encodeTree {τ : Type} [Encoding τ] : Json → τ
  | .null => Encoding.null
  | .bool b => Encoding.bool b
  | .number n => Encoding.number n
  | .string s => Encoding.string s
  | .array items => Encoding.array (encodeItems items)
  | .object members => Encoding.object (encodeMembers members)
termination_by structural json => json

def encodeItems {τ : Type} [Encoding τ] : List Json → List τ
  | [] => []
  | item :: rest => encodeTree item :: encodeItems rest
termination_by structural items => items

def encodeMembers {τ : Type} [Encoding τ] : List (String × Json) → List (String × τ)
  | [] => []
  | (key, value) :: rest => (key, encodeTree value) :: encodeMembers rest
termination_by structural members => members

end

instance : Encodable Json := ⟨encodeTree⟩

/-- Members encode as an object, in the order given. -/
instance {α : Type} [Encodable α] : Encodable (List (String × α)) where
  encode members := Encoding.object (members.map fun member => (member.1, encode member.2))

instance : Encodable UInt64 where
  encode n := Encoding.number (.ofUInt64 n)

end Json

end ColumnFilter
