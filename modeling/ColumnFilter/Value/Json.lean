import ColumnFilter.FilterError
import ColumnFilter.Float64.Json
import ColumnFilter.Input
import ColumnFilter.Json.Reading
import ColumnFilter.Value.Basic

set_option autoImplicit false

/-!
# Values and JSON

Values are written as bare JSON scalars and arrays. There are two ways into JSON: `toJson`
builds a tree by itself, and the `Json.Encodable` instance serves trees and text alike.
There are three ways back: `ofJson` converts a tree, `ofInput` decodes a tree or any other
input, and `read` decodes a text while it is read. All follow the canonical integer rule.
-/

namespace ColumnFilter

namespace Value

mutual

def toJson : Value → Json
  | .null => .null
  | .bool b => .bool b
  | .int i => .number (.ofInt64 i)
  | .uint n => .number (.ofUInt64 n)
  | .float x =>
      match Json.Number.ofBinary64? x.toBinary64 with
      | some n => .number n
      | none => .null
  | .text s => .string s
  | .list items => .array (toJsonItems items)
termination_by structural value => value

def toJsonItems : List Value → List Json
  | [] => []
  | item :: rest => toJson item :: toJsonItems rest
termination_by structural items => items

end

mutual

/-- The encoding of a value: scalars as they are, lists as arrays. -/
def encode {τ : Type} [Json.Encoding τ] : Value → τ
  | .null => Json.Encoding.null
  | .bool b => Json.Encoding.bool b
  | .int i => Json.Encoding.number (.ofInt64 i)
  | .uint n => Json.Encoding.number (.ofUInt64 n)
  | .float x => Json.encode x
  | .text s => Json.Encoding.string s
  | .list items => Json.Encoding.array (encodeItems items)
termination_by structural value => value

def encodeItems {τ : Type} [Json.Encoding τ] : List Value → List τ
  | [] => []
  | item :: rest => encode item :: encodeItems rest
termination_by structural items => items

end

instance : Json.Encodable Value := ⟨encode⟩

def ofNumber : Json.Number → Value
  | .integer i _ _ =>
      if i < 0x8000000000000000 then .int (.ofInt i) else ofUInt64 (.ofNat i.toNat)
  | .float x finite => .float (.ofFinite x finite)

/-- Converts a number of a JSON tree: into an integer where it is one that fits, and else into
a floating point number, which must be finite. -/
def convertNumber (n : Json.Number) : Except FilterError Value :=
  match n.int64? with
  | some i => pure (.int i)
  | none =>
      match n.uint64? with
      | some u => pure (ofUInt64 u)
      | none =>
          match Float64.ofBinary64? n.toBinary64 with
          | some x => pure (.float x)
          | none => throw (.unsupportedValue (.number n))

mutual

/-- Converts a JSON tree. Objects have no value. -/
def ofJson : Json → Except FilterError Value
  | .null => pure .null
  | .bool b => pure (.bool b)
  | .number n => convertNumber n
  | .string s => pure (.text s)
  | .array items => .list <$> ofJsonItems items
  | .object _ => throw (.unsupportedValue .object)
termination_by structural json => json

def ofJsonItems : List Json → Except FilterError (List Value)
  | [] => pure []
  | item :: rest => do
      let item ← ofJson item
      let rest ← ofJsonItems rest
      pure (item :: rest)
termination_by structural items => items

end

/-- The value of a floating point number, which must be finite. -/
def ofBinary64 (x : Binary64) : Except FilterError Value :=
  match Float64.ofBinary64? x with
  | some x => pure (.float x)
  | none => throw (.unsupportedValue (.nonFinite x))

mutual

/-- Decodes any input. Options stand for their content, or for null. Maps and numbers that
are not finite are refused. -/
def ofInput : Input → Except DecodeError Value
  | .unit => pure .null
  | .absent => pure .null
  | .present content => ofInput content
  | .bool b => pure (.bool b)
  | .signed i => pure (.int i)
  | .unsigned n => pure (ofUInt64 n)
  | .float x =>
      match Float64.ofBinary64? x with
      | some x => pure (.float x)
      | none => throw (.nonFinite x)
  | .lentText s => pure (.text s)
  | .givenText s => pure (.text s)
  | .sequence items => .list <$> ofInputs items
  | .map _ => throw (.invalidType .map .value)
termination_by structural input => input

def ofInputs : List Input → Except DecodeError (List Value)
  | [] => pure []
  | item :: rest => do
      let item ← ofInput item
      let rest ← ofInputs rest
      pure (item :: rest)
termination_by structural items => items

end

mutual

/-- Decodes a document while it is read, with room for some more open containers. An
object is refused at its bracket. -/
def read : Nat → Json.Document → Except Json.Error Value
  | _, .null => pure .null
  | _, .bool b => pure (.bool b)
  | _, .numeral n =>
      match n.number? with
      | some exact => pure (ofNumber exact)
      | none => throw .malformed
  | _, .string s => .text <$> Json.readKey s
  | 0, .array _ _ => throw .malformed
  | 0, .object _ _ => throw .malformed
  | room + 1, .array items closed => do
      let items ← readItems room items
      if closed then pure (.list items) else throw .malformed
  | _ + 1, .object _ _ => throw (.data (.invalidType .map .value))
  | _, .broken => throw .malformed
termination_by structural _ document => document

def readItems (room : Nat) : List Json.Document → Except Json.Error (List Value)
  | [] => pure []
  | item :: rest => do
      let item ← read room item
      let rest ← readItems room rest
      pure (item :: rest)
termination_by structural items => items

end

def ofText (text : String) : Except Json.Error Value :=
  Json.decodeText (read Json.depthLimit) text

end Value

end ColumnFilter
