import ColumnFilter.Float64.Basic
import ColumnFilter.Input
import ColumnFilter.Json.Document
import ColumnFilter.Json.Encoding

set_option autoImplicit false

/-!
# Floating point numbers and JSON

A floating point number is written as a JSON number, and any JSON number is read as one.
-/

namespace ColumnFilter

namespace Float64

instance : Json.Encodable Float64 where
  encode x := Json.Encoding.number (.float x.toBinary64 x.finite)

/-- Decodes a number. Integers are taken to the nearest floating point number. -/
def ofInput : Input → Except DecodeError Float64
  | .signed i => finite (.ofInt i.toInt)
  | .unsigned n => finite (.ofInt n.toNat)
  | .float x => finite x
  | input => throw (.invalidType input.found .float)
where
  finite (x : Binary64) : Except DecodeError Float64 :=
    match ofBinary64? x with
    | some x => pure x
    | none => throw .nonFinitePayload

def read (document : Json.Document) : Except Json.Error Float64 :=
  match document with
  | .numeral n =>
      match n.number? with
      | some exact => (ofInput exact.toInput).mapError .data
      | none => throw .malformed
  | document => throw (document.mismatch .float)

def ofText (text : String) : Except Json.Error Float64 :=
  Json.decodeText read text

end Float64

end ColumnFilter
