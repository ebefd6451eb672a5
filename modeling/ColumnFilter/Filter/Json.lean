import ColumnFilter.Filter.Basic
import ColumnFilter.Predicate.Json

set_option autoImplicit false

/-!
# Filters and JSON

A filter is written as an object with its columns as keys and their predicates as values.
-/

namespace ColumnFilter

namespace Filter

instance : Json.Encodable Filter where
  encode f := Json.encode f.entries

/-- Decodes the entries of a map, each on top of those before it. -/
def addInputs : List (String × Input) → Filter → Except DecodeError Filter
  | [], f => pure f
  | (column, input) :: rest, f => do
      let p ← Predicate.ofInput input
      addInputs rest (f.insert column p)

def ofInput : Input → Except DecodeError Filter
  | .map entries => addInputs entries empty
  | input => throw (.invalidType input.found .map)

def readMembers (room : Nat) :
    List (Option String × Json.Document) → Filter → Except Json.Error Filter
  | [], f => pure f
  | (key, document) :: rest, f => do
      let column ← Json.readKey key
      let p ← Predicate.read room document
      readMembers room rest (f.insert column p)

/-- Decodes a document while it is read, with room for some more open containers. -/
def read : Nat → Json.Document → Except Json.Error Filter
  | 0, .object _ _ => throw .malformed
  | room + 1, .object members closed => do
      let f ← readMembers room members empty
      if closed then pure f else throw .malformed
  | _, document => throw (document.mismatch .map)

def ofText (text : String) : Except Json.Error Filter :=
  Json.decodeText (read Json.depthLimit) text

end Filter

end ColumnFilter
