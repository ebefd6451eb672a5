import ColumnFilter.Operator.Json
import ColumnFilter.Predicate.Basic
import ColumnFilter.Value.Json

set_option autoImplicit false

/-!
# Predicates and JSON

A predicate is written as an object with the names of its operators as keys. Reading one
refuses every other key.
-/

namespace ColumnFilter

namespace Predicate

instance : Json.Encodable Predicate where
  encode p := Json.encode (p.entries.map fun entry => (entry.1.name, entry.2))

/-- Decodes the entries of a map, each on top of those before it. A key that names no
operator is refused before its value is looked at. -/
def addInputs : List (String × Input) → Predicate → Except DecodeError Predicate
  | [], p => pure p
  | (key, input) :: rest, p => do
      let op ← Operator.ofKey key
      let target ← Value.ofInput input
      addInputs rest (p.insert op target)

def ofInput : Input → Except DecodeError Predicate
  | .map entries => addInputs entries empty
  | input => throw (.invalidType input.found .map)

/-- Decodes the members of an object while they are read, each on top of those before it.
A key that names no operator is refused before its value is read. -/
def readMembers (room : Nat) :
    List (Option String × Json.Document) → Predicate → Except Json.Error Predicate
  | [], p => pure p
  | (key, document) :: rest, p => do
      let key ← Json.readKey key
      let op ← (Operator.ofKey key).mapError .data
      let target ← Value.read room document
      readMembers room rest (p.insert op target)

/-- Decodes a document while it is read, with room for some more open containers. -/
def read : Nat → Json.Document → Except Json.Error Predicate
  | 0, .object _ _ => throw .malformed
  | room + 1, .object members closed => do
      let p ← readMembers room members empty
      if closed then pure p else throw .malformed
  | _, document => throw (document.mismatch .map)

def ofText (text : String) : Except Json.Error Predicate :=
  Json.decodeText (read Json.depthLimit) text

end Predicate

end ColumnFilter
