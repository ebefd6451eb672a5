import ColumnFilter.Filter.Json

set_option autoImplicit false

/-!
# Where clauses

A `Clause` is a filter in the envelope in which it is sent: an object with the filter under
the key `where`. Other members of the envelope are passed over.
-/

namespace ColumnFilter

structure Clause where
  filter : Filter
  deriving DecidableEq, Inhabited

namespace Clause

def canonical (clause : Clause) : Clause :=
  ⟨clause.filter.canonical⟩

instance : Json.Encodable Clause where
  encode clause := Json.Encoding.object [("where", Json.encode clause.filter)]

/-- Decodes the entries of a map, given the filter found before. Entries under other keys
are passed over. -/
def addInputs : List (String × Input) → Option Filter → Except DecodeError Clause
  | [], some f => pure ⟨f⟩
  | [], none => throw .missingWhere
  | (key, input) :: rest, before =>
      if key = "where" then
        match before with
        | some _ => throw .repeatedWhere
        | none => do addInputs rest (some (← Filter.ofInput input))
      else addInputs rest before

/-- Decodes a map with the filter under `where`, or a sequence that starts with the
filter. Further items are left unread. A format that lets none go unread, such as JSON in trees
and in texts, refuses a sequence of several by itself. -/
def ofInput : Input → Except DecodeError Clause
  | .map entries => addInputs entries none
  | .sequence [] => throw .emptyClause
  | .sequence (item :: _) => Clause.mk <$> Filter.ofInput item
  | input => throw (.invalidType input.found .clause)

/-- Decodes the members of an object while they are read, given the filter found before.
Of members under other keys only the syntax matters. A second `where` is refused before
its value is read. -/
def readMembers (room : Nat) (closed : Bool) :
    List (Option String × Json.Document) → Option Filter → Except Json.Error Clause
  | [], before =>
      if closed then
        match before with
        | some f => pure ⟨f⟩
        | none => throw (.data .missingWhere)
      else throw .malformed
  | (key, document) :: rest, before => do
      if (← Json.readKey key) = "where" then
        match before with
        | some _ => throw (.data .repeatedWhere)
        | none => do readMembers room closed rest (some (← Filter.read room document))
      else if document.isComplete then readMembers room closed rest before
      else throw .malformed

/-- Decodes a document while it is read, with room for some more open containers. An array
of the filter alone will do for the envelope. -/
def read : Nat → Json.Document → Except Json.Error Clause
  | 0, .object _ _ => throw .malformed
  | 0, .array _ _ => throw .malformed
  | room + 1, .object members closed => readMembers room closed members none
  | _ + 1, .array [] closed => throw (if closed then .data .emptyClause else .malformed)
  | room + 1, .array (item :: rest) closed => do
      let f ← Filter.read room item
      if rest.isEmpty && closed then pure ⟨f⟩ else throw .malformed
  | _, document => throw (document.mismatch .clause)

def ofText (text : String) : Except Json.Error Clause :=
  Json.decodeText (read Json.depthLimit) text

end Clause

end ColumnFilter
