import ColumnFilter.Json.Document
import ColumnFilter.KeyMap

set_option autoImplicit false

/-!
# Reading JSON trees

A document is read as a tree if it is complete, its numbers and strings have a meaning and
it is not nested too deeply. Of members with one key the last stays, and the members of an
object are put in key order.
-/

namespace ColumnFilter.Json

/-- The key of a member, unless it names half of a surrogate pair. -/
def readKey : Option String → Except Error String
  | some key => pure key
  | none => throw .malformed

mutual

/-- The tree of a document in which at most `room` containers are open at once. -/
def read : Nat → Document → Except Error Json
  | _, .null => pure .null
  | _, .bool b => pure (.bool b)
  | _, .numeral n =>
      match n.number? with
      | some exact => pure (.number exact)
      | none => throw .malformed
  | _, .string s => .string <$> readKey s
  | 0, .array _ _ => throw .malformed
  | 0, .object _ _ => throw .malformed
  | room + 1, .array items closed => do
      let items ← readItems room items
      if closed then pure (.array items) else throw .malformed
  | room + 1, .object members closed => do
      let members ← readMembers room members .empty
      if closed then pure (.object members.entries) else throw .malformed
  | _, .broken => throw .malformed
termination_by structural _ document => document

def readItems (room : Nat) : List Document → Except Error (List Json)
  | [] => pure []
  | item :: rest => do
      let item ← read room item
      let rest ← readItems room rest
      pure (item :: rest)
termination_by structural items => items

def readMembers (room : Nat) :
    List (Option String × Document) → KeyMap String Json → Except Error (KeyMap String Json)
  | [], before => pure before
  | (key, value) :: rest, before => do
      let key ← readKey key
      let value ← read room value
      readMembers room rest (before.insert key value)
termination_by structural members => members

end

def ofText (text : String) : Except Error Json :=
  decodeText (read depthLimit) text

end ColumnFilter.Json
