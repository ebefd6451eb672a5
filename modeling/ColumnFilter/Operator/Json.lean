import ColumnFilter.FilterError
import ColumnFilter.Json.Document
import ColumnFilter.Json.Encoding
import ColumnFilter.Json.Reading
import ColumnFilter.Operator.Basic

set_option autoImplicit false

/-!
# Operators and JSON

An operator is written as its name. It is read from its name, as a string or as a key, and
also from an object that holds null under its name.
-/

namespace ColumnFilter

namespace Operator

instance : Json.Encodable Operator where
  encode op := Json.Encoding.string op.name

def ofKey (key : String) : Except DecodeError Operator :=
  match ofName? key with
  | some op => pure op
  | none => throw (.unknownOperator key)

/-- The operator with a name, for input from outside. -/
def parse (name : String) : Except FilterError Operator :=
  match ofName? name with
  | some op => pure op
  | none => throw (.unknownOperator name)

/-- Decodes a text that is the name of an operator, or an object whose only key names one
and holds null. -/
def ofTokens : List Json.Token → Except Json.Error (Operator × List Json.Token)
  | .string name :: rest => do
      let op ← named name
      pure (op, rest)
  | .openObject :: .string name :: rest => do
      let op ← named name
      match rest with
      | .colon :: .null :: .closeObject :: rest => pure (op, rest)
      | .colon :: .null :: _ => throw .malformed
      | .colon :: token :: _ => throw (notNull token)
      | _ => throw .malformed
  | _ => throw .malformed
where
  named (name : Option String) : Except Json.Error Operator := do
    (ofKey (← Json.readKey name)).mapError .data
  /-- The error of a token that stands where null should. Only a token that starts a value
  has a type. -/
  notNull (token : Json.Token) : Json.Error :=
    match Json.Document.start? token with
    | some stage => (Json.Document.cutOff stage).mismatch .unit
    | none => .malformed

def ofText (text : String) : Except Json.Error Operator := do
  let (op, rest) ← ofTokens (Json.Token.lex text.toList)
  if rest.isEmpty then pure op else throw .malformed

end Operator

end ColumnFilter
