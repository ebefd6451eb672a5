import ColumnFilter.Json.Token

set_option autoImplicit false

/-!
# JSON documents

A `Document` is a text as far as it follows the grammar of JSON: a tree in which every
container tells whether its closing bracket was reached, and in which `broken` stands where
a value should have been. Nothing follows the first broken place, so a decoder that walks
a document meets the problems of the text in the order in which they are written.

`Document.scan` builds documents one token at a time. Its state is the stage within the
innermost container and a frame for each container around it.
-/

namespace ColumnFilter.Json

/-- A text as far as it is JSON. -/
inductive Document where
  | null
  | bool (b : Bool)
  | numeral (n : Numeral)
  | string (s : Option String)
  | array (items : List Document) (closed : Bool)
  | object (members : List (Option String × Document)) (closed : Bool)
  | broken

/-- A container around the place that is read, with what came before that place, the
latest first. -/
inductive Frame where
  | array (before : List Document)
  | object (before : List (Option String × Document)) (key : Option String)

/-- What is to be read next. -/
inductive Stage where
  | value
  /-- The first item of an array, or its end. -/
  | firstItem
  /-- The first key of an object, or its end. -/
  | firstKey
  /-- The key after a comma. -/
  | key (before : List (Option String × Document))
  /-- The colon after a key. -/
  | colon (before : List (Option String × Document)) (key : Option String)
  /-- What may follow a value. -/
  | done (document : Document)

namespace Document

/-- The stage after a token that starts a value. -/
def start? : Token → Option Stage
  | .null => some (.done .null)
  | .bool b => some (.done (.bool b))
  | .numeral n => some (.done (.numeral n))
  | .string s => some (.done (.string s))
  | .openArray => some .firstItem
  | .openObject => some .firstKey
  | _ => none

/-- The stage and the frames after one more token, if the grammar allows it. -/
def step? (token : Token) : Stage → List Frame → Option (Stage × List Frame)
  | .value, frames => (start? token).map (·, frames)
  | .firstItem, frames =>
      if token = .closeArray then some (.done (.array [] true), frames)
      else (start? token).map (·, .array [] :: frames)
  | .firstKey, frames =>
      match token with
      | .closeObject => some (.done (.object [] true), frames)
      | .string key => some (.colon [] key, frames)
      | _ => none
  | .key before, frames =>
      match token with
      | .string key => some (.colon before key, frames)
      | _ => none
  | .colon before key, frames =>
      if token = .colon then some (.value, .object before key :: frames) else none
  | .done document, .array before :: frames =>
      match token with
      | .comma => some (.value, .array (document :: before) :: frames)
      | .closeArray => some (.done (.array (document :: before).reverse true), frames)
      | _ => none
  | .done document, .object before key :: frames =>
      match token with
      | .comma => some (.key ((key, document) :: before), frames)
      | .closeObject => some (.done (.object ((key, document) :: before).reverse true), frames)
      | _ => none
  | .done _, [] => none

/-- What stands at the current place if nothing more can be read. -/
def cutOff : Stage → Document
  | .value => .broken
  | .firstItem => .array [] false
  | .firstKey => .object [] false
  | .key before => .object before.reverse false
  | .colon before key => .object ((key, .broken) :: before).reverse false
  | .done document => document

/-- The document around a place after which nothing more can be read. -/
def unclosed (document : Document) : List Frame → Document
  | [] => document
  | .array before :: frames => unclosed (.array (document :: before).reverse false) frames
  | .object before key :: frames =>
      unclosed (.object ((key, document) :: before).reverse false) frames

/-- Reads a document, and answers what follows it. -/
def scan : List Token → Stage → List Frame → Document × List Token
  | tokens, .done document, [] => (document, tokens)
  | [], stage, frames => (unclosed (cutOff stage) frames, [])
  | token :: tokens, stage, frames =>
      match step? token stage frames with
      | some (next, around) => scan tokens next around
      | none => (unclosed (cutOff stage) frames, [])

/-- The document at the start of a text, and the tokens that follow it. -/
def ofText (text : String) : Document × List Token :=
  scan (Token.lex text.toList) .value []

mutual

/-- True of documents without a broken place. Numbers of any size, strings with half of a
surrogate pair and any depth of nesting are allowed. -/
def isComplete : Document → Bool
  | .array items closed => areComplete items && closed
  | .object members closed => membersComplete members && closed
  | .broken => false
  | _ => true
termination_by structural document => document

def areComplete : List Document → Bool
  | [] => true
  | item :: rest => isComplete item && areComplete rest
termination_by structural items => items

def membersComplete : List (Option String × Document) → Bool
  | [] => true
  | (_, value) :: rest => isComplete value && membersComplete rest
termination_by structural members => members

end

/-- The error of a decoder that cannot use a document. A scalar is read to its end before
its type is at fault, but a container is refused at its bracket. -/
def mismatch (expected : Expected) : Document → Error
  | .null => .data (.invalidType .unit expected)
  | .bool b => .data (.invalidType (.bool b) expected)
  | .numeral n =>
      match n.number? with
      | some exact => .data (.invalidType exact.found expected)
      | none => .malformed
  | .string (some s) => .data (.invalidType (.text s) expected)
  | .string none => .malformed
  | .array _ _ => .data (.invalidType .sequence expected)
  | .object _ _ => .data (.invalidType .map expected)
  | .broken => .malformed

end Document

/-- How many containers may be open at once in a text that is decoded. -/
def depthLimit : Nat := 127

/-- Decodes a text through its document. Once the document has been decoded nothing may
follow it. -/
def decodeText {α : Type} (decode : Document → Except Error α) (text : String) :
    Except Error α :=
  match Document.ofText text with
  | (document, rest) => do
      let result ← decode document
      if rest.isEmpty then pure result else throw .malformed

end ColumnFilter.Json
