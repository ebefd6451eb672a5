import ColumnFilter.Json.Numeral
import ColumnFilter.Json.Piece

set_option autoImplicit false

/-!
# JSON tokens

`Token.lex` cuts a text into JSON tokens, up to the first place where no token starts.
Numerals may be too large for a number, and strings may have no reading; that is for those
who use the tokens to decide.
-/

namespace ColumnFilter.Json

/-- A token of JSON. A string holds its characters if it has any reading. -/
inductive Token where
  | null
  | bool (b : Bool)
  | numeral (n : Numeral)
  | string (s : Option String)
  | openArray
  | closeArray
  | openObject
  | closeObject
  | comma
  | colon
  | invalid
  deriving DecidableEq

namespace Token

def isBlank (c : Char) : Bool :=
  c == ' ' || c == '\t' || c == '\n' || c == '\r'

/-- A token that is spelled out. -/
def lexWord (token : Token) (word text : List Char) : Token × List Char :=
  if word.isPrefixOf text then (token, text.drop word.length) else (.invalid, [])

/-- The token that starts with a character, and what follows it. Nothing follows an
invalid token. -/
def next (first : Char) (text : List Char) : Token × List Char :=
  match first with
  | '[' => (.openArray, text)
  | ']' => (.closeArray, text)
  | '\x7b' => (.openObject, text)
  | '\x7d' => (.closeObject, text)
  | ',' => (.comma, text)
  | ':' => (.colon, text)
  | 'n' => lexWord .null ['u', 'l', 'l'] text
  | 't' => lexWord (.bool true) ['r', 'u', 'e'] text
  | 'f' => lexWord (.bool false) ['a', 'l', 's', 'e'] text
  | '"' =>
      match Piece.lex? text with
      | some (pieces, rest) => (.string ((Piece.chars? pieces).map String.ofList), rest)
      | none => (.invalid, [])
  | first =>
      match Numeral.lex? (first :: text) with
      | some (n, rest) => (.numeral n, rest)
      | none => (.invalid, [])

theorem next_length (first : Char) (text : List Char) :
    (next first text).2.length ≤ text.length := by
  have word : ∀ token letters, (lexWord token letters text).2.length ≤ text.length := by
    intro token letters
    unfold lexWord
    split <;> simp
  unfold next
  split <;> try exact Nat.le_refl _
  · exact word _ _
  · exact word _ _
  · exact word _ _
  · split
    next lexed => exact Nat.le_of_lt (Piece.lex?_length lexed)
    · simp
  · split
    next lexed => exact Nat.le_of_lt_succ (Numeral.lex?_length lexed)
    · simp

/-- The tokens of a text. None follows an invalid one. -/
def lex : List Char → List Token
  | [] => []
  | c :: text =>
      if isBlank c then lex text
      else (next c text).1 :: lex (next c text).2
termination_by text => text.length
decreasing_by
  · simp
  · exact Nat.lt_succ_of_le (next_length c text)

end Token

end ColumnFilter.Json
