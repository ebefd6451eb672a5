set_option autoImplicit false

/-!
# The contents of JSON strings

A string is read in two steps. `Piece.lex?` cuts it into characters and escaped code units,
up to the closing quote; `Piece.chars?` joins the code units that are halves of a surrogate
pair. Half of a pair alone has no meaning, although the grammar allows it.
-/

namespace ColumnFilter.Json

/-- A piece of a JSON string: a character, or a code unit of sixteen bits. -/
inductive Piece where
  | char (c : Char)
  | unit (code : Nat)

namespace Piece

def hexDigit? (c : Char) : Option Nat :=
  if c.isDigit then some (c.toNat - '0'.toNat)
  else if 'a' ≤ c ∧ c ≤ 'f' then some (c.toNat - 'a'.toNat + 10)
  else if 'A' ≤ c ∧ c ≤ 'F' then some (c.toNat - 'A'.toNat + 10)
  else none

/-- The code unit written with four hexadecimal digits. -/
def hexUnit? (a b c d : Char) : Option Nat := do
  pure (0x1000 * (← hexDigit? a) + 0x100 * (← hexDigit? b) + 0x10 * (← hexDigit? c) +
    (← hexDigit? d))

/-- The character that a backslash and one other character stand for. -/
def escaped? : Char → Option Char
  | '"' => some '"'
  | '\\' => some '\\'
  | '/' => some '/'
  | 'b' => some '\x08'
  | 'f' => some '\x0c'
  | 'n' => some '\n'
  | 'r' => some '\r'
  | 't' => some '\t'
  | _ => none

/-- The pieces up to the closing quote, and what follows it. -/
def lex? : List Char → Option (List Piece × List Char)
  | [] => none
  | '"' :: rest => some ([], rest)
  | '\\' :: 'u' :: a :: b :: c :: d :: text => do
      let code ← hexUnit? a b c d
      let (pieces, rest) ← lex? text
      pure (.unit code :: pieces, rest)
  | '\\' :: c :: text => do
      let c ← escaped? c
      let (pieces, rest) ← lex? text
      pure (.char c :: pieces, rest)
  | c :: text =>
      if c.toNat < 0x20 then none
      else do
        let (pieces, rest) ← lex? text
        pure (.char c :: pieces, rest)

theorem lex?_length {text rest : List Char} {pieces : List Piece}
    (lexed : lex? text = some (pieces, rest)) : rest.length < text.length := by
  fun_induction lex? text generalizing pieces rest with
  | case1 => simp at lexed
  | case2 after =>
      obtain ⟨rfl, rfl⟩ := by simpa using lexed
      simp
  | case3 a b c d text ih =>
      obtain ⟨code, _, lexed⟩ := Option.bind_eq_some_iff.mp lexed
      obtain ⟨⟨later, after⟩, laterLexed, result⟩ := Option.bind_eq_some_iff.mp lexed
      obtain ⟨rfl, rfl⟩ := by simpa using result
      have := ih laterLexed
      simp only [List.length_cons]
      omega
  | case4 c text _ ih =>
      obtain ⟨code, _, lexed⟩ := Option.bind_eq_some_iff.mp lexed
      obtain ⟨⟨later, after⟩, laterLexed, result⟩ := Option.bind_eq_some_iff.mp lexed
      obtain ⟨rfl, rfl⟩ := by simpa using result
      have := ih laterLexed
      simp only [List.length_cons]
      omega
  | case5 => simp at lexed
  | case6 c text _ _ _ _ ih =>
      obtain ⟨⟨later, after⟩, laterLexed, result⟩ := Option.bind_eq_some_iff.mp lexed
      obtain ⟨rfl, rfl⟩ := by simpa using result
      have := ih laterLexed
      simp only [List.length_cons]
      omega

/-- The first half of a surrogate pair. -/
def isLeading (code : Nat) : Bool := 0xd800 ≤ code && code < 0xdc00

/-- The second half of a surrogate pair. -/
def isTrailing (code : Nat) : Bool := 0xdc00 ≤ code && code < 0xe000

/-- The characters that pieces stand for. Half of a surrogate pair alone is none. -/
def chars? : List Piece → Option (List Char)
  | [] => some []
  | .char c :: rest => (chars? rest).map (c :: ·)
  | .unit first :: .unit second :: rest =>
      if isLeading first then
        if isTrailing second then
          (chars? rest).map
            (Char.ofNat (0x10000 + 0x400 * (first - 0xd800) + (second - 0xdc00)) :: ·)
        else none
      else if isTrailing first then none
      else (chars? (.unit second :: rest)).map (Char.ofNat first :: ·)
  | .unit code :: rest =>
      if isLeading code || isTrailing code then none
      else (chars? rest).map (Char.ofNat code :: ·)

end Piece

end ColumnFilter.Json
