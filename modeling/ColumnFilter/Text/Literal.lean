import ColumnFilter.Text.Unprintable

set_option autoImplicit false

/-!
# Quoted literals

Messages show a text between double quotes. A quote, a backslash and the usual controls
are written with a backslash, and every other character that does not print by itself is
written by its number.
-/

namespace ColumnFilter.Text

/-- One character of a quoted literal. -/
def literalChar (c : Char) : List Char :=
  match c with
  | '\x00' => ['\\', '0']
  | '\t' => ['\\', 't']
  | '\n' => ['\\', 'n']
  | '\r' => ['\\', 'r']
  | '"' => ['\\', '"']
  | '\\' => ['\\', '\\']
  | c =>
      if isUnprintable c then
        ['\\', 'u', '\x7b'] ++ Nat.toDigits 16 c.toNat ++ ['\x7d']
      else [c]

def literal (s : String) : String :=
  String.ofList ('"' :: s.toList.flatMap literalChar ++ ['"'])

end ColumnFilter.Text
