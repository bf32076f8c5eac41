import Pushdown.Text.Printable

/-! # Quoted text

Text between double quotes. Quotes and backslashes take a backslash, the common control
characters have short escapes, and every other character that is not printable is written
by its code point.
-/

namespace Pushdown

namespace Text

/-- A character inside quoted text. -/
def escape (char : Char) : List Char :=
  match char with
  | '"' => ['\\', '"']
  | '\\' => ['\\', '\\']
  | '\n' => ['\\', 'n']
  | '\r' => ['\\', 'r']
  | '\t' => ['\\', 't']
  | '\x00' => ['\\', '0']
  | char =>
      if isPrintable char then [char]
      else ['\\', 'u', '\x7b'] ++ Nat.toDigits 16 char.toNat ++ ['\x7d']

/-- A text with its quotes. -/
def quote (text : String) : String :=
  String.ofList ('"' :: text.toList.flatMap escape ++ ['"'])

end Text

end Pushdown
