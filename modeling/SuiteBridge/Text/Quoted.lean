import SuiteBridge.Text.Printable

/-!
# Quoted text

A text between double quotes for people to read: the quote, the backslash and the usual controls
have short escapes, and every character that could not be seen is written by its code point.
-/

namespace SuiteBridge.Text

/-- The digits of a number in base sixteen, in lower case. -/
def hexadecimal (n : Nat) : List Char :=
  Nat.toDigits 16 n

/-- A character inside quotes. -/
def quotedChar (c : Char) : List Char :=
  match c with
  | '\x00' => ['\\', '0']
  | '\t' => ['\\', 't']
  | '\r' => ['\\', 'r']
  | '\n' => ['\\', 'n']
  | '"' => ['\\', '"']
  | '\\' => ['\\', '\\']
  | c =>
    if isShown c then [c]
    else ['\\', 'u', '\x7b'] ++ hexadecimal c.toNat ++ ['\x7d']

/-- A text between double quotes. -/
def quoted (s : String) : String :=
  String.ofList ('"' :: s.toList.flatMap quotedChar ++ ['"'])

end SuiteBridge.Text
