import SuiteBridge.Text.Utf8

/-!
# Percent encoding

Characters that may not stand for themselves are written as their UTF-8 bytes, each a percent sign
and two hexadecimal digits. Which characters may stand for themselves is up to the place; characters
outside ASCII never do.
-/

namespace SuiteBridge.Text.Percent

/-- The digit of a number below sixteen, in upper case. -/
def digit (n : Nat) : Char :=
  if n < 10 then Char.ofNat (48 + n) else Char.ofNat (55 + n)

/-- A byte as a percent sign and two digits. -/
def encodeByte (b : UInt8) : List Char :=
  ['%', digit (b.toNat / 16), digit (b.toNat % 16)]

/-- A character, itself when it is plain and otherwise as the bytes of it. -/
def encodeChar (plain : Char → Bool) (c : Char) : List Char :=
  if c.toNat < 0x80 && plain c then [c] else (String.utf8EncodeChar c).flatMap encodeByte

/-- A text with the characters that are not plain encoded. -/
def encode (plain : Char → Bool) (cs : List Char) : List Char :=
  cs.flatMap (encodeChar plain)

/-- The value of a hexadecimal digit. -/
def digitValue? (b : UInt8) : Option Nat :=
  if 48 ≤ b.toNat ∧ b.toNat ≤ 57 then some (b.toNat - 48)
  else if 97 ≤ b.toNat ∧ b.toNat ≤ 102 then some (b.toNat - 87)
  else if 65 ≤ b.toNat ∧ b.toNat ≤ 70 then some (b.toNat - 55)
  else none

/-- The bytes with each encoded byte in place of its encoding. A percent sign that starts none
stands for itself. -/
def decodeBytes : List UInt8 → List UInt8
  | [] => []
  | [a] => [a]
  | [a, b] => [a, b]
  | a :: b :: c :: rest =>
    match a.toNat == 37, digitValue? b, digitValue? c with
    | true, some high, some low => UInt8.ofNat (high * 16 + low) :: decodeBytes rest
    | _, _, _ => a :: decodeBytes (b :: c :: rest)

/-- The bytes that an encoded text stands for. -/
def decode (cs : List Char) : List UInt8 :=
  decodeBytes (Utf8.encode cs)

/-! ## The plain characters of each place -/

/-- A printing ASCII character that is none of the given ones. -/
def plainExcept (marks : List Char) (c : Char) : Bool :=
  0x20 ≤ c.toNat && c.toNat < 0x7F && !marks.contains c

/-- The plain characters of a fragment. -/
def inFragment : Char → Bool :=
  plainExcept [' ', '"', '<', '>', '\x60']

/-- The plain characters of a query of a web address. -/
def inQuery : Char → Bool :=
  plainExcept [' ', '"', '#', '<', '>', '\'']

/-- The plain characters of a path, its slashes included. -/
def inPath : Char → Bool :=
  plainExcept [' ', '"', '<', '>', '\x60', '#', '?', '\x7b', '\x7d']

/-- The plain characters of one path segment that is given on its own. -/
def inSegment : Char → Bool :=
  plainExcept [' ', '"', '<', '>', '\x60', '#', '?', '\x7b', '\x7d', '/', '%', '\\']

/-- The plain characters of a user name or password. -/
def inUserInfo : Char → Bool :=
  plainExcept [' ', '"', '<', '>', '\x60', '#', '?', '\x7b', '\x7d', '/', ':', ';', '=', '@', '[',
    '\\', ']', '^', '|']

/-- The plain characters of a form. -/
def inForm (c : Char) : Bool :=
  c.isAlphanum || c == '*' || c == '-' || c == '.' || c == '_'

/-- A character in a form: a space is written as a plus sign. -/
def encodeFormChar (c : Char) : List Char :=
  if c = ' ' then ['+'] else encodeChar inForm c

/-- A text in a form. -/
def encodeForm (cs : List Char) : List Char :=
  cs.flatMap encodeFormChar

end SuiteBridge.Text.Percent
