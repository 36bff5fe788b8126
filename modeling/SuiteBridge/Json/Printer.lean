import SuiteBridge.Binary64.Shortest
import SuiteBridge.Json.Basic
import SuiteBridge.Text.Numeral
import SuiteBridge.Text.Separated

/-!
# JSON text

The compact text of a JSON value: no blanks, members in their order, and in strings only the quote,
the backslash and the controls escaped. A double is written with its shortest digits, positionally
from `10 ^ -5` up to below `10 ^ 16` and otherwise with a signed exponent.
-/

namespace SuiteBridge

/-- The text of `digits · 10 ^ power` with a point among the digits or zeros around them. -/
def positional (digits : List Char) (power : Int) : List Char :=
  if 0 ≤ power then digits ++ List.replicate power.toNat '0' ++ ['.', '0']
  else
    let places := (-power).toNat
    if places < digits.length then
      digits.take (digits.length - places) ++ '.' :: digits.drop (digits.length - places)
    else '0' :: '.' :: List.replicate (places - digits.length) '0' ++ digits

/-- The text of a number with one digit before the point and the power of ten after an `e`. -/
def scientific (digits : List Char) (leading : Int) : List Char :=
  let significand := match digits with
    | first :: second :: rest => first :: '.' :: second :: rest
    | short => short
  significand ++ 'e' :: (if leading < 0 then '-' else '+') :: Text.decimal leading.natAbs

/-- Digits without their trailing zeros, and how many there were. -/
def withoutTrailingZeros (digits : List Char) : List Char × Nat :=
  let kept := (digits.reverse.dropWhile (· == '0')).reverse
  (kept, digits.length - kept.length)

/-- The text of a double. -/
def Binary64.text (x : Binary64) : List Char :=
  let sign := if x.negative then ['-'] else []
  if x.isZero then sign ++ ['0', '.', '0']
  else
    let short := x.shortest
    let (digits, zeros) := withoutTrailingZeros (Text.decimal short.digits)
    let power := short.power + zeros
    let leading := power + digits.length - 1
    if -5 ≤ leading ∧ leading < 16 then sign ++ positional digits power
    else sign ++ scientific digits leading

/-- The text of a number. -/
def Number.text : Number → List Char
  | .integer i => Text.decimalInt i
  | .real x => x.text

namespace Json

/-- The digit of a number below sixteen, in lower case. -/
def hexDigit (n : Nat) : Char :=
  if n < 10 then Char.ofNat (48 + n) else Char.ofNat (87 + n)

/-- A character inside a JSON string. -/
def escapedChar (c : Char) : List Char :=
  match c with
  | '"' => ['\\', '"']
  | '\\' => ['\\', '\\']
  | '\x08' => ['\\', 'b']
  | '\t' => ['\\', 't']
  | '\n' => ['\\', 'n']
  | '\x0c' => ['\\', 'f']
  | '\r' => ['\\', 'r']
  | c =>
    if c.toNat < 0x20 then ['\\', 'u', '0', '0', hexDigit (c.toNat / 16), hexDigit (c.toNat % 16)]
    else [c]

/-- A JSON string. -/
def stringText (s : String) : List Char :=
  '"' :: s.toList.flatMap escapedChar ++ ['"']

mutual

/-- The compact text of a value. -/
def text : Json → List Char
  | .null => ['n', 'u', 'l', 'l']
  | .bool true => ['t', 'r', 'u', 'e']
  | .bool false => ['f', 'a', 'l', 's', 'e']
  | .number n => n.text
  | .string s => stringText s
  | .array items => '[' :: List.intercalate [','] (itemTexts items) ++ [']']
  | .object members => '\x7b' :: List.intercalate [','] (memberTexts members) ++ ['\x7d']

/-- The texts of the items of an array. -/
def itemTexts : List Json → List (List Char)
  | [] => []
  | item :: rest => text item :: itemTexts rest

/-- The texts of the members of an object. -/
def memberTexts : List (String × Json) → List (List Char)
  | [] => []
  | (name, value) :: rest => (stringText name ++ ':' :: text value) :: memberTexts rest

end

/-- The compact text of a value, as a string. -/
def render (value : Json) : String :=
  String.ofList value.text

end Json

end SuiteBridge
