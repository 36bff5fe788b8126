/-!
# Decimal numerals

Whole numbers in ASCII decimal digits: writing one, and reading one that may carry a plus sign and
leading zeros and must stay below a bound.
-/

namespace SuiteBridge.Text

/-- An ASCII decimal digit. -/
def isDigit (c : Char) : Bool :=
  '0' ≤ c && c ≤ '9'

/-- The value of an ASCII decimal digit. -/
def digitValue (c : Char) : Nat :=
  c.toNat - 48

/-- The number that a row of decimal digits stands for. -/
def digitsValue (cs : List Char) : Nat :=
  cs.foldl (fun n c => 10 * n + digitValue c) 0

/-- The decimal digits of a number, without leading zeros. -/
def decimal (n : Nat) : List Char :=
  Nat.toDigits 10 n

/-- The decimal text of an integer, with a minus sign when it is negative. -/
def decimalInt (i : Int) : List Char :=
  if i < 0 then '-' :: decimal i.natAbs else decimal i.natAbs

/-- One or more decimal digits, read as the number they stand for. -/
def readDigits? (cs : List Char) : Option Nat :=
  if cs ≠ [] ∧ cs.all isDigit then some (digitsValue cs) else none

/-- A numeral with an optional plus sign. -/
def readNumeral? : List Char → Option Nat
  | '+' :: cs => readDigits? cs
  | cs => readDigits? cs

/-- The number below `bound` that a numeral stands for. -/
def readBelow? (bound : Nat) (s : String) : Option Nat :=
  (readNumeral? s.toList).filter (· < bound)

/-- A number padded with zeros on the left to at least `width` digits. -/
def padded (width n : Nat) : List Char :=
  List.replicate (width - (decimal n).length) '0' ++ decimal n

end SuiteBridge.Text
