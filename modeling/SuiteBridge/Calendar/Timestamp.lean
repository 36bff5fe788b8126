import SuiteBridge.Calendar.DateTime
import SuiteBridge.Text.Blank
import SuiteBridge.Text.Separated

/-!
# Timestamps

A timestamp `YYYY-MM-DDTHH:MM:SS` gives a local date-time. White space around it, a fraction of a
second and an offset from universal time are dropped: the clock reading is taken as it stands.
-/

namespace SuiteBridge.Calendar

/-- An offset from universal time: a sign, two digits, a colon and two digits. -/
def isOffset : List Char → Bool
  | [sign, h₁, h₂, ':', m₁, m₂] =>
    (sign == '+' || sign == '-') && [h₁, h₂, m₁, m₂].all Text.isDigit
  | _ => false

/-- A timestamp without the `Z` or the offset at its end. -/
def withoutOffset (cs : List Char) : List Char :=
  if cs.getLast? = some 'Z' ∨ cs.getLast? = some 'z' then cs.dropLast
  else if isOffset (cs.drop (cs.length - 6)) then cs.take (cs.length - 6)
  else cs

/-- A timestamp without the fraction of its seconds. -/
def withoutFraction (cs : List Char) : List Char :=
  cs.takeWhile (· != '.')

/-- A number of one digit up to `width` digits after any white space, and what follows it. -/
def numberField (width : Nat) (cs : List Char) : Option (Nat × List Char) :=
  let cs := Text.trimStart cs
  let digits := (cs.takeWhile Text.isDigit).take width
  if digits = [] then none else some (Text.digitsValue digits, cs.drop digits.length)

/-- A signed number of any length, its sign having been read. -/
def signedField (negative : Bool) (cs : List Char) : Option (Int × List Char) :=
  let digits := cs.takeWhile Text.isDigit
  if digits = [] then none
  else
    let value : Int := Text.digitsValue digits
    some (if negative then -value else value, cs.drop digits.length)

/-- A year after any white space: up to four digits, or a sign and any number of digits. -/
def yearField (cs : List Char) : Option (Int × List Char) :=
  match Text.trimStart cs with
  | '-' :: rest => signedField true rest
  | '+' :: rest => signedField false rest
  | other => (numberField 4 other).map fun (year, rest) => ((year : Int), rest)

/-- A number field behind a character that must be there. -/
def fieldAfter (mark : Char) : List Char → Option (Nat × List Char)
  | c :: rest => if c = mark then numberField 2 rest else none
  | [] => none

/-- A date-time of the calendar and the clock; the second 60 stands for a leap second. -/
def ofFields? (year : Int) (month day hour minute second : Nat) : Option DateTime :=
  if isDate year month day ∧ hour ≤ 23 ∧ minute ≤ 59 ∧ second ≤ 60 then
    if second = 60 then some ⟨year, month, day, hour, minute, 59, 1000000000⟩
    else some ⟨year, month, day, hour, minute, second, 0⟩
  else none

/-- The date-time of `YYYY-MM-DDTHH:MM:SS`. -/
def readFields? (cs : List Char) : Option DateTime := do
  let (year, cs) ← yearField cs
  let (month, cs) ← fieldAfter '-' cs
  let (day, cs) ← fieldAfter '-' cs
  let (hour, cs) ← fieldAfter 'T' cs
  let (minute, cs) ← fieldAfter ':' cs
  let (second, cs) ← fieldAfter ':' cs
  if cs = [] then ofFields? year month day hour minute second else none

/-- The local date-time of a timestamp. -/
def parseTimestamp (raw : String) : Option DateTime :=
  readFields? (withoutFraction (withoutOffset (Text.trimChars raw.toList)))

end SuiteBridge.Calendar
