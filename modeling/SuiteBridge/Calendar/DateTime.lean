import SuiteBridge.Text.Numeral

/-!
# Local date-times

A date of the proleptic Gregorian calendar with a time of day, in no particular zone. A leap second
is the second 59 with a billion nanoseconds. Going back by calendar months keeps the time and moves
a day that the target month does not have to that month's last day.
-/

namespace SuiteBridge.Calendar

/-- A local date-time. -/
structure DateTime where
  year : Int
  month : Nat
  day : Nat
  hour : Nat
  minute : Nat
  second : Nat
  nanos : Nat
  deriving DecidableEq, Repr

/-- The first year there is. -/
def leastYear : Int := -262143

/-- The last year there is. -/
def greatestYear : Int := 262142

/-- A year with a 29 February. -/
def isLeap (year : Int) : Bool :=
  year % 4 == 0 && (year % 100 != 0 || year % 400 == 0)

/-- How many days a month has. -/
def daysIn (year : Int) (month : Nat) : Nat :=
  if month = 2 then if isLeap year then 29 else 28
  else if month = 4 ∨ month = 6 ∨ month = 9 ∨ month = 11 then 30
  else 31

/-- A date that the calendar has. -/
def isDate (year : Int) (month day : Nat) : Bool :=
  decide (leastYear ≤ year ∧ year ≤ greatestYear) && decide (1 ≤ month ∧ month ≤ 12)
    && decide (1 ≤ day ∧ day ≤ daysIn year month)

namespace DateTime

/-- The parts of a date-time, the most significant first. -/
def key (t : DateTime) : List Int :=
  [t.year, t.month, t.day, t.hour, t.minute, t.second, t.nanos]

/-- One date-time comes before another when its parts do, the most significant first. -/
instance : LT DateTime :=
  ⟨fun a b => a.key < b.key⟩

instance (a b : DateTime) : Decidable (a < b) :=
  inferInstanceAs (Decidable (a.key < b.key))

/-- The earliest date-time. -/
def earliest : DateTime :=
  ⟨leastYear, 1, 1, 0, 0, 0, 0⟩

/-- The date-time some months earlier; `none` before the first year, and for more months than a
signed number of 32 bits can count. -/
def minusMonths? (t : DateTime) (months : Nat) : Option DateTime :=
  if 0x80000000 ≤ months then none
  else
    let total : Int := t.year * 12 + t.month - 1 - months
    let year := total.fdiv 12
    let month := (total.fmod 12).toNat + 1
    let day := min t.day (daysIn year month)
    if isDate year month day then some { t with year, month, day } else none

/-- The text of a year: four digits from 0 to 9999, otherwise with a sign. -/
def yearText (year : Int) : List Char :=
  if 0 ≤ year ∧ year ≤ 9999 then Text.padded 4 year.toNat
  else (if year < 0 then '-' else '+') :: Text.padded 4 year.natAbs

/-- A date-time with a space between date and time. -/
def text (t : DateTime) : String :=
  String.ofList (yearText t.year ++ '-' :: Text.padded 2 t.month ++ '-' :: Text.padded 2 t.day
    ++ ' ' :: Text.padded 2 t.hour ++ ':' :: Text.padded 2 t.minute
    ++ ':' :: Text.padded 2 t.second)

end DateTime

end SuiteBridge.Calendar
