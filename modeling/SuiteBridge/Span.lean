import SuiteBridge.Text.Blank
import SuiteBridge.Text.Numeral
import SuiteBridge.Text.Separated

/-!
# Spans of time

A span is written as a number and a unit: `500ms`, `30s`, `5m`, `1h` or `2d`, and seconds without
one. The number and the number of seconds each stay below `2 ^ 64`.
-/

namespace SuiteBridge

/-- A span of time. -/
structure Span where
  millis : Nat
  deriving DecidableEq, Repr

/-- Why a text is no span. -/
inductive SpanProblem where
  | empty
  | number (digits : String)
  | range (span : String)
  deriving DecidableEq, Repr

/-- The wording of a problem. -/
def SpanProblem.message : SpanProblem → String
  | .empty => "empty duration string"
  | .number digits => "invalid duration number: " ++ digits
  | .range span => "duration out of range: " ++ span

namespace Span

/-- One past the greatest count. -/
def bound : Nat := 0x10000000000000000

/-- A unit of time. -/
inductive TimeUnit where
  | milliseconds
  | seconds (count : Nat)
  deriving DecidableEq, Repr

/-- The units and how they are written. A text that ends in two of them has the first. -/
def units : List (List Char × TimeUnit) :=
  [(['m', 's'], .milliseconds), (['s'], .seconds 1), (['m'], .seconds 60), (['h'], .seconds 3600),
    (['d'], .seconds 86400)]

/-- The number and the unit of a text, among the given units; seconds when it ends in none. -/
def splitUnit (cs : List Char) : List (List Char × TimeUnit) → List Char × TimeUnit
  | [] => (cs, .seconds 1)
  | (suffix, time) :: rest =>
    match Text.dropSuffix? suffix cs with
    | some digits => (digits, time)
    | none => splitUnit cs rest

/-- The span that a text without white space around it stands for. -/
def ofTrimmed (cs : List Char) : Except SpanProblem Span :=
  if cs = [] then .error .empty
  else
    let (digits, time) := splitUnit cs units
    match Text.readBelow? bound (String.ofList digits) with
    | none => .error (.number (String.ofList digits))
    | some n =>
      match time with
      | .milliseconds => .ok ⟨n⟩
      | .seconds count =>
        if n * count < bound then .ok ⟨n * count * 1000⟩
        else .error (.range (String.ofList cs))

/-- The span that a text stands for. -/
def parse (raw : String) : Except SpanProblem Span :=
  ofTrimmed (Text.trimChars raw.toList)

end Span

end SuiteBridge
