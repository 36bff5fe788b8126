import SuiteBridge.Text.Utf8

/-!
# Lines

A stream of bytes is cut into lines at each line feed; a carriage return right before it belongs to
the line's end. What follows the last line feed is kept until more comes.
-/

namespace SuiteBridge.Host

/-- The byte that ends a line. -/
def lineFeed : UInt8 := 10

/-- The byte that may stand before the one that ends a line. -/
def carriageReturn : UInt8 := 13

/-- A line without the carriage return at its end. -/
def withoutReturn (line : List UInt8) : List UInt8 :=
  if line.getLast? = some carriageReturn then line.dropLast else line

/-- The lines that are complete, without what ends them, and the bytes after them. -/
def cutLines : List UInt8 → List (List UInt8) × List UInt8
  | [] => ([], [])
  | byte :: rest =>
    match cutLines rest with
    | (lines, tail) =>
      if byte = lineFeed then ([] :: lines, tail)
      else match lines with
        | [] => ([], byte :: tail)
        | line :: lines => ((byte :: line) :: lines, tail)

/-- The complete lines of some bytes, and the bytes after them. -/
def linesOf (bytes : List UInt8) : List (List UInt8) × List UInt8 :=
  match cutLines bytes with
  | (lines, tail) => (lines.map withoutReturn, tail)

end SuiteBridge.Host
