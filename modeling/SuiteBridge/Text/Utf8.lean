/-!
# UTF-8

A row of bytes falls into pieces: each is either a character in its one correct spelling or a
fragment that belongs to none. A fragment is as long as it can be while some correct spelling still
starts with it, and one byte long where no spelling starts so. Reading the pieces strictly refuses
fragments; reading them leniently puts one replacement character for each.
-/

namespace SuiteBridge.Text

/-- What a stretch of bytes stands for: a character, or a fragment of none. -/
inductive Piece where
  | char (c : Char)
  | fragment (bytes : List UInt8)
  deriving DecidableEq, Repr

namespace Piece

/-- The bytes of a piece. -/
def bytes : Piece → List UInt8
  | .char c => String.utf8EncodeChar c
  | .fragment bs => bs

/-- How many bytes a piece has. -/
def width : Piece → Nat
  | .char c => c.utf8Size
  | .fragment bs => bs.length

end Piece

namespace Utf8

/-- The bytes of a text. -/
def encode (cs : List Char) : List UInt8 :=
  cs.flatMap String.utf8EncodeChar

/-- How many bytes follow a leading byte, and the range of the first of them. -/
def following (lead : Nat) : Option (Nat × Nat × Nat) :=
  if 0xC2 ≤ lead ∧ lead ≤ 0xDF then some (1, 0x80, 0xBF)
  else if lead = 0xE0 then some (2, 0xA0, 0xBF)
  else if lead = 0xED then some (2, 0x80, 0x9F)
  else if 0xE1 ≤ lead ∧ lead ≤ 0xEF then some (2, 0x80, 0xBF)
  else if lead = 0xF0 then some (3, 0x90, 0xBF)
  else if 0xF1 ≤ lead ∧ lead ≤ 0xF3 then some (3, 0x80, 0xBF)
  else if lead = 0xF4 then some (3, 0x80, 0x8F)
  else none

/-- The bytes that continue a character: at most `count`, the first in `[low, high]` and the others
in `[0x80, 0xBF]`. -/
def continuation : (count low high : Nat) → List UInt8 → List UInt8
  | 0, _, _, _ => []
  | _ + 1, _, _, [] => []
  | count + 1, low, high, b :: bs =>
    if low ≤ b.toNat ∧ b.toNat ≤ high then b :: continuation count 0x80 0xBF bs else []

/-- The code point that a leading byte and its continuation spell. -/
def codePoint (lead : UInt8) (tail : List UInt8) : Nat :=
  let start := match tail.length with
    | 1 => lead.toNat % 0x20
    | 2 => lead.toNat % 0x10
    | _ => lead.toNat % 0x08
  tail.foldl (fun n b => n * 64 + b.toNat % 64) start

/-- The first piece that starts with the byte `lead`, and how many bytes after that it takes. -/
def firstPiece (lead : UInt8) (rest : List UInt8) : Piece × Nat :=
  if lead.toNat < 0x80 then (.char (Char.ofNat lead.toNat), 0)
  else match following lead.toNat with
    | none => (.fragment [lead], 0)
    | some (count, low, high) =>
      let tail := continuation count low high rest
      if tail.length = count then (.char (Char.ofNat (codePoint lead tail)), count)
      else (.fragment (lead :: tail), tail.length)

/-- The pieces of a row of bytes. -/
def pieces : List UInt8 → List Piece
  | [] => []
  | lead :: rest =>
    let first := firstPiece lead rest
    first.1 :: pieces (rest.drop first.2)
termination_by bs => bs.length
decreasing_by simp only [List.length_cons, List.length_drop]; omega

/-- The text of a row of bytes, if they are UTF-8 throughout. -/
def decode? (bs : List UInt8) : Option String :=
  (pieces bs).mapM (m := Option) (fun
    | .char c => some c
    | .fragment _ => none) |>.map String.ofList

/-- The text of a row of bytes, with U+FFFD for each fragment. -/
def decodeLossy (bs : List UInt8) : String :=
  String.ofList ((pieces bs).map fun
    | .char c => c
    | .fragment _ => '\uFFFD')

end Utf8

end SuiteBridge.Text
