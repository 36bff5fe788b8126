import SuiteBridge.Text.Printable
import SuiteBridge.Url.Folding.Characters
import SuiteBridge.Url.Folding.Ideographs
import SuiteBridge.Url.Folding.Runs
import SuiteBridge.Url.Folding.Sequences

/-!
# Folding

A domain name is read without regard to case, width and other differences of form. Folding replaces
each character by the ones it stands for, drops the characters nobody sees, and refuses a text with
a character that no domain name may have. The sharp s, the final sigma and the two joiners stay as
they are.
-/

namespace SuiteBridge.Url

/-- Characters that are dropped. -/
def droppedRanges : List (Nat × Nat) :=
  [(0xAD, 0xAD), (0x34F, 0x34F), (0x115F, 0x1160), (0x17B4, 0x17B5), (0x180B, 0x180F),
   (0x200B, 0x200B), (0x2060, 0x2064), (0x206A, 0x206F), (0x3164, 0x3164), (0xFE00, 0xFE0F),
   (0xFEFF, 0xFEFF), (0xFFA0, 0xFFA0), (0x1BCA0, 0x1BCA3), (0x1D173, 0x1D17A), (0xE0100, 0xE01EF)]

/-- Characters with a shape that are refused all the same: they would fold into a text with a point
in it, describe other characters, or stand for what could not be shown. -/
def refusedRanges : List (Nat × Nat) :=
  [(0x2024, 0x2026), (0x2488, 0x249B), (0x2FF0, 0x2FFF), (0x31EF, 0x31EF), (0x33C2, 0x33C2),
   (0x33C7, 0x33C7), (0x33D8, 0x33D8), (0xFE12, 0xFE12), (0xFE19, 0xFE19), (0xFE30, 0xFE30),
   (0xFE52, 0xFE52), (0xFFFC, 0xFFFD), (0x1F100, 0x1F100)]

/-- Letters of scripts too young to have a shape everywhere, which are kept: the Jurchen letters and
the seal script. -/
def youngRanges : List (Nat × Nat) :=
  [(0x18E00, 0x19191), (0x3D000, 0x3FC3F)]

/-- The joiners, which have no shape and are kept. -/
def isJoiner (code : Nat) : Bool :=
  code == 0x200C || code == 0x200D

/-- What a code point is replaced by, if a run has it. -/
def runFold? (code : Nat) : Option Nat :=
  (foldedRuns.find? fun (first, last, step, _) =>
      first ≤ code && code ≤ last && (code - first) % step == 0).map
    fun (first, _, _, target) => target + (code - first)

/-- The entry of a code point in rows of consecutive code points. -/
def entry? {α : Type} (rows : List (Nat × List α)) (code : Nat) : Option α :=
  rows.findSome? fun (first, entries) => if first ≤ code then entries[code - first]? else none

/-- What a code point is replaced by, if it is a second form of something. -/
def replacement? (code : Nat) : Option (List Nat) :=
  match runFold? code with
  | some target => some [target]
  | none => match entry? foldedCharacters code with
    | some target => some [target]
    | none => match entry? foldedIdeographs code with
      | some target => some [target]
      | none => entry? foldedSequences code

/-- The code points that a code point folds into, or `none` when it is refused. In ASCII only the
capital letters change. -/
def foldCode? (code : Nat) : Option (List Nat) :=
  if code < 0x80 then some [if 0x41 ≤ code ∧ code ≤ 0x5A then code + 32 else code]
  else match replacement? code with
    | some codes => some codes
    | none =>
      if Text.inRanges droppedRanges code then some []
      else if isJoiner code || Text.inRanges youngRanges code then some [code]
      else if Text.inRanges Text.shapelessRanges code || Text.inRanges refusedRanges code then none
      else some [code]

/-- A folded text. -/
def fold? (cs : List Char) : Option (List Char) :=
  (cs.mapM fun c => foldCode? c.toNat).map fun codes => codes.flatten.map Char.ofNat

end SuiteBridge.Url
