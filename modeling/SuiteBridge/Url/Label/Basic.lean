import SuiteBridge.Text.NormalForm
import SuiteBridge.Url.Folding
import SuiteBridge.Url.Label.Direction
import SuiteBridge.Url.Label.Joining
import SuiteBridge.Url.Punycode

/-!
# Labels

A domain name consists of labels with points between them. A label that has characters outside ASCII
is written in Punycode behind a mark; one that comes with the mark is read, and has to be a label
that could have come without it.
-/

namespace SuiteBridge.Url

/-- A label: the text it is read as and the text it is written as. -/
structure Label where
  spoken : List Char
  written : List Char
deriving DecidableEq, Repr

namespace Label

/-- The marks that no domain name may have. -/
def deniedMarks : List Char :=
  [' ', '#', '%', '/', ':', '<', '>', '?', '@', '[', '\\', ']', '^', '|']

/-- A character of ASCII that no domain name may have. -/
def isDenied (c : Char) : Bool :=
  c.toNat < 0x20 || c.toNat == 0x7F || deniedMarks.contains c

/-- The mark before a label in Punycode. -/
def punycodeMark : List Char :=
  ['x', 'n', '-', '-']

/-- The most characters of a label outside ASCII. -/
def lengthLimit : Nat :=
  1000

/-- The most characters behind the mark of a label in Punycode. -/
def punycodeLimit : Nat :=
  2000

/-- All characters are in ASCII. -/
def isAscii (cs : List Char) : Bool :=
  cs.all fun c => c.toNat < 0x80

/-- A folded text can be read as a label: it has no denied character, does not begin with a mark,
has joiners only where they make a difference, and is not too long. -/
def isSpoken (cs : List Char) : Bool :=
  let codes := cs.map Char.toNat
  !cs.any isDenied
    && !(codes.head?.any Text.isMark)
    && joinersAllowed [] codes
    && (isAscii cs || cs.length ≤ lengthLimit)

/-- A text is folded and in normal form already. -/
def isFolded (cs : List Char) : Bool :=
  cs.all (fun c => foldCode? c.toNat == some [c.toNat]) && Text.normalForm cs == cs

/-- What the text behind the mark of a label is read as. The part after its last hyphen holds the
characters outside ASCII, and without one the label needed no mark. -/
def readPunycode? (cs : List Char) : Option (List Char) :=
  match cs.getLast? with
  | none | some '-' => none
  | some _ =>
    if isAscii cs ∧ cs.length ≤ punycodeLimit then (Punycode.decode? cs).filter isFolded else none

/-- The label of a folded text. -/
def ofFolded? (cs : List Char) : Option Label :=
  if punycodeMark.isPrefixOf cs then
    ((readPunycode? (cs.drop 4)).filter isSpoken).map fun spoken => ⟨spoken, cs⟩
  else if isSpoken cs then
    some ⟨cs, if isAscii cs then cs else punycodeMark ++ Punycode.encode cs⟩
  else none

end Label

end SuiteBridge.Url
