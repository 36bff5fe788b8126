import SuiteBridge.Text.CombiningClass
import SuiteBridge.Text.Composite

/-!
# Normal form

Texts that differ only in how accents are put in have one normal form: composites are taken apart,
marks are put in the order of their combining classes, and what has a composite is put together
again. Characters that are a second code point for another character are not looked at here: who
calls for the normal form has replaced them.
-/

namespace SuiteBridge.Text

/-- The last parts of a code point. A composite has at most three parts behind the first. -/
def partsOf : (depth : Nat) → Nat → List Nat
  | 0, code => [code]
  | depth + 1, code =>
    match parts? code with
    | some (first, second) => partsOf depth first ++ [second]
    | none => [code]

/-- Put a code point before a text in order, behind the marks of a lower class. -/
def insertMark (code : Nat) : List Nat → List Nat
  | [] => [code]
  | next :: rest =>
    if 0 < combiningClass next ∧ combiningClass next < combiningClass code
    then next :: insertMark code rest
    else code :: next :: rest

/-- A text with its marks in the order of their classes. -/
def inMarkOrder (codes : List Nat) : List Nat :=
  codes.foldr insertMark []

/-- The text that begins with a character, the marks on it that have no composite with it (the last
one first) and a rest. A mark reaches the character when no mark in between has its class or a
higher one, and a character of class 0 only when nothing is in between. -/
def composeFrom (first : Nat) (marks : List Nat) : List Nat → List Nat
  | [] => first :: marks.reverse
  | code :: rest =>
    let reaches := match marks with
      | [] => true
      | mark :: _ => combiningClass mark < combiningClass code
    match if reaches then compose? first code else none with
    | some whole => composeFrom whole marks rest
    | none =>
      if combiningClass code = 0 then first :: marks.reverse ++ composeFrom code [] rest
      else composeFrom first (code :: marks) rest

/-- A text with its composites put together. -/
def composed : List Nat → List Nat
  | [] => []
  | code :: rest => composeFrom code [] rest

/-- The normal form of a text. A text below U+0300 is its own. -/
def normalForm (cs : List Char) : List Char :=
  if cs.all fun c => c.toNat < 0x300 then cs
  else (composed (inMarkOrder ((cs.map Char.toNat).flatMap (partsOf 3)))).map Char.ofNat

end SuiteBridge.Text
