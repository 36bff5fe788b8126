import SuiteBridge.Text.Utf8
import SuiteBridge.Url.Label.Basic
import SuiteBridge.Url.Problem

/-!
# Domain names

A domain name is folded, put in its normal form and divided into labels, and each label is written
in ASCII. When a script is written from the right to the left in one of them, all have to run one
way.
-/

namespace SuiteBridge.Url

/-- The labels of a name, if each is one. -/
def labels? (text : List Char) : Option (List Label) := do
  let folded ← fold? text
  ((Text.normalForm folded).splitOn '.').mapM Label.ofFolded?

/-- A script is written from the right to the left in a label. -/
def Label.turns (label : Label) : Bool :=
  label.spoken.any fun c => (Label.direction c.toNat).turns

/-- Labels stand in one name: if one has a script written from the right to the left, each runs one
way. -/
def standTogether (labels : List Label) : Bool :=
  !labels.any Label.turns || labels.all fun label => Label.runsOneWay (label.spoken.map Char.toNat)

/-- A domain name in ASCII. -/
def domainToAscii (bytes : List UInt8) : Except UrlProblem (List Char) :=
  match Text.Utf8.decode? bytes with
  | none => .error .domain
  | some text => match (labels? text.toList).filter standTogether with
    | none => .error .domain
    | some labels => .ok (List.intercalate ['.'] (labels.map Label.written))

end SuiteBridge.Url
