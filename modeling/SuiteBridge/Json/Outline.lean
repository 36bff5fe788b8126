import SuiteBridge.Json.Printer

/-!
# Writing values as JSON

A value is written as JSON by way of an outline: what the value says of itself, part by part. Not
every outline can be written. The keys of a map are values too and have to come to the name of a
member, and a value may decline to be written at all; `Outline.encode` gives the JSON or the problem
that was met first.
-/

namespace SuiteBridge.Json

/-- Why a value cannot be written as JSON. -/
inductive EncodeProblem where
  | keyMustBeString
  /-- The value declines, in its own words. -/
  | declined (problem : String)
  deriving DecidableEq, Repr

/-- The wording of a problem. -/
def EncodeProblem.message : EncodeProblem → String
  | .keyMustBeString => "key must be a string"
  | .declined problem => problem

/-- What a value says of itself when it is to be written as JSON. -/
inductive Outline where
  /-- It is JSON already. -/
  | json (value : Json)
  | list (items : List Outline)
  | map (entries : List (Json × Outline))
  | declines (problem : String)

/-- The name of a member that a key comes to. Flags and numbers are taken by their texts. -/
def nameOf? : Json → Option String
  | .string s => some s
  | .bool b => some (Json.bool b).render
  | .number n => some (Json.number n).render
  | _ => none

namespace Outline

/-- A text. -/
def text (s : String) : Outline :=
  .json (.string s)

/-- A flag. -/
def flag (b : Bool) : Outline :=
  .json (.bool b)

/-- A record is a map from the names of its fields. -/
def record (fields : List (String × Outline)) : Outline :=
  .map (fields.map fun (name, outline) => (.string name, outline))

/-- A field that is left out when there is no value for it. -/
def optional (name : String) (value : Option Outline) : List (String × Outline) :=
  match value with
  | none => []
  | some outline => [(name, outline)]

mutual

/-- What is written for an outline. -/
def encode : Outline → Except EncodeProblem Json
  | .json value => .ok value
  | .list items => (encodeItems items).map .array
  | .map entries => (encodeEntries entries []).map .object
  | .declines problem => .error (.declined problem)

/-- What is written for the items of a list. -/
def encodeItems : List Outline → Except EncodeProblem (List Json)
  | [] => .ok []
  | item :: rest =>
    match encode item with
    | .error problem => .error problem
    | .ok value => (encodeItems rest).map (value :: ·)

/-- What is written for the entries of a map, after the members that are there already. -/
def encodeEntries : List (Json × Outline) → Members → Except EncodeProblem Members
  | [], members => .ok members
  | (key, outline) :: rest, members =>
    match nameOf? key with
    | none => .error .keyMustBeString
    | some name =>
      match encode outline with
      | .error problem => .error problem
      | .ok value => encodeEntries rest (Members.insert name value members)

end

end Outline

end SuiteBridge.Json
