import SuiteBridge.Json.Decoder
import SuiteBridge.Text.Blank
import SuiteBridge.Text.Letters

/-!
# Categories

Capabilities are grouped by the part of the suite they reach. A category is named in any ASCII case
and with any white space around it; `STORAGE` is another name of the drive.
-/

namespace SuiteBridge

/-- A part of the suite. -/
inductive Category where
  | wiki
  | project
  | messenger
  | calendar
  | drive
  deriving DecidableEq, Repr

namespace Category

/-- All categories, in their order. -/
def all : List Category :=
  [.wiki, .project, .messenger, .calendar, .drive]

/-- The name of a category. -/
def name : Category → String
  | .wiki => "WIKI"
  | .project => "PROJECT"
  | .messenger => "MESSENGER"
  | .calendar => "CALENDAR"
  | .drive => "DRIVE"

/-- A name in the form in which names are compared. -/
def normal (raw : String) : String :=
  Text.upper (Text.trim raw)

/-- The category of a name in normal form. -/
def ofNormal? (name : String) : Option Category :=
  if name = "STORAGE" then some .drive else all.find? fun category => category.name == name

/-- The category that a text names. -/
def ofText? (raw : String) : Option Category :=
  ofNormal? (normal raw)

/-- The message about a text that names no category. -/
def unknownMessage (raw : String) : String :=
  "unknown category '" ++ normal raw ++ "'"

/-- A category is decoded from its name exactly as written. -/
def decoder : Json.Decoder Category :=
  .choice (all.map fun category => (category.name, category))

end Category

end SuiteBridge
