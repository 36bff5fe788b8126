import SuiteBridge.Fault
import SuiteBridge.Text.Blank

/-!
# Arguments of a call

The named arguments of one call, and how a capability reads them. Null counts as not given, and so
does a blank text. Numbers may stand for texts and texts for numbers, truth values and lists. What
cannot be used is a fault with the code `INVALID_` and the name; what is required and not given is a
fault with the code `MISSING_` and the name.
-/

namespace SuiteBridge

/-- The arguments of one call. -/
structure Arguments where
  members : Members
  deriving Repr

namespace Arguments

/-- No arguments. -/
def none : Arguments :=
  ⟨[]⟩

/-- The arguments in a JSON value: an object, or null for none. -/
def ofJson : Json → Except Fault Arguments
  | .null => .ok none
  | .object members => .ok ⟨members⟩
  | other => .error ((Fault.validation
      ("arguments must be a JSON object, got " ++ other.kindName)).withCode "INVALID_ARGUMENTS")

/-- The arguments with one more, or another value for one. -/
def insert (name : String) (value : Json) (args : Arguments) : Arguments :=
  ⟨Members.insert name value args.members⟩

/-- Whether there are no arguments at all, not even null ones. -/
def isEmpty (args : Arguments) : Bool :=
  args.members.isEmpty

/-- The value of an argument; null counts as not given. -/
def value? (args : Arguments) (name : String) : Option Json :=
  (args.members.lookup name).filter fun value => !value.isNull

/-- The fault of an argument that cannot be used. -/
def invalid (name problem : String) : Fault :=
  (Fault.validation ("the '" ++ name ++ "' parameter " ++ problem)).withCode
    ("INVALID_" ++ Text.upper name)

/-- A text. A number gives its own text, and a blank text counts as not given. -/
def text? (args : Arguments) (name : String) : Except Fault (Option String) :=
  match args.value? name with
  | .none => .ok .none
  | some (.string s) => .ok (if Text.isBlank s then .none else some s)
  | some (.number n) => .ok (some (String.ofList n.text))
  | some other => .error (invalid name ("must be a string, got " ++ other.kindName))

/-- A text that must be given. -/
def text (args : Arguments) (name : String) : Except Fault String :=
  match args.text? name with
  | .error fault => .error fault
  | .ok (some s) => .ok s
  | .ok .none => .error (Fault.parameterMissing name)

/-- One past the greatest number an argument can be. -/
def numberBound : Nat := 0x100000000

/-- A number from zero up, itself or as a numeral. -/
def number? (args : Arguments) (name : String) : Except Fault (Option Nat) :=
  let problem := invalid name "must be a non-negative integer"
  match args.value? name with
  | .none => .ok .none
  | some (.number (.integer i)) =>
    if 0 ≤ i ∧ i < numberBound then .ok (some i.toNat) else .error problem
  | some (.string s) =>
    if Text.isBlank s then .ok .none
    else match Text.readBelow? numberBound (Text.trim s) with
      | some n => .ok (some n)
      | .none => .error problem
  | some _ => .error problem

/-- A truth value, itself or as a word. -/
def flag? (args : Arguments) (name : String) : Except Fault (Option Bool) :=
  let problem := invalid name "must be true or false"
  match args.value? name with
  | .none => .ok .none
  | some (.bool b) => .ok (some b)
  | some (.string s) =>
    let word := Text.lower (Text.trim s)
    if word = "true" then .ok (some true)
    else if word = "false" then .ok (some false)
    else if word = "" then .ok .none
    else .error problem
  | some _ => .error problem

/-- The entries of a list in one text, separated by commas. -/
def entriesOfText (s : String) : List String :=
  ((Text.splitAt ',' s).map Text.trim).filter (· != "")

/-- What one item of a JSON list adds to a list of texts. -/
def entryOfItem (name : String) : Json → Except Fault (List String)
  | .string s => .ok (if Text.isBlank s then [] else [Text.trim s])
  | .number n => .ok [String.ofList n.text]
  | other => .error (invalid name ("must contain only strings, found " ++ other.kindName))

/-- The entries of a JSON list. -/
def entriesOfItems (name : String) : List Json → Except Fault (List String)
  | [] => .ok []
  | item :: items =>
    match entryOfItem name item with
    | .error fault => .error fault
    | .ok entry => (entriesOfItems name items).map (entry ++ ·)

/-- A list of texts, without blank ones: a JSON list, or one text with commas. -/
def list? (args : Arguments) (name : String) : Except Fault (Option (List String)) :=
  match args.value? name with
  | .none => .ok .none
  | some (.string s) => .ok (some (entriesOfText s))
  | some (.array items) => (entriesOfItems name items).map some
  | some other => .error (invalid name ("must be an array of strings, got " ++ other.kindName))

/-- A list of texts that must have an entry. -/
def list (args : Arguments) (name : String) : Except Fault (List String) :=
  match args.list? name with
  | .error fault => .error fault
  | .ok (some (entry :: entries)) => .ok (entry :: entries)
  | .ok _ => .error (Fault.parameterMissing name)

/-- A text that is one of those allowed. -/
def oneOf? (args : Arguments) (name : String) (allowed : List String) :
    Except Fault (Option String) :=
  match args.text? name with
  | .error fault => .error fault
  | .ok .none => .ok .none
  | .ok (some s) =>
    if s ∈ allowed then .ok (some s)
    else .error (invalid name
      ("must be one of " ++ Text.join ", " allowed ++ ", got '" ++ s ++ "'"))

/-- A JSON object. -/
def object? (args : Arguments) (name : String) : Except Fault (Option Members) :=
  match args.value? name with
  | .none => .ok .none
  | some (.object members) => .ok (some members)
  | some other => .error (invalid name ("must be an object, got " ++ other.kindName))

end Arguments

end SuiteBridge
