import SuiteBridge.Json.Reader

/-!
# Decoders

A decoder makes values of a type out of JSON in two ways: out of text, where the first fault in the
order of the text is the one reported, and out of a JSON value that has already been read. Both ways
of one decoder accept the same shapes. A record is decoded through a form: a row of named slots that
are filled as members come in.
-/

namespace SuiteBridge.Json

open Text (Piece)

/-- How to decode values of type `α`. -/
structure Decoder (α : Type) where
  /-- Decodes the next value of a text, with at most the given depth of nesting. -/
  ofText : (depth : Nat) → Reader α
  /-- Decodes a value. -/
  ofValue : Json → Except Cause α
  /-- What a member that is not there stands for, if it may be left out. -/
  absent : Option α

/-- Refuses the next value of a text because of what it is. -/
def refuse {α : Type u} (expected : String) : Reader α := fun input =>
  match sightingOf input with
  | .error failure => .error failure
  | .ok (found, rest) => failHere (.wrongType found expected) rest

/-- Refuses a value because of what it is. -/
def refuseValue {α : Type u} (expected : String) (value : Json) : Except Cause α :=
  .error (.wrongType value.sighting expected)

namespace Decoder

/-- Decodes a whole text. -/
def decodePieces {α : Type} (decoder : Decoder α) (input : List Piece) : Except Failure α :=
  wholly (decoder.ofText greatestDepth) input

/-- Any JSON value. -/
def any : Decoder Json where
  ofText := anyValue
  ofValue value := .ok value
  absent := none

/-- A string. -/
def text : Decoder String where
  ofText _ input :=
    match skipBlanks input with
    | [] => failHere (.endOfText .value) []
    | .char '"' :: rest => stringTail rest
    | other => refuse "a string" other
  ofValue
    | .string s => .ok s
    | other => refuseValue "a string" other
  absent := none

/-- True or false. -/
def flag : Decoder Bool where
  ofText _ input :=
    match skipBlanks input with
    | [] => failHere (.endOfText .value) []
    | .char 't' :: rest => (word ['r', 'u', 'e'] rest).map fun ((), rest) => (true, rest)
    | .char 'f' :: rest => (word ['a', 'l', 's', 'e'] rest).map fun ((), rest) => (false, rest)
    | other => refuse "a boolean" other
  ofValue
    | .bool b => .ok b
    | other => refuseValue "a boolean" other
  absent := none

/-- A range of integers with the name it goes by. -/
structure Range where
  least : Int
  greatest : Int
  name : String

/-- An integer of a range out of a number. -/
def Range.ofNumber (range : Range) : Number → Except Cause Int
  | .integer i =>
    if range.least ≤ i ∧ i ≤ range.greatest then .ok i
    else .error (.wrongValue (.number (.integer i)) range.name)
  | .real x => .error (.wrongType (.number (.real x)) range.name)

/-- An integer of a range that has been read from a text. -/
def Range.accept (range : Range) (read : Except Failure (Number × List Piece)) :
    Except Failure (Int × List Piece) :=
  match read with
  | .error failure => .error failure
  | .ok (n, rest) =>
    match range.ofNumber n with
    | .ok i => .ok (i, rest)
    | .error cause => failHere cause rest

/-- An integer of a range. -/
def integer (range : Range) : Decoder Int where
  ofText _ input :=
    match skipBlanks input with
    | [] => failHere (.endOfText .value) []
    | .char '-' :: rest => range.accept (numberRest true rest)
    | other =>
      if startsWithDigit other then range.accept (numberRest false other)
      else refuse range.name other
  ofValue
    | .number n => range.ofNumber n
    | other => refuseValue range.name other
  absent := none

/-- The decoder followed by a function. -/
def map {α β : Type} (f : α → β) (decoder : Decoder α) : Decoder β where
  ofText depth input := (decoder.ofText depth input).map fun (a, rest) => (f a, rest)
  ofValue value := (decoder.ofValue value).map f
  absent := decoder.absent.map f

/-- A signed integer of 64 bits. -/
def int64 : Decoder Int :=
  integer ⟨-0x8000000000000000, 0x7FFFFFFFFFFFFFFF, "i64"⟩

/-- An unsigned integer of 64 bits. -/
def uint64 : Decoder Nat :=
  (integer ⟨0, 0xFFFFFFFFFFFFFFFF, "u64"⟩).map Int.toNat

/-- An unsigned integer of 32 bits. -/
def uint32 : Decoder Nat :=
  (integer ⟨0, 0xFFFFFFFF, "u32"⟩).map Int.toNat

/-- A number of things. -/
def count : Decoder Nat :=
  (integer ⟨0, 0xFFFFFFFFFFFFFFFF, "usize"⟩).map Int.toNat

/-- A value or null; also a member that may be left out. -/
def optional {α : Type} (decoder : Decoder α) : Decoder (Option α) where
  ofText depth input :=
    match skipBlanks input with
    | .char 'n' :: rest => (word ['u', 'l', 'l'] rest).map fun ((), rest) => (none, rest)
    | other => (decoder.ofText depth other).map fun (a, rest) => (some a, rest)
  ofValue
    | .null => .ok none
    | value => (decoder.ofValue value).map some
  absent := some none

/-- A list of values. -/
def list {α : Type} (decoder : Decoder α) : Decoder (List α) where
  ofText depth input :=
    match skipBlanks input with
    | [] => failHere (.endOfText .value) []
    | .char '[' :: rest =>
      match depth with
      | 0 => failAtNext .tooDeep (.char '[' :: rest)
      | depth + 1 => itemsOf (decoder.ofText depth) rest
    | other => refuse "a sequence" other
  ofValue
    | .array items => items.mapM decoder.ofValue
    | other => refuseValue "a sequence" other
  absent := none

/-- Null and nothing else. -/
def nothing : Decoder Unit where
  ofText _ input :=
    match skipBlanks input with
    | [] => failHere (.endOfText .value) []
    | .char 'n' :: rest => word ['u', 'l', 'l'] rest
    | other => refuse "unit" other
  ofValue
    | .null => .ok ()
    | other => refuseValue "unit" other
  absent := none

/-! ## Choices -/

/-- The choice of a name. -/
def pick {α : Type} (known : List (String × α)) (name : String) : Except Cause α :=
  match known.lookup name with
  | some a => .ok a
  | none => .error (.unknownVariant name (known.map Prod.fst))

/-- The choice of a name whose opening quote has been read from a text. -/
def pickNext {α : Type} (known : List (String × α)) : Reader α := fun input =>
  match stringTail input with
  | .error failure => .error failure
  | .ok (name, rest) =>
    match pick known name with
    | .ok a => .ok (a, rest)
    | .error cause => failHere cause rest

/-- The one member of an object that names a choice, with null for its value. -/
def pickMember {α : Type} (known : List (String × α)) : Reader α := fun input =>
  match skipBlanks input with
  | [] => failHere (.endOfText .object) []
  | .char '"' :: rest =>
    match pickNext known rest with
    | .error failure => .error failure
    | .ok (a, rest) =>
      match afterColon (nothing.ofText 0) rest with
      | .error failure => .error failure
      | .ok ((), rest) =>
        match skipBlanks rest with
        | [] => failHere (.endOfText .object) []
        | .char '\x7d' :: rest => .ok (a, rest)
        | other => failHere .expectedValue other
  | .char '\x7d' :: rest => failAtNext .expectedValue (.char '\x7d' :: rest)
  | other => failAtNext .keyMustBeString other

/-- One of several named choices: its name, or an object whose one member has that name and the
value null. -/
def choice {α : Type} (known : List (String × α)) : Decoder α where
  ofText depth input :=
    match skipBlanks input with
    | [] => failHere (.endOfText .value) []
    | .char '"' :: rest => pickNext known rest
    | .char '\x7b' :: rest =>
      match depth with
      | 0 => failAtNext .tooDeep (.char '\x7b' :: rest)
      | _ + 1 => pickMember known rest
    | other => failAtNext .expectedValue other
  ofValue
    | .string name => pick known name
    | .object [(name, value)] =>
      match pick known name with
      | .error cause => .error cause
      | .ok a => (nothing.ofValue value).map fun () => a
    | .object _ => .error (.wrongValue .map "map with a single key")
    | other => refuseValue "string or map" other
  absent := none

end Decoder

/-! ## Forms -/

/-- A named slot of a record, and its value once there is one. -/
structure Slot (β : Type) where
  name : String
  decoder : Decoder β
  /-- What stands in the slot when nothing is given for it. -/
  fallback : Option β
  value : Option β

/-- A row of slots. -/
inductive Form : Type → Type 1 where
  | done : Form Unit
  | slot {β γ : Type} (slot : Slot β) (rest : Form γ) : Form (β × γ)

namespace Form

/-- A slot for a member that must be given, unless its decoder knows what its absence means. -/
def required {β γ : Type} (name : String) (decoder : Decoder β) (rest : Form γ) : Form (β × γ) :=
  .slot ⟨name, decoder, none, none⟩ rest

/-- A slot for a member that may be left out of an object or off the end of a list. -/
def defaulting {β γ : Type} (name : String) (decoder : Decoder β) (fallback : β) (rest : Form γ) :
    Form (β × γ) :=
  .slot ⟨name, decoder, some fallback, none⟩ rest

/-- How many slots a form has. -/
def size : {γ : Type} → Form γ → Nat
  | _, .done => 0
  | _, .slot _ rest => rest.size + 1

/-- Whether a form has a slot of this name. -/
def knows (name : String) : {γ : Type} → Form γ → Bool
  | _, .done => false
  | _, .slot s rest => s.name == name || rest.knows name

/-- What is left when an object is given up behind a name: blanks there are still taken, and the
brace if the object is closed right after them. -/
def leaveObject (input : List Piece) : List Piece :=
  match skipBlanks input with
  | .char '\x7d' :: rest => rest
  | other => other

/-- The values of all slots, or the first slot that nothing was given for. -/
def finish : {γ : Type} → Form γ → Except Cause γ
  | _, .done => .ok ()
  | _, .slot s rest =>
    match s.value <|> s.fallback <|> s.decoder.absent with
    | none => .error (.missingField s.name)
    | some b => rest.finish.map fun c => (b, c)

/-- Fills the slot of a name from a text that stands right behind that name; `none` when the form
has no such slot. A slot is filled once only, and the object is given up where a second member for
it is named. -/
def read? (depth : Nat) (name : String) : {γ : Type} → Form γ → Option (Reader (Form γ))
  | _, .done => none
  | _, .slot s rest =>
    if s.name = name then
      some fun input =>
        match s.value with
        | some _ => failHere (.duplicateField name) (leaveObject input)
        | none =>
          (afterColon (s.decoder.ofText depth) input).map fun (b, input) =>
            (.slot { s with value := some b } rest, input)
    else
      (rest.read? depth name).map fun read input =>
        (read input).map fun (rest, input) => (.slot s rest, input)

/-- Fills the slot of a name, if there is one, from a value. -/
def take (name : String) (value : Json) : {γ : Type} → Form γ → Except Cause (Form γ)
  | _, .done => .ok .done
  | _, .slot s rest =>
    if s.name = name then
      match s.value with
      | some _ => .error (.duplicateField name)
      | none => (s.decoder.ofValue value).map fun b => .slot { s with value := some b } rest
    else (rest.take name value).map fun rest => .slot s rest

/-- Fills the slots from the members of an object, in their order. -/
def takeMembers {γ : Type} : Members → Form γ → Except Cause (Form γ)
  | [], form => .ok form
  | (name, value) :: members, form =>
    match form.take name value with
    | .error cause => .error cause
    | .ok form => takeMembers members form

/-- The members that have no slot. -/
def others {γ : Type} (form : Form γ) (members : Members) : Members :=
  members.filter fun (name, _) => !form.knows name

/-- The slots' values from the items of a list in a text, first slot first. `expected` describes
the whole list, and `index` items have been read. -/
def readItems (depth : Nat) (expected : String) : {γ : Type} → Form γ → (index : Nat) → Reader γ
  | _, .done, _, input => .ok ((), input)
  | _, .slot s rest, index, input =>
    match moreItems (index == 0) input with
    | .error failure => .error failure
    | .ok (false, input) =>
      match s.fallback with
      -- the bracket is taken before the list is refused
      | none => failHere (.wrongLength index expected) (input.drop 1)
      | some b => (rest.readItems depth expected (index + 1) input).map fun (c, input) =>
        ((b, c), input)
    | .ok (true, input) =>
      match s.decoder.ofText depth input with
      | .error failure => .error failure
      | .ok (b, input) => (rest.readItems depth expected (index + 1) input).map fun (c, input) =>
        ((b, c), input)

/-- The slots' values from the items of a list, first slot first, and the items left over. -/
def takeItems (expected : String) : {γ : Type} → Form γ → (index : Nat) → List Json →
    Except Cause (γ × List Json)
  | _, .done, _, items => .ok ((), items)
  | _, .slot s rest, index, [] =>
    match s.fallback with
    | none => .error (.wrongLength index expected)
    | some b => (rest.takeItems expected (index + 1) []).map fun (c, items) => ((b, c), items)
  | _, .slot s rest, index, item :: items =>
    match s.decoder.ofValue item with
    | .error cause => .error cause
    | .ok b => (rest.takeItems expected (index + 1) items).map fun (c, items) => ((b, c), items)

/-- The description of a record given as a list. -/
def listed {γ : Type} (form : Form γ) (title : String) : String :=
  title ++ " with " ++ String.ofList (Text.decimal form.size)
    ++ (if form.size = 1 then " element" else " elements")

end Form

namespace Decoder

/-- The finished form of a record that has been read from a text. -/
def finishNext {γ : Type} (read : Except Failure (Form γ × List Piece)) :
    Except Failure (γ × List Piece) :=
  match read with
  | .error failure => .error failure
  | .ok (form, rest) =>
    match form.finish with
    | .ok values => .ok (values, rest)
    | .error cause => failHere cause rest

/-- A record with exactly the slots of a form; other members are passed over. It may also be given
as the list of its values. -/
def record {γ α : Type} (title : String) (form : Form γ) (build : γ → α) : Decoder α where
  ofText depth input :=
    match skipBlanks input with
    | [] => failHere (.endOfText .value) []
    | .char '[' :: rest =>
      match depth with
      | 0 => failAtNext .tooDeep (.char '[' :: rest)
      | depth + 1 =>
        match form.readItems depth (form.listed title) 0 rest with
        | .error failure => .error failure
        | .ok (values, rest) => (endOfList rest).map fun ((), rest) => (build values, rest)
    | .char '\x7b' :: rest =>
      match depth with
      | 0 => failAtNext .tooDeep (.char '\x7b' :: rest)
      | depth + 1 =>
        let member (name : String) (form : Form γ) : Reader (Form γ) :=
          match form.read? depth name with
          | some read => read
          | none => fun input => (afterColon passOver input).map fun ((), rest) => (form, rest)
        (finishNext (membersOf member form rest)).map fun (values, rest) => (build values, rest)
    | other => refuse title other
  ofValue
    | .array items =>
      match form.takeItems (form.listed title) 0 items with
      | .error cause => .error cause
      | .ok (values, []) => .ok (build values)
      | .ok (_, _ :: _) => .error (.wrongLength items.length "fewer elements in array")
    | .object members =>
      match form.takeMembers members with
      | .error cause => .error cause
      | .ok form => form.finish.map build
    | other => refuseValue title other
  absent := none

/-- A record with the slots of a form that keeps its other members too. -/
def openRecord {γ α : Type} (title : String) (form : Form γ) (build : γ → Members → α) :
    Decoder α where
  ofText depth input :=
    match skipBlanks input with
    | [] => failHere (.endOfText .value) []
    | .char '\x7b' :: rest =>
      match depth with
      | 0 => failAtNext .tooDeep (.char '\x7b' :: rest)
      | depth + 1 =>
        let member (name : String) (state : Form γ × Members) : Reader (Form γ × Members) :=
          match state.1.read? depth name with
          | some read => fun input => (read input).map fun (form, rest) => ((form, state.2), rest)
          | none => fun input => (afterColon (anyValue depth) input).map fun (value, rest) =>
            ((state.1, Members.insert name value state.2), rest)
        match membersOf member (form, []) rest with
        | .error failure => .error failure
        | .ok ((form, others), rest) =>
          (finishNext (.ok (form, rest))).map fun (values, rest) => (build values others, rest)
    | other => refuse title other
  ofValue
    | .object members =>
      match form.takeMembers members with
      | .error cause => .error cause
      | .ok filled => filled.finish.map fun values => build values (form.others members)
    | other => refuseValue title other
  absent := none

end Decoder

end SuiteBridge.Json
