import SuiteBridge.Binary64.Basic

/-!
# JSON values

A JSON value keeps the order of an object's members. A number written without fraction and
exponent is an integer as long as it fits 64 bits; every other number is a double, so `1` and `1.0`
are different values.
-/

namespace SuiteBridge

/-- A JSON number: an integer or a double. -/
inductive Number where
  | integer (i : Int)
  | real (x : Binary64)
  deriving DecidableEq, Repr

/-- A JSON value. -/
inductive Json where
  | null
  | bool (b : Bool)
  | number (n : Number)
  | string (s : String)
  | array (items : List Json)
  | object (members : List (String × Json))
  deriving Repr, Inhabited

/-- The members of a JSON object, in order. -/
abbrev Members := List (String × Json)

namespace Members

/-- A member with the given name and value: it takes the place of the member of that name, or comes
last when there is none. -/
def insert (name : String) (value : Json) : Members → Members
  | [] => [(name, value)]
  | (key, old) :: rest =>
    if key = name then (name, value) :: rest else (key, old) :: insert name value rest

/-- Members inserted one after the other: a repeated name keeps its first place and takes its last
value. -/
def ofPairs (pairs : List (String × Json)) : Members :=
  pairs.foldl (fun members (name, value) => insert name value members) []

end Members

namespace Json

/-- The integer `n` as a JSON value. -/
def nat (n : Nat) : Json :=
  .number (.integer n)

/-- The integer `i` as a JSON value. -/
def int (i : Int) : Json :=
  .number (.integer i)

/-- A value, or null in place of none. -/
def orNull (value : Option Json) : Json :=
  value.getD .null

/-- A text, or null in place of none. -/
def textOrNull (text : Option String) : Json :=
  orNull (text.map .string)

/-- The array of some texts. -/
def texts (items : List String) : Json :=
  .array (items.map .string)

/-- The value of a member; `none` for a value that is not an object. -/
def member? (name : String) : Json → Option Json
  | .object members => members.lookup name
  | _ => none

/-- The text of a JSON string. -/
def text? : Json → Option String
  | .string s => some s
  | _ => none

/-- Whether a value is null. -/
def isNull : Json → Bool
  | .null => true
  | _ => false

/-- What kind of value this is, in words for people. -/
def kindName : Json → String
  | .null => "null"
  | .bool _ => "boolean"
  | .number _ => "number"
  | .string _ => "string"
  | .array _ => "array"
  | .object _ => "object"

end Json

/-- A member that is left out when there is no value for it. -/
def Members.optional (name : String) (value : Option Json) : Members :=
  match value with
  | none => []
  | some value => [(name, value)]

end SuiteBridge
