import SuiteBridge.Json.Printer
import SuiteBridge.Text.Quoted

/-!
# Why a JSON text or value is refused

The causes fall into two groups: faults of the text itself, and values that are not of the wanted
shape. `Cause.message` gives the one wording of each.
-/

namespace SuiteBridge.Json

/-- What a value is, as far as a refusal tells it. -/
inductive Sighting where
  | null
  | bool (b : Bool)
  | number (n : Number)
  | string (s : String)
  | sequence
  | map
  deriving DecidableEq, Repr

/-- What one sees of a value. -/
def sighting : Json → Sighting
  | .null => .null
  | .bool b => .bool b
  | .number n => .number n
  | .string s => .string s
  | .array _ => .sequence
  | .object _ => .map

/-- The words for a sighting. -/
def Sighting.words : Sighting → String
  | .null => "null"
  | .bool true => "boolean `true`"
  | .bool false => "boolean `false`"
  | .number (.integer i) => "integer `" ++ String.ofList (Text.decimalInt i) ++ "`"
  | .number (.real x) => "floating point `" ++ String.ofList x.text ++ "`"
  | .string s => "string " ++ Text.quoted s
  | .sequence => "sequence"
  | .map => "map"

/-- What the end of the text cut short. -/
inductive Unfinished where
  | value
  | list
  | object
  | string
  deriving DecidableEq, Repr

/-- Why a text or a value is refused. -/
inductive Cause where
  | endOfText (inside : Unfinished)
  | expectedValue
  | expectedIdentifier
  | expectedColon
  | expectedListCommaOrEnd
  | expectedObjectCommaOrEnd
  | keyMustBeString
  | trailingComma
  | trailingCharacters
  | invalidNumber
  | numberOutOfRange
  | invalidEscape
  | invalidCodePoint
  | controlCharacter
  | loneSurrogate
  | unfinishedHexEscape
  | tooDeep
  | missingField (name : String)
  | duplicateField (name : String)
  | wrongType (found : Sighting) (expected : String)
  | wrongValue (found : Sighting) (expected : String)
  | wrongLength (length : Nat) (expected : String)
  | unknownVariant (name : String) (known : List String)
  deriving DecidableEq, Repr

/-- The names of the choices in a list for people. -/
def choiceWords (known : List String) : String :=
  let ticked := known.map fun name => "`" ++ name ++ "`"
  match ticked with
  | [] => "there are no variants"
  | [only] => "expected " ++ only
  | [first, second] => "expected " ++ first ++ " or " ++ second
  | many => "expected one of " ++ Text.join ", " many

/-- The wording of a cause. -/
def Cause.message : Cause → String
  | .endOfText .value => "EOF while parsing a value"
  | .endOfText .list => "EOF while parsing a list"
  | .endOfText .object => "EOF while parsing an object"
  | .endOfText .string => "EOF while parsing a string"
  | .expectedValue => "expected value"
  | .expectedIdentifier => "expected ident"
  | .expectedColon => "expected `:`"
  | .expectedListCommaOrEnd => "expected `,` or `]`"
  | .expectedObjectCommaOrEnd => "expected `,` or `\x7d`"
  | .keyMustBeString => "key must be a string"
  | .trailingComma => "trailing comma"
  | .trailingCharacters => "trailing characters"
  | .invalidNumber => "invalid number"
  | .numberOutOfRange => "number out of range"
  | .invalidEscape => "invalid escape"
  | .invalidCodePoint => "invalid unicode code point"
  | .controlCharacter => "control character (\\u0000-\\u001F) found while parsing a string"
  | .loneSurrogate => "lone leading surrogate in hex escape"
  | .unfinishedHexEscape => "unexpected end of hex escape"
  | .tooDeep => "recursion limit exceeded"
  | .missingField name => "missing field `" ++ name ++ "`"
  | .duplicateField name => "duplicate field `" ++ name ++ "`"
  | .wrongType found expected => "invalid type: " ++ found.words ++ ", expected " ++ expected
  | .wrongValue found expected => "invalid value: " ++ found.words ++ ", expected " ++ expected
  | .wrongLength length expected =>
    "invalid length " ++ String.ofList (Text.decimal length) ++ ", expected " ++ expected
  | .unknownVariant name known => "unknown variant `" ++ name ++ "`, " ++ choiceWords known

end SuiteBridge.Json
