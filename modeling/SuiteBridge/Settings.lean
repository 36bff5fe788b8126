import SuiteBridge.Span
import SuiteBridge.Url.Parser

/-!
# Settings

What is needed to reach the suite: the address of its service, the key of the caller and how long a
request may take.
-/

namespace SuiteBridge

/-- What is wrong with a setting. -/
inductive SettingsProblem where
  | baseUrl (raw : String) (problem : UrlProblem)
  | emptyKey
  | invalidKey
  | span (problem : SpanProblem)
  deriving DecidableEq, Repr

/-- The wording of a problem. -/
def SettingsProblem.message : SettingsProblem → String
  | .baseUrl raw problem => "invalid base URL '" ++ raw ++ "': " ++ problem.message
  | .emptyKey => "API key must not be empty"
  | .invalidKey => "API key contains characters not allowed in an HTTP header"
  | .span problem => "invalid duration: " ++ problem.message

/-- What is needed to reach the suite. -/
structure Settings where
  base : Url
  key : String
  timeout : Span
  deriving Repr

namespace Settings

/-- The address used when none is given. -/
def defaultBase : String := "https://api.dooray.com"

/-- How long a request may take when nothing is said about it. -/
def defaultTimeout : Span := ⟨30000⟩

/-- The address of a service. -/
def parseBase (raw : String) : Except SettingsProblem Url :=
  match Url.parse raw with
  | .ok url => .ok url
  | .error problem => .error (.baseUrl raw problem)

/-- A span of time in a setting. -/
def parseSpan (raw : String) : Except SettingsProblem Span :=
  match Span.parse raw with
  | .ok span => .ok span
  | .error problem => .error (.span problem)

/-- A control character. -/
def isControl (c : Char) : Bool :=
  c.toNat < 0x20 || (0x7F ≤ c.toNat && c.toNat ≤ 0x9F)

/-- The settings for an address and a key. -/
def ofTexts (base key : String) : Except SettingsProblem Settings :=
  match parseBase base with
  | .error problem => .error problem
  | .ok url =>
    if Text.isBlank key then .error .emptyKey
    else if key.toList.any isControl then .error .invalidKey
    else .ok ⟨url, key, defaultTimeout⟩

/-- The settings with another time for requests. -/
def withTimeout (timeout : Span) (settings : Settings) : Settings :=
  { settings with timeout }

end Settings

end SuiteBridge
