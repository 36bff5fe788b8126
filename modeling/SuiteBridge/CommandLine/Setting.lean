import SuiteBridge.Settings

/-!
# Settings on the command line

Each setting is given by a flag, by a variable of the environment or not at all. Two of them are
checked where they are given: a time must be a span, and the format of the log one of two words.
-/

namespace SuiteBridge.CommandLine

/-- A setting that can be given. -/
inductive Setting where
  | baseUrl
  | apiKey
  | enabledCategories
  | requestTimeout
  | logFormat
  deriving DecidableEq, Repr

/-- How events are written. -/
inductive LogFormat where
  | text
  | json
  deriving DecidableEq, Repr

/-- The format of a word. -/
def LogFormat.ofWord? : String → Option LogFormat
  | "text" => some .text
  | "json" => some .json
  | _ => none

namespace Setting

/-- All settings. -/
def all : List Setting :=
  [.baseUrl, .apiKey, .enabledCategories, .requestTimeout, .logFormat]

/-- The flag of a setting, without the dashes. -/
def flag : Setting → String
  | .baseUrl => "base-url"
  | .apiKey => "api-key"
  | .enabledCategories => "enabled-categories"
  | .requestTimeout => "request-timeout"
  | .logFormat => "log-format"

/-- The variable of the environment that stands in for a flag. -/
def environmentName : Setting → String
  | .baseUrl => "DOORAY_BASE_URL"
  | .apiKey => "DOORAY_API_KEY"
  | .enabledCategories => "DOORAY_ENABLED_CATEGORIES"
  | .requestTimeout => "DOORAY_REQUEST_TIMEOUT"
  | .logFormat => "DOORAY_LOG_FORMAT"

/-- The setting of a flag. -/
def ofFlag? (name : String) : Option Setting :=
  all.find? fun setting => setting.flag == name

/-- Whether a value can be taken for a setting. -/
def accepts (value : String) : Setting → Bool
  | .requestTimeout => (Settings.parseSpan value).isOk
  | .logFormat => (LogFormat.ofWord? value).isSome
  | _ => true

end Setting

end SuiteBridge.CommandLine
