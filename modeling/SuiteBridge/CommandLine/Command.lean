import SuiteBridge.CommandLine.Setting

/-!
# Commands

The arguments are read from left to right, and the first that is wrong, or that asks for the help or
the version, decides. Settings that no flag gives are looked up in the environment afterwards; a
variable that is empty counts as given.
-/

namespace SuiteBridge.CommandLine

/-- What an argument looks like. -/
inductive Word where
  | plain
  /-- Two dashes alone: no flags after this. -/
  | marker
  | long (name : String) (value : Option String)
  | short (letters : List Char)
  deriving DecidableEq, Repr

/-- What an argument looks like. A dash alone is a plain word. -/
def Word.ofArgument (argument : String) : Word :=
  match argument.toList with
  | ['-', '-'] => .marker
  | '-' :: '-' :: rest =>
    match Text.cutAt? '=' rest with
    | some (name, value) => .long (String.ofList name) (some (String.ofList value))
    | none => .long (String.ofList rest) none
  | '-' :: letter :: rest => .short (letter :: rest)
  | _ => .plain

/-- Why arguments make no command. -/
inductive UsageProblem where
  | unexpected (argument : String)
  | repeated (setting : Setting)
  | valueMissing (setting : Setting)
  | badValue (setting : Setting) (value : String)
  | notGiven (setting : Setting)
  deriving DecidableEq, Repr

/-- The wording of a problem. -/
def UsageProblem.message : UsageProblem → String
  | .unexpected argument => "unexpected argument '" ++ argument ++ "'"
  | .repeated setting => "--" ++ setting.flag ++ " is given more than once"
  | .valueMissing setting => "--" ++ setting.flag ++ " needs a value"
  | .badValue setting value => "--" ++ setting.flag ++ " cannot be '" ++ value ++ "'"
  | .notGiven setting => "--" ++ setting.flag ++ " is required"

/-- Settings with their values. -/
abbrev Given := List (Setting × String)

/-- With one more setting. -/
def Given.put (setting : Setting) (value : String) (given : Given) : Except UsageProblem Given :=
  if (given.lookup setting).isSome then .error (.repeated setting)
  else if setting.accepts value then .ok ((setting, value) :: given)
  else .error (.badValue setting value)

/-- What a service is run with. -/
structure Options where
  base : String
  key : String
  categories : Option String
  timeout : Span
  logFormat : LogFormat
  deriving Repr

/-- What arguments ask for. -/
inductive Wish where
  | help
  | version
  | run (given : Given)

/-- What arguments ask for, after some settings. -/
def scan (given : Given) : List String → Except UsageProblem Wish
  | [] => .ok (.run given)
  | argument :: rest =>
    match Word.ofArgument argument with
    | .plain => .error (.unexpected argument)
    | .marker =>
      match rest with
      | [] => .ok (.run given)
      | extra :: _ => .error (.unexpected extra)
    | .short ('V' :: _) => .ok .version
    | .short ('h' :: _) => .ok .help
    | .short _ => .error (.unexpected argument)
    | .long "version" none => .ok .version
    | .long "help" none => .ok .help
    | .long name value =>
      match Setting.ofFlag? name with
      | none => .error (.unexpected argument)
      | some setting =>
        match value with
        | some value => (given.put setting value).bind fun given => scan given rest
        | none =>
          match rest with
          | [] => .error (.valueMissing setting)
          | value :: rest =>
            if Word.ofArgument value = .plain then
              (given.put setting value).bind fun given => scan given rest
            else .error (.valueMissing setting)

/-- With the values of the environment for what is not given. -/
def Given.complete (environment : String → Option String) (given : Given) :
    List Setting → Except UsageProblem Given
  | [] => .ok given
  | setting :: rest =>
    match given.lookup setting, environment setting.environmentName with
    | none, some value =>
      (given.put setting value).bind fun given => complete environment given rest
    | _, _ => complete environment given rest

/-- The options of complete settings. -/
def Given.options (given : Given) : Except UsageProblem Options :=
  match given.lookup .apiKey with
  | none => .error (.notGiven .apiKey)
  | some key => .ok {
      base := (given.lookup .baseUrl).getD Settings.defaultBase
      key
      categories := given.lookup .enabledCategories
      timeout := match (given.lookup .requestTimeout).map Settings.parseSpan with
        | some (.ok span) => span
        | _ => Settings.defaultTimeout
      logFormat := ((given.lookup .logFormat).bind LogFormat.ofWord?).getD .text }

/-- What the program is to do. -/
inductive Command where
  | help
  | version
  | serve (options : Options)

/-- The command of arguments in an environment. -/
def Command.parse (environment : String → Option String) (arguments : List String) :
    Except UsageProblem Command :=
  (scan [] arguments).bind fun wish =>
    match wish with
    | .help => .ok .help
    | .version => .ok .version
    | .run given =>
      (given.complete environment Setting.all).bind fun given => given.options.map .serve

end SuiteBridge.CommandLine
