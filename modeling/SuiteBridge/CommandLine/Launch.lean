import SuiteBridge.Category.Selection
import SuiteBridge.CommandLine.Command
import SuiteBridge.Host.Session
import SuiteBridge.Suite.Catalogue

/-!
# Launching the service

From the options of a command to the session that serves a host over the whole catalogue, and what
is said when that cannot be.
-/

namespace SuiteBridge.CommandLine

/-- What hosts are told about the tools. -/
def instructions : String :=
  "Tools for the Dooray collaboration suite: wiki pages, project tasks, messenger channels, "
    ++ "calendars and drive files. Every tool returns JSON; failures carry isError together with "
    ++ "an error kind and code."

/-- The line that names the program and its version. -/
def versionLine : String :=
  Host.serviceName ++ " " ++ Host.serviceVersion

/-- The line that shows how the program is used. -/
def usageLine : String :=
  "Usage: " ++ Host.serviceName ++ " [OPTIONS] --" ++ Setting.apiKey.flag ++ " <VALUE>"

/-- Why the program stops. -/
inductive LaunchProblem where
  | settings (problem : SettingsProblem)
  | catalogue (problem : RegistryProblem)
  /-- A line of the input was no text. -/
  | input
  deriving Repr

namespace LaunchProblem

/-- What could not be done. -/
def context : LaunchProblem → String
  | .settings _ => "invalid Dooray configuration"
  | .catalogue _ => "invalid capability catalogue"
  | .input => "stdio transport failed"

/-- What was in the way. -/
def cause : LaunchProblem → String
  | .settings problem => problem.message
  | .catalogue problem => problem.message
  | .input => "stream did not contain valid UTF-8"

/-- A text with every line moved to the right. -/
def indented (text : String) : String :=
  Text.join "\n" ((Text.splitAt '\n' text).map fun line => "    " ++ line)

/-- The whole report of a problem. -/
def report (problem : LaunchProblem) : String :=
  "Error: " ++ problem.context ++ "\n\nCaused by:\n" ++ indented problem.cause ++ "\n"

end LaunchProblem

/-- A service on its way. -/
structure Launch where
  settings : Settings
  session : Host.Session
  logFormat : LogFormat

/-- The service of a command's options. -/
def Options.launch (options : Options) : Except LaunchProblem Launch :=
  match Settings.ofTexts options.base options.key with
  | .error problem => .error (.settings problem)
  | .ok settings =>
    let enabled := (Selection.ofSetting options.categories).enabled
    match Registry.build Suite.catalogue enabled with
    | .error problem => .error (.catalogue problem)
    | .ok registry =>
      let session := Host.Session.start (.ofRegistry registry (some instructions))
      .ok {
        settings := settings.withTimeout options.timeout
        session := session.report (Selection.events options.categories
          ++ Registry.buildEvents Suite.catalogue enabled)
        logFormat := options.logFormat }

/-- An event as a line of the log. -/
def LogFormat.line (event : Event) : LogFormat → String
  | .text => event.level.name ++ " " ++ event.target ++ ": " ++ event.message
      ++ String.join (event.fields.map fun (name, value) => " " ++ name ++ "=" ++ value.render)
  | .json => Json.render (.object [("level", .string event.level.name),
      ("target", .string event.target), ("message", .string event.message),
      ("fields", .object event.fields)])

end SuiteBridge.CommandLine
