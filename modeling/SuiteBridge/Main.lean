import SuiteBridge.CommandLine.Launch

/-!
# The program

Reads the arguments and the environment, then serves a host over the standard streams until the
input ends. The program has no way to the network: every request to the suite counts as refused.
-/

namespace SuiteBridge.Main

open CommandLine (Command Launch LaunchProblem Setting)
open Host (Session)

/-- What calls of the program meet outside. -/
def world (launch : Launch) : World :=
  ⟨launch.settings, .earliest, .failed .refused⟩

/-- Writes what has come since an earlier state of the session: replies, and events of weight. -/
def publish (launch : Launch) (before after : Session) : IO Unit := do
  let stdout ← IO.getStdout
  let replies := after.written.drop before.written.length
  stdout.putStr (Host.transcript (replies.map Host.Reply.toJson))
  stdout.flush
  for event in after.events.drop before.events.length do
    if event.level ≠ .debug then
      IO.eprintln (launch.logFormat.line event)

/-- Serves a host until the input ends. -/
partial def loop (launch : Launch) (session : Session) : IO UInt32 := do
  let bytes ← (← IO.getStdin).read 65536
  let read := if bytes.isEmpty then session.endInput else session.receive bytes.toList
  let next := read.settle (world launch)
  publish launch session next
  match next.phase with
  | .serving => loop launch next
  | .closed => return 0
  | .failed =>
    IO.eprint LaunchProblem.input.report
    return 1

/-- The values of the environment that settings can come from. -/
def environment : IO (List (String × String)) := do
  let values ← Setting.all.mapM fun setting => do
    return (← IO.getEnv setting.environmentName).map fun value => (setting.environmentName, value)
  return values.filterMap id

end SuiteBridge.Main

open SuiteBridge SuiteBridge.CommandLine in
/-- Runs the program. -/
def main (arguments : List String) : IO UInt32 := do
  let environment ← Main.environment
  match Command.parse (fun name => environment.lookup name) arguments with
  | .error problem =>
    IO.eprintln ("error: " ++ problem.message ++ "\n\n" ++ usageLine)
    return 2
  | .ok .help =>
    IO.println usageLine
    return 0
  | .ok .version =>
    IO.println versionLine
    return 0
  | .ok (.serve options) =>
    match options.launch with
    | .error problem =>
      IO.eprint problem.report
      return 1
    | .ok launch =>
      for event in launch.session.events do
        if event.level ≠ .debug then
          IO.eprintln (launch.logFormat.line event)
      Main.loop launch launch.session
