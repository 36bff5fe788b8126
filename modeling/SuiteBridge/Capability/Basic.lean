import SuiteBridge.Capability.Parameter
import SuiteBridge.Capability.Plan

/-!
# Capabilities

A capability has a descriptor for hosts and a behaviour: what it does with the arguments of a call.
It may end at once, well or badly, it may need an answer of the suite, it may wait to be let go on,
or it may never end.
-/

namespace SuiteBridge

open Calendar (DateTime)

/-- What a host is told about a capability. -/
structure Descriptor where
  name : String
  description : String
  /-- The schema of the arguments. -/
  schema : Json
  category : Category
  deriving Repr

/-- A capability as a host lists it. A schema that is no object counts as an empty one. -/
def Descriptor.toTool (descriptor : Descriptor) : Json :=
  .object [("name", .string descriptor.name), ("description", .string descriptor.description),
    ("inputSchema", match descriptor.schema with
      | .object members => .object members
      | _ => .object [])]

/-- How a run of a capability ends. -/
inductive Ending where
  | returned (result : Except Fault Json)
  /-- The run broke off, perhaps with a message. -/
  | brokeOff (message : Option String)

/-- What a capability does with the arguments of a call. -/
inductive Activity where
  | ends (ending : Ending)
  /-- Needs the answer to a call. -/
  | asks (plan : Plan)
  /-- Ends as told, once it is let go on. -/
  | waits (ending : Ending)
  /-- Never ends. -/
  | hangs

/-- A capability. -/
structure Capability where
  descriptor : Descriptor
  run : Arguments → Activity

/-- A capability that plans one call to the suite. -/
structure Tool where
  category : Category
  name : String
  description : String
  parameters : List Parameter
  plan : Arguments → Except Fault Plan

/-- A tool as a capability. -/
def Tool.toCapability (tool : Tool) : Capability where
  descriptor := ⟨tool.name, tool.description, Parameter.objectSchema tool.parameters, tool.category⟩
  run args :=
    match tool.plan args with
    | .ok plan => .asks plan
    | .error fault => .ends (.returned (.error fault))

/-- What calls meet outside: the settings they go out with, the time it is, and what comes back. -/
structure World where
  settings : Settings
  now : DateTime
  outcome : Remote.Outcome

namespace Ending

/-- The result of a run. One that broke off is an internal fault that names the capability. -/
def result (name : String) : Ending → Except Fault Json
  | .returned result => result
  | .brokeOff message => .error ((Fault.internal ("capability '" ++ name
      ++ "' failed unexpectedly: " ++ message.getD "unknown panic")).withCode "HANDLER_PANIC")

end Ending

namespace Activity

/-- How an activity ends at once, if it does. -/
def ending? (world : World) : Activity → Option Ending
  | .ends ending => some ending
  | .asks plan => some (.returned (plan.conclude world.settings world.now world.outcome))
  | .waits _ => none
  | .hangs => none

/-- How an activity ends at last, if it does: one that waits is let go on. -/
def finally? (world : World) : Activity → Option Ending
  | .waits ending => some ending
  | activity => activity.ending? world

/-- What an activity reports by itself. -/
def events (world : World) : Activity → List Event
  | .asks plan => plan.events world.settings world.now world.outcome
  | _ => []

/-- The request that an activity makes. -/
def request? (settings : Settings) : Activity → Option Remote.Request
  | .asks plan => some (plan.call.request settings)
  | _ => none

end Activity

/-- What a host gets for a call. -/
inductive ToolAnswer where
  | success (value : Json)
  | failure (report : FaultReport)

namespace ToolAnswer

/-- The answer for a result. -/
def ofResult : Except Fault Json → ToolAnswer
  | .ok value => .success value
  | .error fault => .failure fault.report

/-- Whether an answer is about a failure. -/
def isError : ToolAnswer → Bool
  | .success _ => false
  | .failure _ => true

/-- The document in an answer. The content of a report that cannot be written stands in for it. -/
def toJson : ToolAnswer → Json
  | .success value => value
  | .failure report =>
    match report.outline.encode with
    | .ok value => value
    | .error problem => .string (report.content ++ ": " ++ problem.message)

/-- The answer as the one text of a tool result. -/
def toolResult (answer : ToolAnswer) : Json :=
  .object [
    ("content", .array [.object [("type", .string "text"),
      ("text", .string answer.toJson.render)]]),
    ("isError", .bool answer.isError)]

/-- What a tool result says of itself when it is to be written. -/
def outline (answer : ToolAnswer) : Json.Outline :=
  .record [
    ("content", .list [.record [("type", .text "text"), ("text", .text answer.toJson.render)]]),
    ("isError", .flag answer.isError)]

end ToolAnswer

end SuiteBridge
