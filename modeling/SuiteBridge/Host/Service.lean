import SuiteBridge.Capability.Registry
import SuiteBridge.Host.Message

/-!
# The service

A service answers the requests of a host over a registry. A request is answered by itself or sets a
capability to work (`Service.work`); `Service.answerLine` answers one line after the other, each
when its work is done.
-/

namespace SuiteBridge.Host

/-- What a host is served. -/
structure Service where
  registry : Registry
  name : String
  version : String
  /-- What a host should know about using the tools. -/
  instructions : Option String

/-- The name a service goes by. -/
def serviceName : String := "dooray-mcp"

/-- The version of the services made here. -/
def serviceVersion : String := "0.3.0"

/-- The version of the protocol that services keep to. -/
def protocolVersion : String := "2024-11-05"

/-- What a request sets going. -/
inductive Work where
  /-- The reply is there already. -/
  | replies (reply : Reply)
  /-- A capability runs for the request of an id. -/
  | runs (id : Json) (name : String) (activity : Activity)

namespace Work

/-- The reply to a request when its capability has ended: the tool result, if it can be written. -/
def replyAfter (id : Json) (name : String) (ending : Ending) : Reply :=
  match (ToolAnswer.ofResult (ending.result name)).outline.encode with
  | .ok value => .result id value
  | .error problem =>
    .error id .internalError ("failed to encode tool result: " ++ problem.message)

/-- The reply that comes of some work at last. -/
def reply? (world : World) : Work → Option Reply
  | .replies reply => some reply
  | .runs id name activity => (activity.finally? world).map (replyAfter id name)

/-- Whether the work, once begun, is done without anything else having to happen. -/
def isPrompt (world : World) : Work → Bool
  | .replies _ => true
  | .runs _ _ activity => (activity.ending? world).isSome

/-- What is reported when work begins. -/
def beginEvents (world : World) : Work → List Event
  | .replies _ => []
  | .runs _ name activity => .capabilityCalled name :: activity.events world

/-- What is reported when work is done. -/
def doneEvents (world : World) : Work → List Event
  | .replies _ => []
  | .runs _ name activity =>
    match activity.finally? world with
    | some ending => [Registry.endEvent name (ending.result name)]
    | none => []

/-- The request that some work makes of the suite. -/
def request? (settings : Settings) : Work → Option Remote.Request
  | .replies _ => none
  | .runs _ _ activity => activity.request? settings

end Work

namespace Service

/-- The service over a registry. -/
def ofRegistry (registry : Registry) (instructions : Option String) : Service :=
  ⟨registry, serviceName, serviceVersion, instructions⟩

/-- What a host is told when it introduces itself. -/
def greeting (service : Service) : Json :=
  .object ([("protocolVersion", .string protocolVersion),
    ("capabilities", .object [("tools", .object [])]),
    ("serverInfo", .object [("name", .string service.name), ("version", .string service.version)])]
    ++ Members.optional "instructions" (service.instructions.map Json.string))

/-- What a request for a tool sets going. -/
def toolWork (service : Service) (id params : Json) : Work :=
  match (params.member? "name").bind Json.text? with
  | none => .replies (.error id .invalidParams "tools/call requires a string 'name'")
  | some name =>
    .runs id name (service.registry.dispatch name (Json.orNull (params.member? "arguments")))

/-- What a request sets going. -/
def work (service : Service) (request : Request) : Work :=
  match request.method with
  | "initialize" => .replies (.result request.id service.greeting)
  | "ping" => .replies (.result request.id (.object []))
  | "tools/list" =>
    .replies (.result request.id (.object [("tools", .array service.registry.tools)]))
  | "tools/call" => service.toolWork request.id request.params
  | method => .replies (.error request.id .methodNotFound ("Method not found: " ++ method))

/-- What is reported when a host lets us know something. -/
def noticeEvents (service : Service) (method : String) : List Event :=
  if method = "notifications/initialized" then [.hostInitialized service.registry.size]
  else if method = cancellation then []
  else [.notificationIgnored method]

/-- The reply to one line, once its work is done. A notification has none. -/
def answerLine (service : Service) (world : World) (line : String) : Option Reply :=
  match Message.ofLine line with
  | .error refusal => some refusal.reply
  | .ok (.notification _) => none
  | .ok (.request request) => (service.work request).reply? world

/-- What is reported while one line is answered. -/
def lineEvents (service : Service) (world : World) (line : String) : List Event :=
  match Message.ofLine line with
  | .error _ => []
  | .ok (.notification notification) => service.noticeEvents notification.method
  | .ok (.request request) =>
    let work := service.work request
    .requestReceived request.method request.id :: work.beginEvents world ++ work.doneEvents world

/-- The request that one line makes of the suite. -/
def lineRequest? (service : Service) (settings : Settings) (line : String) :
    Option Remote.Request :=
  match Message.ofLine line with
  | .ok (.request request) => (service.work request).request? settings
  | _ => none

end Service

end SuiteBridge.Host
