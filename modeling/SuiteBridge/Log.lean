import SuiteBridge.Calendar.DateTime
import SuiteBridge.Category.Basic
import SuiteBridge.Fault

/-!
# The log

Everything the library reports while it works is one of the events below. An event has a level, the
part of the program it comes from, a message and named fields.
-/

namespace SuiteBridge

/-- How much an event matters. -/
inductive Level where
  | debug
  | info
  | warn
  deriving DecidableEq, Repr

/-- The name of a level. -/
def Level.name : Level → String
  | .debug => "DEBUG"
  | .info => "INFO"
  | .warn => "WARN"

/-- What became of a request that has no answer. -/
inductive TransportFailure.Manner where
  | timedOut
  | refused
  | broken
  deriving DecidableEq, Repr

/-- How a request failed before an answer was there. -/
structure TransportFailure where
  manner : TransportFailure.Manner
  /-- What is known of it: the error, then what led to it, the direct cause first. -/
  report : List String
  deriving DecidableEq, Repr

namespace TransportFailure

/-- A refused connection of which no more is known. -/
def refused : TransportFailure :=
  ⟨.refused, []⟩

/-- A transport failure in words. -/
def words (failure : TransportFailure) : String :=
  match failure.manner with
  | .timedOut => "timed out"
  | .refused => "connection failed"
  | .broken => "failed"

end TransportFailure

/-- Something worth reporting. -/
inductive Event where
  | unknownCategory (token : String)
  | noValidCategory (raw : String)
  | unusableTimestamp (id : String) (timestamp : Option String)
  | recencyApplied (months : Nat) (cutoff : Calendar.DateTime) (before after : Nat)
  | requestMade (operation : String)
  | responseReceived (operation : String) (status : Nat)
  | responseUndecodable (operation problem body : String)
  | failureReported (operation : String) (code : Int) (message : String)
  | statusUnexpected (operation : String) (status : Nat) (message : String)
  | transportFailed (operation : String) (failure : TransportFailure)
  | capabilityDisabled (name : String) (category : Category)
  | registryBuilt (registered declared : Nat)
  | capabilityCalled (name : String)
  | capabilitySucceeded (name : String)
  | capabilityFailed (name : String) (fault : Fault)
  | requestReceived (method : String) (id : Json)
  | hostInitialized (capabilities : Nat)
  | notificationIgnored (method : String)
  | requestCancelled (id : Json) (reason : String)
  | hostClosed (inFlight : Nat)
  deriving Repr

namespace Event

/-- How much an event matters. -/
def level : Event → Level
  | unknownCategory _ | noValidCategory _ | unusableTimestamp _ _ | responseUndecodable _ _ _
  | failureReported _ _ _ | statusUnexpected _ _ _ | transportFailed _ _ | capabilityFailed _ _
  | notificationIgnored _ => .warn
  | requestMade _ | responseReceived _ _ | registryBuilt _ _ | capabilitySucceeded _
  | hostInitialized _ | hostClosed _ => .info
  | recencyApplied _ _ _ _ | capabilityDisabled _ _ | capabilityCalled _ | requestReceived _ _
  | requestCancelled _ _ => .debug

/-- The part of the program an event comes from. -/
def target : Event → String
  | unknownCategory _ | noValidCategory _ => "dooray::category"
  | unusableTimestamp _ _ | recencyApplied _ _ _ _ => "dooray::shaping"
  | requestMade _ | responseReceived _ _ | responseUndecodable _ _ _ | failureReported _ _ _
  | statusUnexpected _ _ _ | transportFailed _ _ => "dooray::remote"
  | capabilityDisabled _ _ | registryBuilt _ _ | capabilityCalled _ | capabilitySucceeded _
  | capabilityFailed _ _ => "dooray::registry"
  | requestReceived _ _ | hostInitialized _ | notificationIgnored _ | requestCancelled _ _
  | hostClosed _ => "dooray::server"

/-- The message of an event. -/
def message : Event → String
  | unknownCategory _ => "ignoring unknown category"
  | noValidCategory _ => "no valid categories configured, enabling all categories"
  | unusableTimestamp _ _ => "excluding entity with unusable timestamp"
  | recencyApplied _ _ _ _ => "applied recency filter"
  | requestMade _ => "api request"
  | responseReceived _ _ => "api response"
  | responseUndecodable _ _ _ => "failed to decode api response"
  | failureReported _ _ _ => "api reported failure"
  | statusUnexpected _ _ _ => "api error response"
  | transportFailed _ failure => "api request " ++ failure.words
  | capabilityDisabled _ _ => "capability disabled by category filter"
  | registryBuilt _ _ => "capability registry built"
  | capabilityCalled _ => "capability call"
  | capabilitySucceeded _ => "capability succeeded"
  | capabilityFailed _ _ => "capability failed"
  | requestReceived _ _ => "request"
  | hostInitialized _ => "host initialized"
  | notificationIgnored _ => "ignoring unknown notification"
  | requestCancelled _ _ => "request cancelled by host"
  | hostClosed _ => "host closed the connection"

/-- A timestamp that may be missing, in words. -/
def timestampWords : Option String → String
  | none => "None"
  | some raw => "Some(" ++ Text.quoted raw ++ ")"

/-- The named fields of an event. -/
def fields : Event → Members
  | unknownCategory token => [("token", .string token)]
  | noValidCategory raw => [("raw", .string raw)]
  | unusableTimestamp id timestamp =>
    [("id", .string id), ("timestamp", .string (timestampWords timestamp))]
  | recencyApplied months cutoff before after =>
    [("months", .nat months), ("cutoff", .string cutoff.text), ("before", .nat before),
      ("after", .nat after)]
  | requestMade operation => [("operation", .string operation)]
  | responseReceived operation status =>
    [("operation", .string operation), ("status", .nat status)]
  | responseUndecodable operation problem body =>
    [("operation", .string operation), ("error", .string problem), ("body", .string body)]
  | failureReported operation code message =>
    [("operation", .string operation), ("code", .int code), ("message", .string message)]
  | statusUnexpected operation status message =>
    [("operation", .string operation), ("status", .nat status), ("message", .string message)]
  | transportFailed operation failure =>
    ("operation", .string operation) ::
      Members.optional "error" (failure.report.head?.map .string)
  | capabilityDisabled name category =>
    [("capability", .string name), ("category", .string category.name)]
  | registryBuilt registered declared =>
    [("registered", .nat registered), ("declared", .nat declared)]
  | capabilityCalled name => [("capability", .string name)]
  | capabilitySucceeded name => [("capability", .string name)]
  | capabilityFailed name fault =>
    [("capability", .string name), ("kind", .string fault.kind.name),
      ("code", .string (fault.code.getD "")), ("error", .string fault.message)]
  | requestReceived method id => [("method", .string method), ("id", .string id.render)]
  | hostInitialized capabilities => [("capabilities", .nat capabilities)]
  | notificationIgnored method => [("method", .string method)]
  | requestCancelled id reason => [("id", .string id.render), ("reason", .string reason)]
  | hostClosed inFlight => [("in_flight", .nat inFlight)]

end Event

end SuiteBridge
