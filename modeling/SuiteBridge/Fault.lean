import SuiteBridge.Json.Decoder
import SuiteBridge.Json.Outline
import SuiteBridge.Text.Letters

/-!
# Faults

Everything that can go wrong with a call is described by one structure, with a kind for programs, a
message for people, and an optional code and details. `Fault.report` is the document a host gets in
place of a result.
-/

namespace SuiteBridge

/-- What sort of thing went wrong. -/
inductive FaultKind where
  /-- A required argument was not given; no request was made. -/
  | parameterMissing
  /-- An argument was given but cannot be used; no request was made. -/
  | validation
  /-- The remote service turned the request down. -/
  | api
  /-- The request could not be carried out, or its answer not be understood. -/
  | internal
  deriving DecidableEq, Repr

namespace FaultKind

/-- The name of a kind. -/
def name : FaultKind → String
  | .parameterMissing => "PARAMETER_MISSING"
  | .validation => "VALIDATION_ERROR"
  | .api => "API_ERROR"
  | .internal => "INTERNAL_ERROR"

/-- All kinds, each under its name. -/
def named : List (String × FaultKind) :=
  [.parameterMissing, .validation, .api, .internal].map fun kind => (kind.name, kind)

/-- A kind is decoded from its name. -/
def decoder : Json.Decoder FaultKind :=
  .choice named

end FaultKind

/-- A failed call. -/
structure Fault where
  kind : FaultKind
  message : String
  code : Option String
  details : Option String
  /-- What led to the fault, the direct cause first and each the cause of the one before. -/
  causes : List String
  deriving DecidableEq, Repr

namespace Fault

/-- A fault of a kind with a message and nothing else. -/
def of (kind : FaultKind) (message : String) : Fault :=
  ⟨kind, message, none, none, []⟩

/-- The fault with a code. -/
def withCode (code : String) (fault : Fault) : Fault :=
  { fault with code := some code }

/-- The fault with details. -/
def withDetails (details : String) (fault : Fault) : Fault :=
  { fault with details := some details }

/-- The fault with the chain of its causes. -/
def withCauses (causes : List String) (fault : Fault) : Fault :=
  { fault with causes }

/-- The required parameter of this name was not given. -/
def parameterMissing (name : String) : Fault :=
  (of .parameterMissing ("the '" ++ name ++ "' parameter is required")).withCode
    ("MISSING_" ++ Text.upper name)

/-- Something given cannot be used. -/
def validation (message : String) : Fault :=
  of .validation message

/-- The remote service turned the request down. -/
def api (message code : String) : Fault :=
  (of .api message).withCode code

/-- The request or its answer failed. -/
def internal (message : String) : Fault :=
  of .internal message

/-- A fault in one line. -/
def line (fault : Fault) : String :=
  fault.kind.name ++ ": " ++ fault.message

end Fault

/-- The document a host gets about a failed call. -/
structure FaultReport where
  isError : Bool
  kind : FaultKind
  code : Option String
  details : Option String
  content : String
  deriving DecidableEq, Repr

/-- The report of a fault. Without details of its own, the chain of its causes takes their place. -/
def Fault.report (fault : Fault) : FaultReport where
  isError := true
  kind := fault.kind
  code := fault.code
  details :=
    match fault.details, fault.causes with
    | some details, _ => some details
    | none, [] => none
    | none, causes => some (Text.join ": " causes)
  content := fault.message

namespace FaultReport

/-- A report as JSON; code and details are left out when there are none. -/
def toJson (report : FaultReport) : Json :=
  .object [
    ("isError", .bool report.isError),
    ("error", .object (("kind", .string report.kind.name)
      :: Members.optional "code" (report.code.map .string)
      ++ Members.optional "details" (report.details.map .string))),
    ("content", .string report.content)]

/-- What a report says of itself when it is to be written. -/
def outline (report : FaultReport) : Json.Outline :=
  .record [
    ("isError", .flag report.isError),
    ("error", .record (("kind", .text report.kind.name)
      :: Json.Outline.optional "code" (report.code.map .text)
      ++ Json.Outline.optional "details" (report.details.map .text))),
    ("content", .text report.content)]

/-- The part of a report that programs read. -/
def body : Json.Decoder (FaultKind × Option String × Option String) :=
  .record "struct ErrorBody"
    (.required "kind" FaultKind.decoder <|
      .defaulting "code" (.optional .text) none <|
      .defaulting "details" (.optional .text) none .done)
    fun (kind, code, details, ()) => (kind, code, details)

/-- A report is decoded from what `toJson` makes of it. -/
def decoder : Json.Decoder FaultReport :=
  .record "struct ErrorResponse"
    (.required "isError" .flag <| .required "error" body <| .required "content" .text .done)
    fun (isError, (kind, code, details), content, ()) => ⟨isError, kind, code, details, content⟩

end FaultReport

end SuiteBridge
