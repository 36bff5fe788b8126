import SuiteBridge.Log
import SuiteBridge.Remote.Envelope
import SuiteBridge.Text.Utf8

/-!
# Invocations

What comes back from a request is judged in one place. An answer with the expected status is
decoded; one with another status is a fault of the remote service; no answer at all, or one that
cannot be decoded, is an internal fault. `Invocation.execute` gives the judgement and
`Invocation.events` what is reported on the way to it.
-/

namespace SuiteBridge.Remote

open Text (Utf8.pieces Utf8.decodeLossy)

/-- What comes back from a request. -/
inductive Outcome where
  | failed (failure : TransportFailure)
  | answered (status : Nat) (body : List UInt8)
  deriving Repr

/-- A request on its way: how it is called in messages, and the status that should come back. -/
structure Invocation where
  description : String
  expected : Nat
  deriving DecidableEq, Repr

/-- How many characters of a text are reported when nothing else is said. -/
def defaultPreview : Nat := 256

/-- The start of a text, for reports. -/
def preview (length : Nat) (text : String) : String :=
  String.ofList (text.toList.take length)

/-- The message of an answer with an unexpected status: the one in its envelope, or all of it. -/
def messageOf (body : List UInt8) : String :=
  let text := Utf8.decodeLossy body
  match statusMessage.decodePieces (Json.piecesOf text) with
  | .ok message => message
  | .error _ => text

/-- The value in the body of an answer. -/
def decodeBody {α : Type} (decoder : Json.Decoder α) (body : List UInt8) :
    Except Json.Failure α :=
  decoder.decodePieces (Utf8.pieces body)

/-- What is wrong with a body, and where. -/
def decodeProblem (body : List UInt8) (failure : Json.Failure) : String :=
  failure.messageIn (Utf8.pieces body)

/-- The number of a status in a fault's code. -/
def statusCode (status : Nat) : String :=
  "HTTP_" ++ String.ofList (Text.decimal status)

namespace Invocation

/-- The fault of a request without an answer. Its message ends with the error, its causes are all
that is known. -/
def transportFault (invocation : Invocation) (failure : TransportFailure) : Fault :=
  (Fault.internal (Text.join ": " (("request " ++ invocation.description ++ " " ++ failure.words)
    :: failure.report.take 1))).withCauses failure.report

/-- The fault of an answer that cannot be decoded. -/
def decodeFault (invocation : Invocation) (body : List UInt8) (failure : Json.Failure) : Fault :=
  ((Fault.internal ("failed to decode response of " ++ invocation.description ++ ": "
    ++ decodeProblem body failure)).withDetails (Utf8.decodeLossy body)).withCauses
      [decodeProblem body failure]

/-- The decoded answer of a request, or the fault that stands for it. -/
def execute {α : Type} (invocation : Invocation) (decoder : Json.Decoder α) :
    Outcome → Except Fault α
  | .failed failure => .error (invocation.transportFault failure)
  | .answered status body =>
    if status = invocation.expected then
      match decodeBody decoder body with
      | .ok a => .ok a
      | .error failure => .error (invocation.decodeFault body failure)
    else .error (.api (messageOf body) (statusCode status))

/-- What is reported while an answer is judged. -/
def events {α : Type} (invocation : Invocation) (decoder : Json.Decoder α) (length : Nat)
    (outcome : Outcome) : List Event :=
  .requestMade invocation.description ::
    match outcome with
    | .failed failure => [.transportFailed invocation.description failure]
    | .answered status body =>
      if status = invocation.expected then
        .responseReceived invocation.description status ::
          match decodeBody decoder body with
          | .ok _ => []
          | .error failure => [.responseUndecodable invocation.description
              (decodeProblem body failure) (preview length (Utf8.decodeLossy body))]
      else [.statusUnexpected invocation.description status (preview length (messageOf body))]

/-- The result in the envelope of an answer. -/
def invoke {α : Type} (invocation : Invocation) (result : Json.Decoder α) (outcome : Outcome) :
    Except Fault α :=
  (invocation.execute (Envelope.decoder result) outcome).bind Envelope.payload

/-- The page in the envelope of an answer. -/
def invokePage {α : Type} (invocation : Invocation) (item : Json.Decoder α) (outcome : Outcome) :
    Except Fault (Page α) :=
  (invocation.execute (Envelope.decoder (.list item)) outcome).bind Envelope.page

/-- The envelope of an answer whose result may be left out. Whether the request was granted is for
the caller to see. -/
def invokeNullable {α : Type} (invocation : Invocation) (result : Json.Decoder α)
    (outcome : Outcome) : Except Fault (Envelope (Option α)) :=
  invocation.execute (Envelope.decoder (.optional result)) outcome

/-- What is reported while an answer whose result may be left out is judged. -/
def nullableEvents {α : Type} (invocation : Invocation) (result : Json.Decoder α) (length : Nat)
    (outcome : Outcome) : List Event :=
  invocation.events (Envelope.decoder (.optional result)) length outcome
    ++ match invocation.invokeNullable result outcome with
      | .ok envelope =>
        if envelope.header.isSuccessful then []
        else [.failureReported invocation.description envelope.header.resultCode
          envelope.header.resultMessage]
      | .error _ => []

end Invocation

end SuiteBridge.Remote
