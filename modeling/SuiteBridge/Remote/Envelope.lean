import SuiteBridge.Fault

/-!
# Envelopes

The suite wraps each answer in an envelope: a header that tells whether the request was granted, the
result itself, and for lists the number of items there are in all.
-/

namespace SuiteBridge.Remote

/-- The header of an envelope. -/
structure Header where
  isSuccessful : Bool
  resultCode : Int
  resultMessage : String
  deriving DecidableEq, Repr

/-- An answer of the suite. -/
structure Envelope (α : Type) where
  header : Header
  result : α
  totalCount : Option Nat
  deriving Repr

/-- One page of a list, with the number of items there are in all, when that is told. -/
structure Page (α : Type) where
  items : List α
  totalCount : Option Nat
  deriving Repr

namespace Header

/-- A header is decoded from an object with all of its members. -/
def decoder : Json.Decoder Header :=
  .record "struct ResultHeader"
    (.required "isSuccessful" .flag <| .required "resultCode" .int64 <|
      .required "resultMessage" .text .done)
    fun (isSuccessful, resultCode, resultMessage, ()) => ⟨isSuccessful, resultCode, resultMessage⟩

/-- A header as JSON. -/
def toJson (header : Header) : Json :=
  .object [("isSuccessful", .bool header.isSuccessful), ("resultCode", .int header.resultCode),
    ("resultMessage", .string header.resultMessage)]

/-- The fault of a request that was not granted. -/
def failure (header : Header) : Fault :=
  .api header.resultMessage ("DOORAY_API_" ++ String.ofList (Text.decimalInt header.resultCode))

end Header

namespace Envelope

/-- An envelope is decoded with its result as the given decoder tells. -/
def decoder {α : Type} (result : Json.Decoder α) : Json.Decoder (Envelope α) :=
  .record "struct RemoteEnvelope"
    (.required "header" Header.decoder <| .required "result" result <|
      .defaulting "totalCount" (.optional .uint64) none .done)
    fun (header, result, totalCount, ()) => ⟨header, result, totalCount⟩

/-- An envelope as JSON; the count is left out when it is not told. -/
def toJson {α : Type} (result : α → Json) (envelope : Envelope α) : Json :=
  .object ([("header", envelope.header.toJson), ("result", result envelope.result)]
    ++ Members.optional "totalCount" (envelope.totalCount.map .nat))

/-- Whether the request was granted. -/
def isSuccessful {α : Type} (envelope : Envelope α) : Bool :=
  envelope.header.isSuccessful

/-- The fault of a request that was not granted. -/
def failure {α : Type} (envelope : Envelope α) : Fault :=
  envelope.header.failure

/-- The result of a request that was granted. -/
def payload {α : Type} (envelope : Envelope α) : Except Fault α :=
  if envelope.header.isSuccessful then .ok envelope.result else .error envelope.header.failure

/-- The result of a request that was granted, as far as one was sent along. -/
def ensureSuccessful {α : Type} (envelope : Envelope (Option α)) : Except Fault (Option α) :=
  if envelope.isSuccessful then .ok envelope.result else .error envelope.failure

/-- The page of a request for a list that was granted. -/
def page {α : Type} (envelope : Envelope (List α)) : Except Fault (Page α) :=
  envelope.payload.map fun items => ⟨items, envelope.totalCount⟩

end Envelope

/-- How many items there are in all, as far as one can tell. -/
def Page.total {α : Type} (page : Page α) : Nat :=
  page.totalCount.getD page.items.length

/-- The message in an answer with an unexpected status: an envelope with at least a message. -/
def statusMessage : Json.Decoder String :=
  .record "struct ErrorEnvelope"
    (.required "header"
      (.record "struct ErrorHeader" (.required "resultMessage" .text .done) Prod.fst) .done)
    Prod.fst

end SuiteBridge.Remote
