import SuiteBridge.Arguments
import SuiteBridge.Entity.Recency
import SuiteBridge.Remote.Invocation
import SuiteBridge.Remote.Request

/-!
# Plans

A shipped capability turns its arguments into a plan: one call to the suite, and what to make of the
answer. A plan is all there is before the call goes out, so nothing that comes back can change the
request. `Plan.conclude` judges the answer and `Plan.events` is what is reported on the way.
-/

namespace SuiteBridge

open Calendar (DateTime)
open Remote (Call Envelope Invocation Outcome Page)

/-- What a capability gives back when all went well. -/
structure Success where
  data : Json
  message : String
  deriving Repr

/-- A success as JSON. -/
def Success.toJson (success : Success) : Json :=
  .object [("success", .bool true), ("data", success.data), ("message", .string success.message)]

/-- What a success says of itself when it is to be written. -/
def Success.outline (success : Success) : Json.Outline :=
  .record [("success", .flag true), ("data", .json success.data),
    ("message", .text success.message)]

/-- A success as it is written. One that cannot be written is an internal fault. -/
def Success.encode (success : Success) : Except Fault Json :=
  match success.outline.encode with
  | .ok value => .ok value
  | .error problem =>
    .error ((Fault.internal ("failed to encode result: " ++ problem.message)).withCauses
      [problem.message])

/-- What the answer to a call is read as, and what is made of it. -/
inductive Reading where
  /-- Any result. -/
  | value (finish : Json → Success)
  /-- A list of any items. -/
  | items (finish : List Json → Success)
  /-- A page of any items. -/
  | page (finish : Page Json → Success)
  /-- A page of channels, cut down to those of the last months if that is asked for. -/
  | channels (months : Option Nat) (finish : Page Channel → Success)
  /-- The one channel with an id among a list of channels. -/
  | channel (id : String)
  /-- A page of tasks. -/
  | posts (finish : Page Post → Success)
  /-- A result that may be left out. -/
  | acknowledged (finish : Option Json → Success)

/-- One call to the suite, and what to make of the answer. -/
structure Plan where
  call : Call
  reading : Reading

namespace Reading

/-- The channels of a page that are recent enough, with their number. -/
def recentChannels (now : DateTime) (months : Option Nat) (listed : Page Channel) :
    Page Channel :=
  match months with
  | none => listed
  | some months =>
    let kept := Recency.filter now months listed.items
    ⟨kept, some kept.length⟩

/-- The channel with an id. -/
def pickChannel (id : String) (channels : List Channel) : Except Fault Success :=
  match channels.find? fun c => c.id == id with
  | some found => .ok ⟨found.toJson, "channel '" ++ found.title.getD "" ++ "' retrieved"⟩
  | none => .error (.api ("channel '" ++ id ++ "' not found among the caller's channels")
      "CHANNEL_NOT_FOUND")

/-- What is made of an answer. -/
def conclude (now : DateTime) (invocation : Invocation) (outcome : Outcome) :
    Reading → Except Fault Success
  | .value finish => (invocation.invoke .any outcome).map finish
  | .items finish => (invocation.invoke (.list .any) outcome).map finish
  | .page finish => (invocation.invokePage .any outcome).map finish
  | .channels months finish =>
    (invocation.invokePage Channel.decoder outcome).map fun listed =>
      finish (recentChannels now months listed)
  | .channel id => (invocation.invoke (.list Channel.decoder) outcome).bind (pickChannel id)
  | .posts finish => (invocation.invokePage Post.decoder outcome).map finish
  | .acknowledged finish =>
    ((invocation.invokeNullable .any outcome).bind Envelope.ensureSuccessful).map finish

/-- What is reported while channels are cut down to the recent ones. -/
def recentEvents (now : DateTime) (months : Option Nat) :
    Except Fault (Page Channel) → List Event
  | .ok listed =>
    match months with
    | some months => Recency.events now months listed.items
    | none => []
  | .error _ => []

/-- What is reported while an answer is read. -/
def events (now : DateTime) (invocation : Invocation) (outcome : Outcome) : Reading → List Event
  | .value _ => invocation.events (Envelope.decoder .any) Remote.defaultPreview outcome
  | .items _ | .page _ =>
    invocation.events (Envelope.decoder (.list .any)) Remote.defaultPreview outcome
  | .channels months _ =>
    invocation.events (Envelope.decoder (.list Channel.decoder)) Remote.defaultPreview outcome
      ++ recentEvents now months (invocation.invokePage Channel.decoder outcome)
  | .channel _ =>
    invocation.events (Envelope.decoder (.list Channel.decoder)) Remote.defaultPreview outcome
  | .posts _ =>
    invocation.events (Envelope.decoder (.list Post.decoder)) Remote.defaultPreview outcome
  | .acknowledged _ => invocation.nullableEvents .any Remote.defaultPreview outcome

end Reading

namespace Plan

/-- The call of a plan, on its way. -/
def invocation (settings : Settings) (plan : Plan) : Invocation :=
  ⟨plan.call.description settings, plan.call.expected⟩

/-- What comes of a plan. -/
def conclude (settings : Settings) (now : DateTime) (outcome : Outcome) (plan : Plan) :
    Except Fault Json :=
  (plan.reading.conclude now (plan.invocation settings) outcome).bind Success.encode

/-- What is reported while a plan is carried out. -/
def events (settings : Settings) (now : DateTime) (outcome : Outcome) (plan : Plan) :
    List Event :=
  plan.reading.events now (plan.invocation settings) outcome

end Plan

end SuiteBridge
