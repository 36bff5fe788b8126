import SuiteBridge.Json.Decoder

/-!
# Messenger channels

A channel as the messenger reports it, with the members this library does not know kept as they
are, and the short view of it for listings.
-/

namespace SuiteBridge

/-- The people of a channel. What is said about each is kept as it is; only their number counts. -/
structure Roster where
  participants : List Json
  deriving Repr

/-- A messenger channel. -/
structure Channel where
  id : String
  title : Option String
  /-- One of direct, private, me and bot. -/
  kind : Option String
  /-- One of system, normal, archived and deleted. -/
  status : Option String
  users : Option Roster
  createdAt : Option String
  updatedAt : Option String
  /-- The members not named above, in their order. -/
  extra : Members
  deriving Repr

/-- The short view of a channel. -/
structure ChannelSummary where
  id : String
  title : Option String
  kind : Option String
  status : Option String
  updatedAt : Option String
  participantCount : Option Nat
  deriving DecidableEq, Repr

namespace Roster

/-- A roster as JSON. -/
def toJson (roster : Roster) : Json :=
  .object [("participants", .array roster.participants)]

/-- A roster is decoded with no participants when they are left out. -/
def decoder : Json.Decoder Roster :=
  .record "struct ChannelUsers" (.defaulting "participants" (.list .any) [] .done)
    fun (participants, ()) => ⟨participants⟩

end Roster

namespace Channel

/-- The slots of a channel. -/
def form : Json.Form (String × Option String × Option String × Option String × Option Roster
    × Option String × Option String × Unit) :=
  .required "id" .text <|
  .defaulting "title" (.optional .text) none <|
  .defaulting "type" (.optional .text) none <|
  .defaulting "status" (.optional .text) none <|
  .defaulting "users" (.optional Roster.decoder) none <|
  .defaulting "createdAt" (.optional .text) none <|
  .defaulting "updatedAt" (.optional .text) none .done

/-- A channel is decoded from an object that has an id. -/
def decoder : Json.Decoder Channel :=
  .openRecord "struct Channel" form
    fun (id, title, kind, status, users, createdAt, updatedAt, ()) extra =>
      ⟨id, title, kind, status, users, createdAt, updatedAt, extra⟩

/-- A channel as JSON: what is known of it first, then the rest. -/
def toJson (channel : Channel) : Json :=
  .object ([("id", .string channel.id)]
    ++ Members.optional "title" (channel.title.map .string)
    ++ Members.optional "type" (channel.kind.map .string)
    ++ Members.optional "status" (channel.status.map .string)
    ++ Members.optional "users" (channel.users.map Roster.toJson)
    ++ Members.optional "createdAt" (channel.createdAt.map .string)
    ++ Members.optional "updatedAt" (channel.updatedAt.map .string)
    ++ channel.extra)

/-- The short view of a channel. -/
def summary (channel : Channel) : ChannelSummary where
  id := channel.id
  title := channel.title
  kind := channel.kind
  status := channel.status
  updatedAt := channel.updatedAt
  participantCount := channel.users.map fun roster => roster.participants.length

end Channel

namespace ChannelSummary

/-- A short view is decoded from an object that has an id. -/
def decoder : Json.Decoder ChannelSummary :=
  .record "struct SimpleChannel"
    (.required "id" .text <|
      .required "title" (.optional .text) <|
      .required "type" (.optional .text) <|
      .required "status" (.optional .text) <|
      .required "updatedAt" (.optional .text) <|
      .required "participantCount" (.optional .count) .done)
    fun (id, title, kind, status, updatedAt, participantCount, ()) =>
      ⟨id, title, kind, status, updatedAt, participantCount⟩

/-- A short view as JSON, with null for what is not known. -/
def toJson (summary : ChannelSummary) : Json :=
  .object [
    ("id", .string summary.id),
    ("title", .textOrNull summary.title),
    ("type", .textOrNull summary.kind),
    ("status", .textOrNull summary.status),
    ("updatedAt", .textOrNull summary.updatedAt),
    ("participantCount", .orNull (summary.participantCount.map .nat))]

end ChannelSummary

end SuiteBridge
