import SuiteBridge.Proofs.Call.Endings
import SuiteBridge.Proofs.Entity.Encoding
import SuiteBridge.Proofs.Json.Yield

/-!
# Full and short lists of channels

Two tools list the channels of the caller, one in full and one in short. They ask the same, they
fail alike, and what the short list says can be read off the full one entry by entry
(`Suite.listings_agree`, where `Json.abridged` does the reading).

That it can be read off rests on how channels are decoded: the members that a channel keeps as they
are never bear a name that the channel knows (`Channel.IsTidy`), so no such member stands in for
something that the channel does not have.
-/

namespace SuiteBridge

open Calendar (DateTime)
open Remote (Envelope Invocation Outcome Page decodeBody)

/-! ## The short entry of a full one -/

/-- The number of participants in the full entry of a channel, if it has users at all. -/
def Json.participantCount? (full : Json) : Option Nat :=
  match (full.member? "users").bind (Json.member? "participants") with
  | some (.array participants) => some participants.length
  | _ => none

/-- The short entry of a channel, read off its full one. -/
def Json.abridged (full : Json) : Json :=
  .object [
    ("id", .orNull (full.member? "id")),
    ("title", .orNull (full.member? "title")),
    ("type", .orNull (full.member? "type")),
    ("status", .orNull (full.member? "status")),
    ("updatedAt", .orNull (full.member? "updatedAt")),
    ("participantCount", .orNull (full.participantCount?.map .nat))]

namespace Channel

/-- The short entry of a channel is what its full one says. -/
theorem abridged_toJson {channel : Channel} (tidy : channel.IsTidy) :
    channel.toJson.abridged = channel.summary.toJson := by
  obtain ⟨id, title, type, status, users, -, updatedAt⟩ := member?_toJson tidy
  have count : channel.toJson.participantCount? = channel.summary.participantCount := by
    unfold Json.participantCount?
    rw [users, summary]
    cases channel.users <;> rfl
  unfold Json.abridged
  rw [id, title, type, status, updatedAt, count]
  rfl

end Channel

/-! ## What is decoded -/

theorem yields_channel : Json.Yields Channel.IsTidy Channel.decoder :=
  Json.yields_openRecord fun _ _ apart => apart

theorem yields_envelope {α : Type} {good : α → Prop} {result : Json.Decoder α}
    (yields : Json.Yields good result) :
    Json.Yields (fun envelope => good envelope.result) (Envelope.decoder result) :=
  Json.yields_record (.required (Json.yields_true _) <| .required yields <|
    .defaulting (Json.yields_true _) trivial .done) fun _ values => values.2.1

/-- The channels of an answer are tidy. -/
theorem isTidy_of_decodeBody {body : List UInt8} {envelope : Envelope (List Channel)}
    (decoded : decodeBody (Envelope.decoder (.list Channel.decoder)) body = .ok envelope) :
    ∀ channel ∈ envelope.result, channel.IsTidy :=
  (yields_envelope (Json.yields_list yields_channel)).decodePieces decoded

/-- The page of an answer is what its envelope holds, if there is one at all. -/
theorem invokePage_cases {α : Type} (invocation : Invocation) (item : Json.Decoder α)
    (outcome : Outcome) :
    (∃ fault, invocation.invokePage item outcome = .error fault) ∨
    ∃ body envelope, outcome = .answered invocation.expected body ∧
      decodeBody (Envelope.decoder (.list item)) body = .ok envelope ∧
      invocation.invokePage item outcome = .ok ⟨envelope.result, envelope.totalCount⟩ := by
  unfold Invocation.invokePage
  rcases execute_cases invocation (Envelope.decoder (.list item)) outcome with
    ⟨failure, -, judged⟩ | ⟨status, body, -, -, judged⟩ | ⟨body, cause, -, -, judged⟩ |
      ⟨body, envelope, answered, decoded, judged⟩
  · exact Or.inl ⟨_, by rw [judged]; rfl⟩
  · exact Or.inl ⟨_, by rw [judged]; rfl⟩
  · exact Or.inl ⟨_, by rw [judged]; rfl⟩
  · cases granted : envelope.header.isSuccessful with
    | false =>
        refine Or.inl ⟨envelope.header.failure, ?_⟩
        simp [judged, Except.bind, Except.map, Envelope.page, Envelope.payload, granted]
    | true =>
        refine Or.inr ⟨body, envelope, answered, decoded, ?_⟩
        simp [judged, Except.bind, Except.map, Envelope.page, Envelope.payload, granted]

/-! ## The two tools -/

namespace Suite

/-- The document that lists some channels. -/
def channelDocument (channels : List Json) (total : Nat) (message : String) : Json :=
  .object [("success", .bool true),
    ("data", .object [("channels", .array channels), ("totalCount", .nat total)]),
    ("message", .string message)]

namespace Messenger

/-- Both lists come from one call, or fail over the same argument. -/
theorem channelList_cases (args : Arguments) :
    (∃ fault, ∀ finish, channelList finish args = .error fault) ∨
      ∃ months call, args.number? "recent_months" = .ok months ∧ call.expected = 200 ∧
        ∀ finish, channelList finish args =
          .ok ⟨call, .channels (months.filter (0 < ·)) finish⟩ := by
  unfold channelList
  cases args.number? "recent_months" with
  | error fault => exact Or.inl ⟨fault, fun _ => rfl⟩
  | ok months =>
      cases args.number? "page" with
      | error fault => exact Or.inl ⟨fault, fun _ => rfl⟩
      | ok page =>
          cases args.number? "size" with
          | error fault => exact Or.inl ⟨fault, fun _ => rfl⟩
          | ok size => exact Or.inr ⟨months, _, rfl, rfl, fun _ => rfl⟩

/-- The two tools end with the same fault, or ask the same and read the same channels. -/
theorem run_channels_cases (args : Arguments) :
    (∃ fault,
      getChannels.toCapability.run args = .ends (.returned (.error fault)) ∧
      getSimpleChannels.toCapability.run args = .ends (.returned (.error fault))) ∨
    ∃ months call, args.number? "recent_months" = .ok months ∧ call.expected = 200 ∧
      getChannels.toCapability.run args = .asks ⟨call, .channels (months.filter (0 < ·))
        (channelListing Channel.toJson)⟩ ∧
      getSimpleChannels.toCapability.run args = .asks ⟨call, .channels (months.filter (0 < ·))
        (channelListing fun channel => channel.summary.toJson)⟩ := by
  simp only [Tool.toCapability, getChannels, getSimpleChannels]
  rcases channelList_cases args with ⟨fault, failed⟩ | ⟨months, call, asked, expected, planned⟩
  · left
    refine ⟨fault, ?_, ?_⟩
    · rw [failed]
    · rw [failed]
  · right
    refine ⟨months, call, asked, expected, ?_, ?_⟩
    · rw [planned]
    · rw [planned]

/-- The channels that are shown in full, seen through their full entries, are those shown in
short. -/
theorem map_abridged {channels : List Channel} (tidy : ∀ channel ∈ channels, channel.IsTidy) :
    (channels.map Channel.toJson).map Json.abridged =
      channels.map fun channel => channel.summary.toJson := by
  rw [List.map_map]
  exact List.map_congr_left fun channel member => Channel.abridged_toJson (tidy channel member)

end Messenger

section RecentChannels

variable {now : DateTime} {months : Option Nat} {count : Nat} {page : Page Channel}

theorem recentChannels_of_pos (positive : 0 < count) :
    Reading.recentChannels now ((some count).filter (0 < ·)) page =
      ⟨Recency.filter now count page.items,
        some (Recency.filter now count page.items).length⟩ := by
  rw [Option.filter_some, if_pos (decide_eq_true positive)]
  rfl

theorem recentChannels_of_zero (zero : ∀ count, months = some count → count = 0) :
    Reading.recentChannels now (months.filter (0 < ·)) page = page := by
  cases months with
  | none => rfl
  | some count =>
      rw [zero count rfl]
      rfl

theorem mem_of_mem_recentChannels {channel : Channel}
    (shown : channel ∈ (Reading.recentChannels now months page).items) : channel ∈ page.items := by
  cases months with
  | none => exact shown
  | some months => exact (List.mem_filter.mp shown).1

end RecentChannels

/-- **The full and the short list of channels agree.** The two tools make the same request, if any,
and fail alike or give documents with the same number and the same message, in which each short
entry is the full entry in its place, abridged. With a positive number of months these are the
recent channels of the answer, and as many as are told; otherwise they are all of its channels. -/
theorem listings_agree (args : Arguments) (world : World) :
    (Messenger.getChannels.toCapability.run args).request? world.settings =
      (Messenger.getSimpleChannels.toCapability.run args).request? world.settings ∧
    ((∃ fault,
      (Messenger.getChannels.toCapability.run args).ending? world =
        some (.returned (.error fault)) ∧
      (Messenger.getSimpleChannels.toCapability.run args).ending? world =
        some (.returned (.error fault))) ∨
    ∃ entries total message body envelope,
      (Messenger.getChannels.toCapability.run args).ending? world =
        some (.returned (.ok (channelDocument entries total message))) ∧
      (Messenger.getSimpleChannels.toCapability.run args).ending? world =
        some (.returned (.ok (channelDocument (entries.map Json.abridged) total message))) ∧
      world.outcome = .answered 200 body ∧
      decodeBody (Envelope.decoder (.list Channel.decoder)) body = .ok envelope ∧
      (∀ months, args.number? "recent_months" = .ok (some months) → 0 < months →
        entries = (Recency.filter world.now months envelope.result).map Channel.toJson ∧
          total = entries.length) ∧
      ((∀ months, args.number? "recent_months" = .ok (some months) → months = 0) →
        entries = envelope.result.map Channel.toJson)) := by
  rcases Messenger.run_channels_cases args with ⟨fault, full, short⟩ |
    ⟨months, call, asked, expected, full, short⟩
  · rw [full, short]
    exact ⟨rfl, Or.inl ⟨fault, rfl, rfl⟩⟩
  rw [full, short]
  refine ⟨rfl, ?_⟩
  simp only [Activity.ending?, Plan.conclude, Reading.conclude, Plan.invocation]
  rcases invokePage_cases ⟨call.description world.settings, call.expected⟩ Channel.decoder
    world.outcome with ⟨fault, failed⟩ | ⟨body, envelope, answered, decoded, paged⟩
  · rw [failed]
    exact Or.inl ⟨fault, rfl, rfl⟩
  rw [paged]
  rw [expected] at answered
  -- nothing is shown that does not come out of the answer, so every full entry can be abridged
  have tidy : ∀ channel ∈ (Reading.recentChannels world.now (months.filter (0 < ·))
      ⟨envelope.result, envelope.totalCount⟩).items, channel.IsTidy :=
    fun channel shown => isTidy_of_decodeBody decoded channel (mem_of_mem_recentChannels shown)
  refine Or.inr ⟨_, _, _, body, envelope, rfl, ?_, answered, decoded, ?_, ?_⟩
  · rw [Messenger.map_abridged tidy]
    rfl
  · intro count given positive
    cases asked.symm.trans given
    rw [recentChannels_of_pos positive]
    exact ⟨rfl, (List.length_map _).symm⟩
  · intro unlimited
    have zero : ∀ count, months = some count → count = 0 :=
      fun count same => unlimited count (same ▸ asked)
    rw [recentChannels_of_zero zero]

/-- An answer with a channel of last December, which has a member of no channel's, and one of years
ago. -/
def channelsAnswer : Json :=
  .object [
    ("header", .object [("isSuccessful", .bool true), ("resultCode", .nat 0),
      ("resultMessage", .string "")]),
    ("result", .array [
      .object [("id", .string "1"), ("rank", .nat 5), ("updatedAt", .string "2024-12-24T09:00:00"),
        ("users", .object [("participants", .array [.nat 1, .nat 2])])],
      .object [("id", .string "2"), ("updatedAt", .string "2020-01-01T00:00:00")]]),
    ("totalCount", .nat 2)]

/-- A world in which the channels are answered. -/
def worldOfChannels : World :=
  { worldAnswering 200 "" with
    outcome := .answered 200 (Text.Utf8.encode channelsAnswer.text) }

/-- Arguments that ask for the channels of the last three months. -/
def quarterArguments : Arguments :=
  ⟨[("recent_months", .nat 3)]⟩

/-- The channels in a document that lists them. -/
def listedChannels (document : Json) : List Json :=
  match (document.member? "data").bind (Json.member? "channels") with
  | some (.array channels) => channels
  | _ => []

/-- Of the two channels, both tools show the first, which has two participants. -/
theorem listings_agree_quarter :
    ∃ entry message, entry.participantCount? = some 2 ∧
      (Messenger.getChannels.toCapability.run quarterArguments).ending? worldOfChannels =
        some (.returned (.ok (channelDocument [entry] 1 message))) ∧
      (Messenger.getSimpleChannels.toCapability.run quarterArguments).ending? worldOfChannels =
        some (.returned (.ok (channelDocument [entry.abridged] 1 message))) := by
  have counted : (((Messenger.getChannels.toCapability.run quarterArguments).ending?
      worldOfChannels).bind Ending.value?).map
        (fun document => (listedChannels document).map Json.participantCount?) =
      some [some 2] := by
    decide +kernel
  obtain ⟨-, ⟨fault, failed, -⟩ |
      ⟨entries, total, message, body, envelope, full, short, -, -, recent, -⟩⟩ :=
    listings_agree quarterArguments worldOfChannels
  · rw [failed] at counted
    cases counted
  · rw [full] at counted
    obtain ⟨entry, rfl, count⟩ := List.map_eq_singleton_iff.mp (Option.some_inj.mp counted)
    obtain ⟨-, rfl⟩ := recent 3 rfl (by decide)
    exact ⟨entry, message, count, full, short⟩

end Suite

end SuiteBridge
