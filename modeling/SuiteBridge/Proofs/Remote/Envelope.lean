import SuiteBridge.Remote.Envelope
import SuiteBridge.Proofs.Json.Coherence

/-!
# Envelopes, written and read

As it is written, an envelope is made of what is under its three names (`envelope_eq_ok`). From a
text it is read in one of two ways: out of an object by way of a draft that is filled member by
member (`Remote.Envelope.ofText_object`), or out of a list part by part
(`Remote.Envelope.ofText_list`). What the result is decoded as matters to neither, as long as it is
a function of any value (`Json.Decoder.MapsTo`).
-/

namespace SuiteBridge

open Json (Coherent Decoder Form Reader afterColon anyValue failHere membersOf passOver skipBlanks)
open Remote (Envelope Header)
open Text (Piece)

/-! ## Envelopes as they are written -/

/-- A header is decoded to the very same one. -/
theorem coherent_header : Coherent (· = ·) Header.decoder := by
  refine Decoder.coherent_record (.required Decoder.coherent_flag <|
    .required (Decoder.coherent_integer _) <| .required Decoder.coherent_text .done) ?_
  rintro ⟨_, _, _, _⟩ ⟨_, _, _, _⟩ ⟨rfl, rfl, rfl, -⟩
  rfl

/-- An envelope is decoded with the very same header. -/
theorem coherent_envelope {α : Type} {same : α → α → Prop} {result : Decoder α}
    (coherent : Coherent same result) :
    Coherent (fun text value => text.header = value.header) (Envelope.decoder result) := by
  refine Decoder.coherent_record (.required coherent_header <| .required coherent <|
    .defaulting (Decoder.coherent_optional (Decoder.coherent_map (Decoder.coherent_integer _)
      fun a b => congrArg Int.toNat)) .none .done) ?_
  rintro ⟨_, _, _, _⟩ ⟨_, _, _, _⟩ ⟨same, -⟩
  exact same

/-- The slot of the header in an envelope. -/
def headerSlot : Json.Slot Header :=
  ⟨"header", Header.decoder, none, none⟩

/-- The slot of the result in an envelope. -/
def resultSlot {α : Type} (result : Decoder α) : Json.Slot α :=
  ⟨"result", result, none, none⟩

/-- The slot of the count in an envelope. -/
def totalSlot : Json.Slot (Option Nat) :=
  ⟨"totalCount", .optional .uint64, some none, none⟩

/-- An envelope is made of what is under its three names. -/
theorem envelope_eq_ok {α : Type} {result : Decoder α} {members : Members}
    {envelope : Envelope α} :
    (Envelope.decoder result).ofValue (.object members) = .ok envelope ↔
      headerSlot.given (members.named "header") = .ok envelope.header ∧
      (resultSlot result).given (members.named "result") = .ok envelope.result ∧
      totalSlot.given (members.named "totalCount") = .ok envelope.totalCount := by
  have filled : ∀ header payload total,
      (Form.slot headerSlot (.slot (resultSlot result) (.slot totalSlot .done))).make members =
        .ok (header, payload, total, ()) ↔
      headerSlot.given (members.named "header") = .ok header ∧
      (resultSlot result).given (members.named "result") = .ok payload ∧
      totalSlot.given (members.named "totalCount") = .ok total := by
    intro header payload total
    rw [Form.make_slot rfl, Form.make_slot rfl, Form.make_slot rfl, Form.make_done]
    simp [headerSlot, resultSlot, totalSlot]
  unfold Envelope.decoder
  rw [Json.Decoder.record_ofValue_eq_make, Json.map_eq_ok]
  constructor
  · rintro ⟨⟨header, payload, total, ⟨⟩⟩, made, rfl⟩
    exact (filled header payload total).mp made
  · intro given
    exact ⟨(_, _, _, ()), (filled _ _ _).mpr given, rfl⟩

/-- A header is there once. -/
theorem given_header {values : List Json} {header : Header} :
    headerSlot.given values = .ok header ↔
      ∃ value, values = [value] ∧ Header.decoder.ofValue value = .ok header :=
  Json.Slot.given_eq_ok rfl

namespace Json

/-! ## One reading as a function of another -/

/-- The other decoder reads the same texts, and gives a function of what the first one gives. -/
def Decoder.MapsTo {α β : Type} (make : α → β) (decoder : Decoder α) (other : Decoder β) : Prop :=
  ∀ depth input,
    other.ofText depth input = (decoder.ofText depth input).map fun (a, rest) => (make a, rest)

variable {α β γ δ : Type} {make : α → β}

theorem Decoder.mapsTo_self (decoder : Decoder α) : decoder.MapsTo id decoder := by
  intro depth input
  cases decoder.ofText depth input <;> rfl

theorem afterColon_map {read : Reader α} {other : Reader β}
    (maps : ∀ input, other input = (read input).map fun (a, rest) => (make a, rest))
    (input : List Piece) :
    afterColon other input = (afterColon read input).map fun (a, rest) => (make a, rest) := by
  unfold afterColon
  cases colon input with
  | error failure => rfl
  | ok after => exact maps after.2

theorem refuse_map (expected : String) (input : List Piece) (make : α → β) :
    (refuse expected input).map (fun (a, rest) => (make a, rest)) =
      (refuse expected input : Except Failure (β × List Piece)) := by
  unfold refuse
  cases sightingOf input <;> rfl

/-- Items are read into the first slot and those behind it; where the one maps and the others do,
the whole row does. -/
theorem Form.readItems_slot {slot : Slot α} {other : Slot β} {rest : Form γ} {others : Form δ}
    {view : γ → δ} {depth : Nat} {expected : String}
    (maps : slot.decoder.MapsTo make other.decoder)
    (fallback : other.fallback = slot.fallback.map make)
    (mapsOthers : ∀ index input, others.readItems depth expected index input =
      (rest.readItems depth expected index input).map fun (c, input) => (view c, input))
    (index : Nat) (input : List Piece) :
    (Form.slot other others).readItems depth expected index input =
      ((Form.slot slot rest).readItems depth expected index input).map
        fun (values, input) => (values.map make view, input) := by
  unfold readItems
  cases moreItems (index == 0) input with
  | error failure => rfl
  | ok more =>
      obtain ⟨more, input⟩ := more
      cases more with
      | false =>
          rw [fallback]
          cases slot.fallback with
          | none => rfl
          | some a =>
              simp only [Option.map_some, mapsOthers, map_map]
              rfl
      | true =>
          simp only [maps depth input]
          cases slot.decoder.ofText depth input with
          | error failure => rfl
          | ok found =>
              obtain ⟨a, input⟩ := found
              change (others.readItems depth expected (index + 1) input).map _ =
                ((rest.readItems depth expected (index + 1) input).map _).map _
              rw [mapsOthers, map_map, map_map]
              rfl

end Json

namespace Remote

namespace Envelope

/-! ## Envelopes as they are read -/

/-- What has been read of an envelope that is given as an object, the result as any value. -/
structure Draft where
  header : Option Header
  result : Option Json
  totalCount : Option (Option Nat)

namespace Draft

/-- Nothing has been read yet. -/
def empty : Draft :=
  ⟨none, none, none⟩

/-- The form that a draft stands for when a function of the result is read. -/
def form {α : Type} (result : Decoder α) (make : Json → α) (draft : Draft) :
    Form (Header × α × Option Nat × Unit) :=
  .slot ⟨"header", Header.decoder, none, draft.header⟩ <|
  .slot ⟨"result", result, none, draft.result.map make⟩ <|
  .slot ⟨"totalCount", .optional .uint64, some none, draft.totalCount⟩ .done

/-- Reads a part of a draft behind its name. A part is given once only. -/
def part {β : Type} (name : String) (given : Option β) (read : Reader β) (fill : β → Draft) :
    Reader Draft := fun input =>
  match given with
  | some _ => failHere (.duplicateField name) (Form.leaveObject input)
  | none => (afterColon read input).map fun (b, rest) => (fill b, rest)

/-- Reads the member of a name; one that is no part of an envelope is passed over. -/
def member (depth : Nat) (name : String) (draft : Draft) : Reader Draft :=
  if "header" = name then
    part name draft.header (Header.decoder.ofText depth)
      fun header => { draft with header := some header }
  else if "result" = name then
    part name draft.result (anyValue depth) fun result => { draft with result := some result }
  else if "totalCount" = name then
    part name draft.totalCount ((Decoder.optional .uint64).ofText depth)
      fun totalCount => { draft with totalCount := some totalCount }
  else fun input => (afterColon passOver input).map fun ((), rest) => (draft, rest)

variable {α : Type} {result : Decoder α} {make : Json → α}

/-- A form is filled member by member as the draft is. -/
theorem slotMember_form (maps : Decoder.any.MapsTo make result) (depth : Nat) (name : String)
    (draft : Draft) (input : List Piece) :
    Decoder.slotMember depth name (draft.form result make) input =
      (draft.member depth name input).map fun (draft, rest) =>
        (draft.form result make, rest) := by
  obtain ⟨header, value, totalCount⟩ := draft
  unfold Decoder.slotMember member form Form.read?
  by_cases first : "header" = name
  · simp only [if_pos first, part]
    cases header with
    | none => simp [Json.map_map, Function.comp_def]
    | some header => rfl
  · simp only [if_neg first]
    unfold Form.read?
    by_cases second : "result" = name
    · simp only [if_pos second, part, Option.map_some]
      cases value with
      | none =>
          simp [Json.map_map, Json.afterColon_map (maps depth), Function.comp_def, Decoder.any]
      | some value => rfl
    · simp only [if_neg second]
      unfold Form.read?
      by_cases third : "totalCount" = name
      · simp only [if_pos third, part, Option.map_some]
        cases totalCount with
        | none => simp [Json.map_map, Function.comp_def]
        | some totalCount => rfl
      · simp only [if_neg third, Form.read?, Option.map_none, Json.map_map]
        rfl

/-- A draft is finished when it has a header, and a result unless that may be left out. -/
theorem finish_form (draft : Draft) :
    (draft.form result make).finish =
      match draft.header, draft.result.map make <|> result.absent with
      | none, _ => .error (.missingField "header")
      | some _, none => .error (.missingField "result")
      | some header, some a => .ok (header, a, draft.totalCount.getD none, ()) := by
  obtain ⟨header, value, totalCount⟩ := draft
  cases header with
  | none => rfl
  | some header =>
      cases totalCount <;> cases value <;> cases absent : result.absent <;>
        simp [form, Form.finish, absent, Except.map]

end Draft

variable {α : Type} {result : Decoder α} {make : Json → α}

theorem membersOf_form (maps : Decoder.any.MapsTo make result) (depth : Nat) (text : List Piece) :
    membersOf (Decoder.slotMember depth) (Draft.empty.form result make) text =
      (membersOf (Draft.member depth) .empty text).map fun (draft, rest) =>
        (draft.form result make, rest) :=
  Json.membersUpTo_map (Draft.form result make) (Draft.slotMember_form maps depth)
    (text.length + 1) true .empty text

/-- From an object an envelope is read by way of a draft. -/
theorem ofText_object (maps : Decoder.any.MapsTo make result) {depth : Nat}
    {input text : List Piece} (start : skipBlanks input = .char '\x7b' :: text) :
    (decoder result).ofText (depth + 1) input =
      (Decoder.finishNext ((membersOf (Draft.member depth) .empty text).map
        fun (draft, rest) => (draft.form result make, rest))).map
          fun ((header, a, totalCount, ()), rest) => (⟨header, a, totalCount⟩, rest) := by
  unfold decoder
  rw [Decoder.record_ofText start, ← membersOf_form maps]
  rfl

/-- The parts of an envelope from the items of a list in their order, the result as any value. -/
def items (depth : Nat) : Reader (Header × Json × Option Nat × Unit) :=
  (Draft.empty.form .any id).readItems depth
    ((Draft.empty.form .any id).listed "struct RemoteEnvelope") 0

/-- From a list an envelope is read part by part. -/
theorem ofText_list (maps : Decoder.any.MapsTo make result) {depth : Nat}
    {input text : List Piece} (start : skipBlanks input = .char '[' :: text) :
    (decoder result).ofText (depth + 1) input =
      (items depth text).bind fun (values, rest) => (Json.endOfList rest).map fun ((), rest) =>
        (⟨values.1, make values.2.1, values.2.2.1⟩, rest) := by
  have read : (Draft.empty.form result make).readItems depth
      ((Draft.empty.form result make).listed "struct RemoteEnvelope") 0 text =
        (items depth text).map fun (values, rest) =>
          (values.map id (Prod.map make (Prod.map id id)), rest) :=
    Form.readItems_slot (Decoder.mapsTo_self _) rfl
      (Form.readItems_slot maps rfl
        (Form.readItems_slot (Decoder.mapsTo_self _) rfl fun _ _ => rfl)) 0 text
  unfold decoder
  rw [Decoder.record_ofText_list start]
  refine (congrArg (Except.bind · _) read).trans ?_
  cases items depth text <;> rfl

end Envelope

end Remote

end SuiteBridge
