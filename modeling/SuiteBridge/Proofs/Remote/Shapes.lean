import SuiteBridge.Remote.Invocation
import SuiteBridge.Proofs.Remote.Envelope
import SuiteBridge.Proofs.Text.Utf8

/-!
# The shapes of an invocation

An answer is read with any result (`Invocation.invoke .any`), with one that may be null or left out
(`Invocation.invoke (.optional .any)`), or with such a one and the header looked at afterwards
(`Invocation.invokeNullable`). The last two always give the same. The first one gives the same as
they do, but for an envelope whose result is null and for an envelope that has none
(`Invocation.shapes_agree`): there the lack is noticed before anything that may follow behind the
envelope, so that the faults can differ as well. In a JSON document there is no result exactly if no
member has that name (`Envelope.exists_lacking_iff`).
-/

namespace SuiteBridge

open Json (Decoder anyValue byteCount failHere membersOf skipBlanks)
open Text (Piece Utf8.pieces Utf8.pieces_encode)

namespace Json

/-! ## Null as none -/

/-- A value, or none in place of null. -/
def unlessNull : Json → Option Json
  | .null => none
  | value => some value

theorem anyValue_skipBlanks (depth : Nat) (input : List Piece) :
    anyValue depth (skipBlanks input) = anyValue depth input := by
  rw [anyValue_eq, anyValue_eq, writtenValue_skipBlanks]

/-- Only a text that starts with the letter n is read as null. -/
theorem unlessNull_of_anyValue {depth : Nat} {input rest : List Piece} {value : Json}
    (read : anyValue depth input = .ok (value, rest))
    (other : ∀ text, skipBlanks input ≠ .char 'n' :: text) : value.unlessNull = some value := by
  rw [anyValue_eq, map_eq_ok] at read
  obtain ⟨⟨written, after⟩, read, made⟩ := read
  cases made
  have spells := spells_of_written read
  generalize skipBlanks input = initial at spells other
  cases spells with
  | null => exact absurd rfl (other _)
  | _ => rfl

/-- Any value that may be null is read as any value is. -/
theorem mapsTo_optional_any : Decoder.any.MapsTo unlessNull (.optional .any) := by
  intro depth input
  change _ = (anyValue depth input).map _
  unfold Decoder.optional
  simp only
  split
  · rename_i rest start
    unfold anyValue
    rw [start]
    simp only [map_map]
    rfl
  · rename_i other
    change (anyValue depth (skipBlanks input)).map _ = _
    rw [anyValue_skipBlanks]
    cases read : anyValue depth input with
    | error failure => rfl
    | ok found =>
        have stated := unlessNull_of_anyValue read fun text start => other text start
        simp [Except.map, stated]

end Json

namespace Remote

namespace Envelope

/-! ## Envelopes with a result and without -/

variable {α : Type}

/-- An envelope with a function of its result. -/
def withResult {β : Type} (make : α → β) (envelope : Envelope α) : Envelope β :=
  ⟨envelope.header, make envelope.result, envelope.totalCount⟩

/-- `Lacking depth input header totalCount rest`: a text starts with an object that has a header
and perhaps a count, but no result. -/
inductive Lacking : Nat → List Piece → Header → Option Nat → List Piece → Prop
  | object {depth : Nat} {input text rest : List Piece} {header : Header}
    {totalCount : Option (Option Nat)} :
    skipBlanks input = .char '\x7b' :: text →
    membersOf (Draft.member depth) .empty text = .ok (⟨some header, none, totalCount⟩, rest) →
    Lacking (depth + 1) input header (totalCount.getD none) rest

namespace Lacking

variable {depth : Nat} {input rest : List Piece} {header : Header} {totalCount : Option Nat}

/-- Where any result is needed, its lack is noticed at the end of the object. -/
theorem ofText_any (lacking : Lacking depth input header totalCount rest) :
    (decoder .any).ofText depth input = failHere (.missingField "result") rest := by
  cases lacking with
  | object start read =>
      rw [ofText_object (Decoder.mapsTo_self _) start, read]
      rfl

theorem ofText_optional (lacking : Lacking depth input header totalCount rest) :
    (decoder (.optional .any)).ofText depth input = .ok (⟨header, none, totalCount⟩, rest) := by
  cases lacking with
  | @object _ _ _ _ _ counted start read =>
      rw [ofText_object Json.mapsTo_optional_any start, read]
      cases counted <;> rfl

section Whole

variable {body : List UInt8} (lacking : Lacking Json.greatestDepth (Utf8.pieces body) header
  totalCount rest)

include lacking

theorem decodeBody_any :
    decodeBody (decoder .any) body = .error ⟨.missingField "result", byteCount rest⟩ := by
  unfold decodeBody Decoder.decodePieces Json.wholly
  rw [lacking.ofText_any]
  rfl

theorem decodeBody_optional :
    decodeBody (decoder (.optional .any)) body =
      if skipBlanks rest = [] then .ok ⟨header, none, totalCount⟩
      else .error ⟨.trailingCharacters, byteCount (skipBlanks rest) - 1⟩ := by
  unfold decodeBody Decoder.decodePieces Json.wholly
  rw [lacking.ofText_optional]
  cases ended : skipBlanks rest with
  | nil => simp [ended]
  | cons piece others => simp [ended, Json.failAtNext]

end Whole

end Lacking

/-- A result that may be null is read like any result, unless there is none. -/
theorem ofText_or_lacking (depth : Nat) (input : List Piece) :
    (decoder (.optional .any)).ofText depth input =
        ((decoder .any).ofText depth input).map
          (fun (envelope, rest) => (envelope.withResult Json.unlessNull, rest)) ∨
      ∃ header totalCount rest, Lacking depth input header totalCount rest := by
  generalize start : skipBlanks input = initial
  by_cases object : ∃ text, initial = .char '\x7b' :: text
  · obtain ⟨text, rfl⟩ := object
    cases depth with
    | zero =>
        left
        simp only [decoder, Decoder.record, start]
        rfl
    | succ depth =>
        -- both readings share the draft, and part only when it is finished
        rw [ofText_object (Decoder.mapsTo_self _) start,
          ofText_object Json.mapsTo_optional_any start]
        cases read : membersOf (Draft.member depth) .empty text with
        | error failure => exact .inl rfl
        | ok found =>
            obtain ⟨⟨header, value, totalCount⟩, rest⟩ := found
            simp only [Except.map, Decoder.finishNext, Draft.finish_form]
            cases header with
            | none => exact .inl rfl
            | some header =>
                cases value with
                | some value => exact .inl rfl
                | none => exact .inr ⟨header, _, rest, .object start read⟩
  left
  by_cases list : ∃ text, initial = .char '[' :: text
  · obtain ⟨text, rfl⟩ := list
    cases depth with
    | zero =>
        simp only [decoder, Decoder.record, start]
        rfl
    | succ depth =>
        -- a list may not leave out the result, whatever its absence would mean in an object
        rw [ofText_list (Decoder.mapsTo_self _) start, ofText_list Json.mapsTo_optional_any start]
        cases items depth text with
        | error failure => rfl
        | ok read =>
            simp only [Except.bind]
            cases Json.endOfList read.2 <;> rfl
  · simp only [decoder, Decoder.record, start]
    split
    · rfl
    · exact absurd ⟨_, rfl⟩ list
    · exact absurd ⟨_, rfl⟩ object
    · exact (Json.refuse_map _ _ _).symm

/-- An object that is an envelope when the result may be left out has no result exactly if it is
none when the result may not. -/
theorem named_result_eq_nil_iff {members : Members} {envelope : Envelope (Option Json)}
    (decoded : (decoder (.optional .any)).ofValue (.object members) = .ok envelope) :
    members.named "result" = [] ↔
      ∃ cause, (decoder .any).ofValue (.object members) = .error cause := by
  obtain ⟨headed, resulted, counted⟩ := envelope_eq_ok.mp decoded
  constructor
  · intro without
    cases taken : (decoder .any).ofValue (.object members) with
    | error cause => exact ⟨cause, rfl⟩
    | ok other =>
        obtain ⟨value, given, -⟩ := (Json.Slot.given_eq_ok rfl).mp (envelope_eq_ok.mp taken).2.1
        cases without.symm.trans given
  · rintro ⟨cause, refused⟩
    rcases found : members.named "result" with - | ⟨value, - | ⟨second, values⟩⟩
    · rfl
    · have taken : (decoder .any).ofValue (.object members) =
          .ok ⟨envelope.header, value, envelope.totalCount⟩ :=
        envelope_eq_ok.mpr ⟨headed, by rw [found]; rfl, counted⟩
      cases refused.symm.trans taken
    · rw [found] at resulted
      cases resulted

theorem Lacking.exists_object {depth : Nat} {input after rest : List Piece} {header : Header}
    {totalCount : Option Nat} {value : Json}
    (lacking : Lacking depth input header totalCount after)
    (read : Json.writtenValue depth input = .ok (value, rest)) :
    ∃ members, value = .object members := by
  have spells := Json.spells_of_written read
  cases lacking with
  | object start _ =>
      rw [start] at spells
      cases spells with
      | object => exact ⟨_, rfl⟩
      | number digit => cases digit

/-- A JSON text lacks the result exactly if it is an object with no member of that name that is an
envelope otherwise. -/
theorem exists_lacking_iff {input : List Piece} {value : Json}
    (written : Json.writtenDocument input = .ok value) :
    (∃ header totalCount rest, Lacking Json.greatestDepth input header totalCount rest) ↔
      ∃ members envelope, value = .object members ∧ Members.named "result" members = [] ∧
        (decoder (.optional .any)).ofValue value = .ok envelope := by
  obtain ⟨rest, read, -⟩ := Json.wholly_eq_ok.mp written
  have any := ((coherent_envelope Decoder.coherent_any).agrees read).cases
  have optional :=
    ((coherent_envelope (Decoder.coherent_optional Decoder.coherent_any)).agrees read).cases
  constructor
  · rintro ⟨header, totalCount, after, lacking⟩
    rcases any with ⟨_, cause, -, refused⟩ | ⟨_, _, taken, -, -⟩
    case inr => cases lacking.ofText_any.symm.trans taken
    rcases optional with ⟨_, _, failed, -⟩ | ⟨_, envelope, -, decoded, -⟩
    case inl => cases lacking.ofText_optional.symm.trans failed
    obtain ⟨members, rfl⟩ := lacking.exists_object read
    exact ⟨members, envelope, rfl, (named_result_eq_nil_iff decoded).mpr ⟨cause, refused⟩, decoded⟩
  · rintro ⟨members, envelope, rfl, without, decoded⟩
    obtain ⟨cause, refused⟩ := (named_result_eq_nil_iff decoded).mp without
    rcases any with ⟨_, _, failed, -⟩ | ⟨_, _, -, made, -⟩
    case inr => cases refused.symm.trans made
    rcases optional with ⟨_, _, -, undecoded⟩ | ⟨_, _, taken, -, -⟩
    case inl => cases undecoded.symm.trans decoded
    rcases ofText_or_lacking Json.greatestDepth input with same | lacking
    · rw [failed, taken] at same
      cases same
    · exact lacking

/-- The same of whole bodies: the same failures at the same places, and the same envelopes, unless
there is no result. -/
theorem decodeBody_or_lacking (body : List UInt8) :
    decodeBody (decoder (.optional .any)) body =
        (decodeBody (decoder .any) body).map (withResult Json.unlessNull) ∨
      ∃ header totalCount rest,
        Lacking Json.greatestDepth (Utf8.pieces body) header totalCount rest := by
  rcases ofText_or_lacking Json.greatestDepth (Utf8.pieces body) with same | lacking
  · left
    unfold decodeBody Decoder.decodePieces Json.wholly
    rw [same]
    cases (decoder .any).ofText Json.greatestDepth (Utf8.pieces body) with
    | error failure => rfl
    | ok read =>
        simp only [Except.map]
        cases skipBlanks read.2 <;> rfl
  · exact .inr lacking

end Envelope

/-! ## Invocations -/

/-- What was read with any result and what was read with one that may be null, classified alike:
the same fault, or the same value, which is not null. -/
inductive Alike : Except Fault Json → Except Fault (Option Json) → Prop
  | failed (fault : Fault) : Alike (.error fault) (.error fault)
  | given {value : Json} : value ≠ .null → Alike (.ok value) (.ok (some value))

theorem alike_error_iff {fault other : Fault} :
    Alike (.error fault) (.error other) ↔ fault = other := by
  constructor
  · intro alike
    cases alike
    rfl
  · rintro rfl
    exact .failed fault

/-- Null for a result makes a difference if the request was granted. -/
theorem alike_payload_or_null (envelope : Envelope Json) :
    Alike envelope.payload (envelope.withResult Json.unlessNull).payload ∨
      envelope.result = .null ∧ envelope.header.isSuccessful = true := by
  obtain ⟨⟨granted, code, message⟩, value, totalCount⟩ := envelope
  cases granted with
  | false => exact .inl (.failed _)
  | true =>
      cases value with
      | null => exact .inr ⟨rfl, rfl⟩
      | _ => exact .inl (.given nofun)

/-- What the body of an answer with the expected status has to be for the two to come apart: an
envelope of a granted request whose result is null, an envelope without a result, or one with more
behind it. The lack of a result is reported for the end of the object, what follows behind it for
its first byte. -/
inductive Apart (invocation : Invocation) (body : List UInt8) :
    Except Fault Json → Except Fault (Option Json) → Prop
  | null {header : Header} {totalCount : Option Nat} :
    decodeBody (Envelope.decoder .any) body = .ok ⟨header, .null, totalCount⟩ →
    decodeBody (Envelope.decoder (.optional .any)) body = .ok ⟨header, none, totalCount⟩ →
    header.isSuccessful = true →
    Apart invocation body (.ok .null) (.ok none)
  | lacking {header : Header} {totalCount : Option Nat} {rest : List Piece} :
    Envelope.Lacking Json.greatestDepth (Utf8.pieces body) header totalCount rest →
    skipBlanks rest = [] →
    Apart invocation body
      (.error (invocation.decodeFault body ⟨.missingField "result", byteCount rest⟩))
      (if header.isSuccessful then .ok none else .error header.failure)
  | lackingBefore {header : Header} {totalCount : Option Nat} {rest : List Piece} :
    Envelope.Lacking Json.greatestDepth (Utf8.pieces body) header totalCount rest →
    skipBlanks rest ≠ [] →
    Apart invocation body
      (.error (invocation.decodeFault body ⟨.missingField "result", byteCount rest⟩))
      (.error (invocation.decodeFault body
        ⟨.trailingCharacters, byteCount (skipBlanks rest) - 1⟩))

namespace Invocation

/-- A header looked at afterwards makes no difference. -/
theorem invokeNullable_ensureSuccessful {α : Type} (invocation : Invocation)
    (result : Decoder α) (outcome : Outcome) :
    (invocation.invokeNullable result outcome).bind Envelope.ensureSuccessful =
      invocation.invoke (.optional result) outcome := by
  unfold invokeNullable invoke
  cases invocation.execute (Envelope.decoder (.optional result)) outcome <;> rfl

variable {α : Type} {invocation : Invocation} {result : Decoder α} {body : List UInt8}

theorem invoke_of_decoded {envelope : Envelope α}
    (decoded : decodeBody (Envelope.decoder result) body = .ok envelope) :
    invocation.invoke result (.answered invocation.expected body) = envelope.payload := by
  simp [invoke, execute, decoded, Except.bind]

theorem invoke_of_undecoded {failure : Json.Failure}
    (failed : decodeBody (Envelope.decoder result) body = .error failure) :
    invocation.invoke result (.answered invocation.expected body) =
      .error (invocation.decodeFault body failure) := by
  simp [invoke, execute, failed, Except.bind]

/-- **The shapes of an invocation classify alike.** A result that may be left out comes to the same
whether the header is looked at on the way or afterwards. Any result comes to the same as that, but
for the envelopes that have null for their result or none at all. -/
theorem shapes_agree (invocation : Invocation) (outcome : Outcome) :
    (invocation.invokeNullable .any outcome).bind Envelope.ensureSuccessful =
        invocation.invoke (.optional .any) outcome ∧
      (Alike (invocation.invoke .any outcome) (invocation.invoke (.optional .any) outcome) ∨
        ∃ body, outcome = .answered invocation.expected body ∧
          Apart invocation body (invocation.invoke .any outcome)
            (invocation.invoke (.optional .any) outcome)) := by
  refine ⟨invocation.invokeNullable_ensureSuccessful .any outcome, ?_⟩
  cases outcome with
  | failed failure => exact .inl (.failed _)
  | answered status body =>
      by_cases expected : status = invocation.expected
      case neg =>
        simp only [invoke, execute, if_neg expected]
        exact .inl (.failed _)
      subst expected
      rcases Envelope.decodeBody_or_lacking body with same | ⟨header, totalCount, rest, lacking⟩
      · cases any : decodeBody (Envelope.decoder .any) body with
        | error failure =>
            rw [any] at same
            rw [invoke_of_undecoded any, invoke_of_undecoded same]
            exact .inl (.failed _)
        | ok envelope =>
            rw [any] at same
            rw [invoke_of_decoded any, invoke_of_decoded same]
            refine (alike_payload_or_null envelope).imp_right fun ⟨null, granted⟩ => ⟨body, rfl, ?_⟩
            obtain ⟨⟨_, code, message⟩, _, totalCount⟩ := envelope
            cases null
            cases granted
            exact .null any same rfl
      · right
        refine ⟨body, rfl, ?_⟩
        have decoded := lacking.decodeBody_optional
        rw [invoke_of_undecoded lacking.decodeBody_any]
        by_cases ended : skipBlanks rest = []
        · rw [if_pos ended] at decoded
          rw [invoke_of_decoded decoded]
          exact .lacking lacking ended
        · rw [if_neg ended] at decoded
          rw [invoke_of_undecoded decoded]
          exact .lackingBefore lacking ended

/-- An envelope that has no result, with a stray letter behind it. -/
def strayText : String :=
  "\x7b\"header\":\x7b\"isSuccessful\":true,\"resultCode\":0,\"resultMessage\":\"\"\x7d\x7dx"

/-- The body of an answer with this text. -/
def strayBody : List UInt8 :=
  Text.Utf8.encode strayText.toList

theorem lacking_strayBody :
    Envelope.Lacking Json.greatestDepth (Utf8.pieces strayBody) ⟨true, 0, ""⟩ none [.char 'x'] := by
  have read : membersOf (Envelope.Draft.member 126) .empty ((strayText.toList.drop 1).map .char) =
      .ok (⟨some ⟨true, 0, ""⟩, none, none⟩, [.char 'x']) := rfl
  rw [strayBody, Utf8.pieces_encode]
  exact .object rfl read

/-- Other bodies than envelopes without a result set the shapes apart too: one that is none, because
more follows behind it. -/
theorem shapes_differ_strayBody :
    ¬ ∀ (invocation : Invocation) (outcome : Outcome),
      (invocation.invokeNullable .any outcome).bind Envelope.ensureSuccessful =
          invocation.invoke (.optional .any) outcome ∧
        (Alike (invocation.invoke .any outcome) (invocation.invoke (.optional .any) outcome) ∨
          ∃ body envelope, outcome = .answered invocation.expected body ∧
            decodeBody (Envelope.decoder (.optional .any)) body = .ok envelope ∧
            envelope.result = none) := by
  intro always
  have undecoded := lacking_strayBody.decodeBody_optional
  rw [if_neg (by decide)] at undecoded
  rcases (always ⟨"GET /x", 200⟩ (.answered 200 strayBody)).2 with
    alike | ⟨body, envelope, same, decoded, -⟩
  · rw [invoke_of_undecoded lacking_strayBody.decodeBody_any, invoke_of_undecoded undecoded,
      alike_error_iff] at alike
    have message := congrArg Fault.message alike
    revert message
    decide +kernel
  · cases same
    cases undecoded.symm.trans decoded

end Invocation

end Remote

end SuiteBridge
