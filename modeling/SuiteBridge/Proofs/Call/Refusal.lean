import Mathlib.Algebra.Group.Nat.Defs
import SuiteBridge.Proofs.Call.Endings
import SuiteBridge.Proofs.Remote.Envelope
import SuiteBridge.Proofs.Text.Utf8

/-!
# When a refusal is told

An answer tells in its header that a request was not granted. The header is looked at only when the
whole envelope can be decoded, the result and the count with it. So whether the refusal is told
depends on what else is in the answer: `Suite.refusal_told_iff` says on what exactly, and that an
internal fault takes its place otherwise.
-/

namespace SuiteBridge

open Json (Coherent Decoder Form writtenDocument)
open Remote (Envelope Header decodeBody)

/-! ## The decoders of answers -/

section Decoders

theorem coherent_optional_text : Coherent (Option.Rel (· = ·)) (Decoder.optional .text) :=
  Decoder.coherent_optional Decoder.coherent_text

theorem coherent_roster : Coherent (fun _ _ => True) Roster.decoder :=
  Decoder.coherent_record (.defaulting (Decoder.coherent_list Decoder.coherent_any) .nil .done)
    fun _ _ _ => trivial

theorem coherent_channel : Coherent (fun _ _ => True) Channel.decoder :=
  Decoder.coherent_openRecord (.required Decoder.coherent_text <|
    .defaulting coherent_optional_text .none <| .defaulting coherent_optional_text .none <|
    .defaulting coherent_optional_text .none <|
    .defaulting (Decoder.coherent_optional coherent_roster) .none <|
    .defaulting coherent_optional_text .none <| .defaulting coherent_optional_text .none .done)
    fun _ _ _ _ _ => trivial

theorem coherent_member : Coherent (fun _ _ => True) Member.decoder :=
  Decoder.coherent_record (.required Decoder.coherent_text <|
    .defaulting coherent_optional_text .none .done) fun _ _ _ => trivial

theorem coherent_workflow : Coherent (fun _ _ => True) Workflow.decoder :=
  Decoder.coherent_record (.required Decoder.coherent_text <|
    .defaulting coherent_optional_text .none .done) fun _ _ _ => trivial

theorem coherent_addressee : Coherent (fun _ _ => True) Addressee.decoder :=
  Decoder.coherent_openRecord (.required Decoder.coherent_text <|
    .defaulting (Decoder.coherent_optional coherent_member) .none .done) fun _ _ _ _ _ => trivial

theorem coherent_addressees : Coherent (fun _ _ => True) Addressees.decoder :=
  Decoder.coherent_record (.defaulting (Decoder.coherent_optional coherent_addressee) .none <|
    .defaulting (Decoder.coherent_list coherent_addressee) .nil <|
    .defaulting (Decoder.coherent_list coherent_addressee) .nil .done) fun _ _ _ => trivial

theorem coherent_post : Coherent (fun _ _ => True) Post.decoder :=
  Decoder.coherent_openRecord (.required Decoder.coherent_text <|
    .required Decoder.coherent_text <| .defaulting coherent_optional_text .none <|
    .defaulting coherent_optional_text .none <|
    .defaulting (Decoder.coherent_optional coherent_workflow) .none <|
    .defaulting coherent_addressees trivial <| .defaulting coherent_optional_text .none <|
    .defaulting coherent_optional_text .none <| .defaulting coherent_optional_text .none <|
    .defaulting coherent_optional_text .none .done) fun _ _ _ _ _ => trivial

/-- Whatever an answer is read as, its result is decoded as it is written. -/
theorem coherent_payload (reading : Reading) : Coherent (fun _ _ => True) reading.payload := by
  cases reading with
  | value _ => exact Decoder.coherent_any
  | items _ | page _ =>
      exact (Decoder.coherent_list Decoder.coherent_any).imp fun _ _ _ => trivial
  | channels _ _ | channel _ =>
      exact (Decoder.coherent_list coherent_channel).imp fun _ _ _ => trivial
  | posts _ => exact (Decoder.coherent_list coherent_post).imp fun _ _ _ => trivial
  | acknowledged _ =>
      exact (Decoder.coherent_optional Decoder.coherent_any).imp fun _ _ _ => trivial

end Decoders

/-! ## What a reading can do with -/

/-- A list is there once, and each of its items can be decoded. -/
theorem exists_given_list {α : Type} {item : Decoder α} {values : List Json} :
    (∃ as, (resultSlot (.list item)).given values = .ok as) ↔
      ∃ items, values = [.array items] ∧ ∀ value ∈ items, ∃ a, item.ofValue value = .ok a := by
  constructor
  · rintro ⟨as, given⟩
    obtain ⟨value, rfl, decoded⟩ := (Json.Slot.given_eq_ok rfl).mp given
    cases value with
    | array items => exact ⟨items, rfl, Json.exists_mapM_eq_ok.mp ⟨as, decoded⟩⟩
    | _ => cases decoded
  · rintro ⟨items, rfl, each⟩
    exact Json.exists_mapM_eq_ok.mpr each

/-- A count is left out, or null, or a number of 64 bits. -/
def IsTotal (values : List Json) : Prop :=
  values = [] ∨ values = [.null] ∨ ∃ total < 2 ^ 64, values = [.nat total]

theorem exists_uint64 {value : Json} :
    (∃ n, Decoder.uint64.ofValue value = .ok n) ↔ ∃ n < 2 ^ 64, value = .nat n := by
  constructor
  · rintro ⟨n, decoded⟩
    obtain ⟨i, ranged, -⟩ := Json.map_eq_ok.mp decoded
    cases value with
    | number number =>
        cases number with
        | real x => cases ranged
        | integer i =>
            simp only [Decoder.integer, Decoder.Range.ofNumber] at ranged
            split at ranged
            · rename_i within
              refine ⟨i.toNat, by omega, ?_⟩
              rw [Json.nat, Int.toNat_of_nonneg within.1]
            · cases ranged
    | _ => cases ranged
  · rintro ⟨n, small, rfl⟩
    refine ⟨n, Json.map_eq_ok.mpr ⟨n, if_pos ⟨?_, ?_⟩, rfl⟩⟩ <;> simp only <;> omega

/-- A count is taken exactly if it is one. -/
theorem exists_given_total {values : List Json} :
    (∃ total, totalSlot.given values = .ok total) ↔ IsTotal values := by
  rcases values with - | ⟨value, - | ⟨second, values⟩⟩
  · exact iff_of_true ⟨none, rfl⟩ (Or.inl rfl)
  · have given : (∃ total, totalSlot.given [value] = .ok total) ↔
        value = .null ∨ ∃ n, Decoder.uint64.ofValue value = .ok n := by
      cases value with
      | null => exact iff_of_true ⟨none, rfl⟩ (Or.inl rfl)
      | _ =>
          simp only [Json.Slot.given, totalSlot, Decoder.optional, Json.map_eq_ok]
          simp
    rw [given, exists_uint64]
    simp [IsTotal]
  · simp [Json.Slot.given, IsTotal]

namespace Reading

/-- What an answer must have under `result` for a reading: one value, one list, one list of channels
or of tasks, or at most one value. -/
def Takes : Reading → List Json → Prop
  | .value _, values => ∃ value, values = [value]
  | .items _, values | .page _, values => ∃ items, values = [.array items]
  | .channels _ _, values | .channel _, values =>
    ∃ items, values = [.array items] ∧
      ∀ item ∈ items, ∃ channel, Channel.decoder.ofValue item = .ok channel
  | .posts _, values =>
    ∃ items, values = [.array items] ∧
      ∀ item ∈ items, ∃ post, Post.decoder.ofValue item = .ok post
  | .acknowledged _, values => values.length ≤ 1

/-- A reading takes exactly the results that it can decode. -/
theorem exists_given_payload (reading : Reading) (values : List Json) :
    (∃ a, (resultSlot reading.payload).given values = .ok a) ↔ reading.Takes values := by
  cases reading with
  | value _ =>
      constructor
      · rintro ⟨_, given⟩
        obtain ⟨value, alone, -⟩ := (Json.Slot.given_eq_ok rfl).mp given
        exact ⟨value, alone⟩
      · rintro ⟨value, rfl⟩
        exact ⟨value, rfl⟩
  | items _ | page _ =>
      refine exists_given_list.trans ?_
      simp [Takes, Decoder.any]
  | channels _ _ | channel _ | posts _ => exact exists_given_list
  | acknowledged _ =>
      rcases values with - | ⟨value, - | ⟨second, values⟩⟩
      · exact iff_of_true ⟨none, rfl⟩ (Nat.zero_le 1)
      · refine iff_of_true ?_ (Nat.le_refl 1)
        cases value with
        | null => exact ⟨none, rfl⟩
        | _ => exact ⟨some _, rfl⟩
      · simp [Json.Slot.given, Takes]

end Reading

/-- The members of an answer that a reading can do with, whatever the header says. -/
structure Legible (reading : Reading) (members : Members) : Prop where
  header : (members.named "header").length = 1
  result : reading.Takes (members.named "result")
  total : IsTotal (members.named "totalCount")

section Answers

variable {members : Members} {value : Json} {header : Header} {body : List UInt8}

/-- The header of an envelope is the one that is written. -/
theorem header_of_envelope {α : Type} {result : Decoder α} {envelope : Envelope α}
    (headed : members.lookup "header" = some value)
    (typed : Header.decoder.ofValue value = .ok header)
    (decoded : (Envelope.decoder result).ofValue (.object members) = .ok envelope) :
    envelope.header = header := by
  obtain ⟨only, alone, same⟩ := given_header.mp (envelope_eq_ok.mp decoded).1
  rw [← Members.head?_named, alone] at headed
  cases headed
  exact Except.ok.inj (same.symm.trans typed)

/-- A header and the rest of a legible answer make an envelope. -/
theorem legible_iff_envelope (reading : Reading) (headed : members.lookup "header" = some value)
    (typed : Header.decoder.ofValue value = .ok header) :
    Legible reading members ↔
      ∃ envelope, (Envelope.decoder reading.payload).ofValue (.object members) = .ok envelope := by
  constructor
  · rintro ⟨single, taken, counted⟩
    obtain ⟨result, resulted⟩ := (reading.exists_given_payload _).mpr taken
    obtain ⟨total, totalled⟩ := exists_given_total.mpr counted
    obtain ⟨only, alone⟩ := List.length_eq_one_iff.mp single
    rw [← Members.head?_named, alone] at headed
    cases headed
    exact ⟨⟨header, result, total⟩,
      envelope_eq_ok.mpr ⟨given_header.mpr ⟨_, alone, typed⟩, resulted, totalled⟩⟩
  · rintro ⟨envelope, decoded⟩
    obtain ⟨headerGiven, resultGiven, totalGiven⟩ := envelope_eq_ok.mp decoded
    obtain ⟨_, alone, -⟩ := given_header.mp headerGiven
    exact ⟨by rw [alone, List.length_singleton],
      (reading.exists_given_payload _).mp ⟨_, resultGiven⟩, exists_given_total.mp ⟨_, totalGiven⟩⟩

/-- An answer is decoded exactly if it is legible, and then with the header that is written. -/
theorem decodeBody_cases (reading : Reading)
    (written : writtenDocument (Text.Utf8.pieces body) = .ok (.object members))
    (headed : members.lookup "header" = some value)
    (typed : Header.decoder.ofValue value = .ok header) :
    (¬ Legible reading members ∧
      ∃ failure, decodeBody (Envelope.decoder reading.payload) body = .error failure) ∨
    (Legible reading members ∧ ∃ envelope,
      decodeBody (Envelope.decoder reading.payload) body = .ok envelope ∧
        envelope.header = header) := by
  rw [legible_iff_envelope reading headed typed]
  unfold decodeBody
  rcases (coherent_envelope (coherent_payload reading)).decodePieces written with
    ⟨failure, cause, left, right⟩ | ⟨a, b, left, right, same⟩
  · rw [left, right]
    exact Or.inl ⟨nofun, failure, rfl⟩
  · rw [left, right]
    exact Or.inr ⟨⟨b, rfl⟩, a, rfl, same.trans (header_of_envelope headed typed right)⟩

end Answers

/-- The fault that a run ended for. -/
def Ending.fault? : Ending → Option Fault
  | .returned (.error fault) => some fault
  | _ => none

namespace Suite

variable {capability : Capability}

/-- **A refusal is told exactly if the answer is legible.** The answer has the expected status and
is a JSON object whose header does not grant the request. If a reading can do with the members, the
call fails with the message and the code in the header; otherwise it fails with an internal fault,
and neither message nor code is told. -/
theorem refusal_told_iff (shipped : capability ∈ catalogue) {args : Arguments} {plan : Plan}
    (planned : capability.run args = .asks plan) (world : World) {body : List UInt8}
    (answered : world.outcome = .answered (expectedStatus capability.descriptor.name) body)
    {members : Members} (written : writtenDocument (Text.Utf8.pieces body) = .ok (.object members))
    {value : Json} (headed : members.lookup "header" = some value) {code : Int} {message : String}
    (typed : Header.decoder.ofValue value = .ok ⟨false, code, message⟩) :
    ((capability.run args).ending? world = some (.returned (.error
        (.api message ("DOORAY_API_" ++ String.ofList (Text.decimalInt code))))) ↔
      Legible plan.reading members) ∧
    (¬ Legible plan.reading members →
      ∃ fault : Fault, (capability.run args).ending? world = some (.returned (.error fault)) ∧
        fault.kind = .internal ∧ fault.code = none) := by
  have befits : Befits capability.descriptor.name plan := by
    rcases run_cases shipped args with ⟨_, -, ended⟩ | ⟨_, befits, asked⟩
    · cases ended.symm.trans planned
    · cases asked.symm.trans planned
      exact befits
  rw [← befits.expected] at answered
  simp only [planned, Activity.ending?]
  rcases decodeBody_cases plan.reading written headed typed with
    ⟨illegible, failure, failed⟩ | ⟨legible, envelope, decoded, header⟩
  · have judged := Plan.conclude_undecoded world.settings world.now answered failed
    rw [judged]
    refine ⟨iff_of_false ?_ illegible, fun _ => ⟨_, rfl, rfl, rfl⟩⟩
    intro told
    cases told
  · have judged := Plan.conclude_refused world.settings world.now answered decoded (by rw [header])
    rw [judged, header]
    exact ⟨iff_of_true rfl legible, fun illegible => absurd legible illegible⟩

/-- The header of an answer that is not granted. -/
def refusedHeader : Json :=
  .object [("isSuccessful", .bool false), ("resultCode", .int (-7)),
    ("resultMessage", .string "no")]

theorem written_refusedText :
    writtenDocument (Text.Utf8.pieces (Text.Utf8.encode refusedText.toList)) =
      .ok (.object [("header", refusedHeader)]) := by
  rw [Text.Utf8.pieces_encode]
  rfl

/-- Arguments that name a page. -/
def pageArguments : Arguments :=
  ⟨[("wiki_id", .string "1"), ("page_id", .string "2")]⟩

theorem getPage_shipped : Wiki.getPage.toCapability ∈ catalogue :=
  List.mem_map_of_mem (by simp [tools, Wiki.tools])

/-- Without a result, it is told that a task may not be marked as done, but not that a page may not
be read. -/
theorem refusal_told_iff_refusedText :
    (Project.setPostDone.toCapability.run taskArguments).ending? (worldAnswering 200 refusedText) =
      some (.returned (.error (.api "no" "DOORAY_API_-7"))) ∧
    ∃ fault : Fault,
      (Wiki.getPage.toCapability.run pageArguments).ending? (worldAnswering 200 refusedText) =
        some (.returned (.error fault)) ∧ fault.kind = .internal ∧ fault.code = none := by
  constructor
  · obtain ⟨call, finish, asked⟩ : ∃ call finish,
        Project.setPostDone.toCapability.run taskArguments = .asks ⟨call, .acknowledged finish⟩ :=
      ⟨_, _, rfl⟩
    have told := refusal_told_iff setPostDone_shipped asked (worldAnswering 200 refusedText) rfl
      written_refusedText rfl rfl
    exact told.1.mpr ⟨rfl, Nat.zero_le 1, Or.inl rfl⟩
  · obtain ⟨call, finish, asked⟩ : ∃ call finish,
        Wiki.getPage.toCapability.run pageArguments = .asks ⟨call, .value finish⟩ :=
      ⟨_, _, rfl⟩
    have told := refusal_told_iff getPage_shipped asked (worldAnswering 200 refusedText) rfl
      written_refusedText rfl rfl
    refine told.2 ?_
    rintro ⟨-, ⟨value, never⟩, -⟩
    cases never

/-- Not every refusal is told: that of a page without a result is not. -/
theorem refusal_untold_getPage :
    ¬ ∀ capability ∈ catalogue, ∀ (args : Arguments) (plan : Plan) (world : World)
      (body : List UInt8) (members : Members) (value : Json) (code : Int) (message : String),
      capability.run args = .asks plan →
      world.outcome = .answered (expectedStatus capability.descriptor.name) body →
      writtenDocument (Text.Utf8.pieces body) = .ok (.object members) →
      members.lookup "header" = some value →
      Header.decoder.ofValue value = .ok ⟨false, code, message⟩ →
      (capability.run args).ending? world = some (.returned (.error
        (.api message ("DOORAY_API_" ++ String.ofList (Text.decimalInt code))))) := by
  intro always
  have told := always _ getPage_shipped pageArguments _ (worldAnswering 200 refusedText) _ _ _ (-7)
    "no" rfl rfl written_refusedText rfl rfl
  have blamed := congrArg (fun ending => (ending.bind Ending.fault?).map Fault.kind) told
  revert blamed
  decide +kernel

end Suite

end SuiteBridge
