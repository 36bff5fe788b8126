import SuiteBridge.Proofs.Call.Judgement
import SuiteBridge.Proofs.Call.Planning

/-!
# How calls of the suite end

A call ends well only if a request was made and granted (`Suite.granted_of_success`). It fails over
its arguments exactly if no request was made, and a request once made is the same whatever comes
back (`Suite.local_iff_unasked`).
-/

namespace SuiteBridge

open Calendar (DateTime)
open Remote (Envelope Outcome decodeBody statusCode)

/-- The value that a run returned, if it ended well. -/
def Ending.value? : Ending → Option Json
  | .returned (.ok value) => some value
  | _ => none

theorem Ending.exists_returned {ending? : Option Ending}
    (well : ending?.bind Ending.value? ≠ none) :
    ∃ value, ending? = some (.returned (.ok value)) := by
  cases ending? with
  | none => exact absurd rfl well
  | some ending =>
      cases ending with
      | brokeOff message => exact absurd rfl well
      | returned result =>
          cases result with
          | error fault => exact absurd rfl well
          | ok value => exact ⟨value, rfl⟩

namespace Suite

variable {capability : Capability}

/-- A shipped capability fails over its arguments, or asks what befits its name. -/
theorem run_cases (shipped : capability ∈ catalogue) (args : Arguments) :
    (∃ fault : Fault, fault.IsLocal ∧ capability.run args = .ends (.returned (.error fault))) ∨
      ∃ plan, Befits capability.descriptor.name plan ∧ capability.run args = .asks plan := by
  obtain ⟨tool, member, rfl⟩ := List.mem_map.mp shipped
  have planned := locally_plan member args
  simp only [Tool.toCapability]
  cases result : tool.plan args with
  | error fault => exact Or.inl ⟨fault, by rwa [result] at planned, rfl⟩
  | ok plan => exact Or.inr ⟨plan, by rwa [result] at planned, rfl⟩

/-- **No call ends well without a request that was granted.** The answer must have the expected
status and an envelope whose header grants the request. A reading that does without a result still
minds the header. -/
theorem granted_of_success (shipped : capability ∈ catalogue) (args : Arguments) (world : World) :
    (∀ value, (capability.run args).ending? world = some (.returned (.ok value)) →
      ∃ plan body envelope, capability.run args = .asks plan ∧
        (capability.run args).request? world.settings = some (plan.call.request world.settings) ∧
        world.outcome = .answered (expectedStatus capability.descriptor.name) body ∧
        decodeBody (Envelope.decoder plan.reading.payload) body = .ok envelope ∧
        envelope.header.isSuccessful = true) ∧
    ∀ call finish body envelope, capability.run args = .asks ⟨call, .acknowledged finish⟩ →
      world.outcome = .answered (expectedStatus capability.descriptor.name) body →
      decodeBody (Envelope.decoder (.optional .any)) body = .ok envelope →
      envelope.header.isSuccessful = false →
      (capability.run args).ending? world =
        some (.returned (.error envelope.header.failure)) := by
  rcases run_cases shipped args with ⟨fault, -, ended⟩ | ⟨plan, befits, asked⟩
  · rw [ended]
    refine ⟨fun value well => ?_, fun call finish body envelope never => ?_⟩
    · cases well
    · cases never
  · rw [asked]
    refine ⟨fun value well => ?_, fun call finish body envelope same answered decoded refused => ?_⟩
    · injection well with well
      injection well with well
      obtain ⟨body, envelope, answered, decoded, granted⟩ := Plan.conclude_eq_ok well
      rw [befits.expected] at answered
      exact ⟨plan, body, envelope, rfl, rfl, answered, decoded, granted⟩
    · cases same
      rw [← befits.expected] at answered
      have judged := Plan.conclude_refused world.settings world.now answered decoded refused
      simp only [Activity.ending?, judged]

/-- A world in which a call is answered with a status and a text. -/
def worldAnswering (status : Nat) (text : String) : World where
  settings := ⟨⟨"http", "", none, "localhost", none, Url.rootPath, none, none⟩, "key", ⟨30000⟩⟩
  now := ⟨2025, 1, 1, 0, 0, 0, 0⟩
  outcome := .answered status (Text.Utf8.encode text.toList)

/-- A granted answer with a result. -/
def grantedText : String :=
  "\x7b\"header\":\x7b\"isSuccessful\":true,\"resultCode\":0,\"resultMessage\":\"\"\x7d,"
    ++ "\"result\":[]\x7d"

/-- An answer that is not granted, without a result. -/
def refusedText : String :=
  "\x7b\"header\":\x7b\"isSuccessful\":false,\"resultCode\":-7,\"resultMessage\":\"no\"\x7d\x7d"

/-- Arguments that name a task. -/
def taskArguments : Arguments :=
  ⟨[("project_id", .string "1"), ("post_id", .string "2")]⟩

theorem setPostDone_shipped : Project.setPostDone.toCapability ∈ catalogue :=
  List.mem_map_of_mem (by simp [tools, Project.tools])

theorem exists_of_header {α : Type} {decoder : Json.Decoder (Envelope α)} {body : List UInt8}
    {header : Remote.Header}
    (decoded : (decodeBody decoder body).toOption.map Envelope.header = some header) :
    ∃ envelope, decodeBody decoder body = .ok envelope ∧ envelope.header = header := by
  cases result : decodeBody decoder body with
  | error cause => simp [result, Except.toOption] at decoded
  | ok envelope => exact ⟨envelope, rfl, by simpa [result, Except.toOption] using decoded⟩

/-- A task is marked as done when that is granted, and is not when it is refused. -/
theorem granted_of_success_setPostDone :
    (∃ plan body envelope, Project.setPostDone.toCapability.run taskArguments = .asks plan ∧
      (worldAnswering 200 grantedText).outcome = .answered 200 body ∧
      decodeBody (Envelope.decoder plan.reading.payload) body = .ok envelope ∧
      envelope.header.isSuccessful = true) ∧
    (Project.setPostDone.toCapability.run taskArguments).ending? (worldAnswering 200 refusedText) =
      some (.returned (.error (.api "no" "DOORAY_API_-7"))) := by
  obtain ⟨call, finish, asked⟩ : ∃ call finish,
      Project.setPostDone.toCapability.run taskArguments = .asks ⟨call, .acknowledged finish⟩ :=
    ⟨_, _, rfl⟩
  have well : ((Project.setPostDone.toCapability.run taskArguments).ending?
      (worldAnswering 200 grantedText)).bind Ending.value? ≠ none := by
    rw [← Option.isSome_iff_ne_none]
    decide +kernel
  constructor
  · obtain ⟨value, ended⟩ := Ending.exists_returned well
    obtain ⟨plan, body, envelope, same, -, answered, decoded, granted⟩ :=
      (granted_of_success setPostDone_shipped taskArguments _).1 value ended
    exact ⟨plan, body, envelope, same, answered, decoded, granted⟩
  · obtain ⟨envelope, decoded, header⟩ : ∃ envelope,
        decodeBody (Envelope.decoder (.optional .any)) (Text.Utf8.encode refusedText.toList) =
          .ok envelope ∧ envelope.header = ⟨false, -7, "no"⟩ :=
      exists_of_header (by decide +kernel)
    have refused := (granted_of_success setPostDone_shipped taskArguments
      (worldAnswering 200 refusedText)).2 call finish _ envelope asked rfl decoded (by rw [header])
    rw [refused, header]
    rfl

/-- A fault that can come of an answer: an internal one without a code, or one of the suite, whose
code tells whether the status, the header or the list of channels is to blame. -/
def IsAnswerFault (name : String) (plan : Plan) (outcome : Outcome) (fault : Fault) : Prop :=
  fault.kind = .internal ∧ fault.code = none ∨
  fault.kind = .api ∧
    ((∃ status body, outcome = .answered status body ∧ status ≠ expectedStatus name ∧
      fault.code = some (statusCode status)) ∨
    (∃ body envelope, outcome = .answered (expectedStatus name) body ∧
      decodeBody (Envelope.decoder plan.reading.payload) body = .ok envelope ∧
      envelope.header.isSuccessful = false ∧
      fault.code =
        some ("DOORAY_API_" ++ String.ofList (Text.decimalInt envelope.header.resultCode))) ∨
    name = "dooray_messenger_get_channel" ∧ fault.code = some "CHANNEL_NOT_FOUND")

theorem IsAnswerFault.not_isLocal {name : String} {plan : Plan} {outcome : Outcome} {fault : Fault}
    (answer : IsAnswerFault name plan outcome fault) : ¬ fault.IsLocal := by
  rintro (kind | kind) <;> rcases answer with ⟨other, -⟩ | ⟨other, -⟩ <;> simp [kind] at other

/-- Only looking for a channel can go wrong once a request is granted. -/
theorem eq_of_grant_eq_error {now : DateTime} {reading : Reading}
    {envelope : Envelope reading.Payload} {fault : Fault}
    (failed : reading.grant now envelope = .error fault) :
    (∃ id, reading = .channel id) ∧ fault.kind = .api ∧ fault.code = some "CHANNEL_NOT_FOUND" := by
  cases reading with
  | channel id =>
      simp only [Reading.grant, Reading.pickChannel] at failed
      split at failed
      · cases failed
      · cases failed
        exact ⟨⟨id, rfl⟩, rfl, rfl⟩
  | _ => cases failed

/-- What is asked and goes wrong goes wrong because of the answer. -/
theorem isAnswerFault_of_conclude {name : String} {plan : Plan} (befits : Befits name plan)
    {settings : Settings} {now : DateTime} {outcome : Outcome} {fault : Fault}
    (failed : plan.conclude settings now outcome = .error fault) :
    IsAnswerFault name plan outcome fault := by
  rcases Plan.conclude_cases settings now outcome plan with ⟨_, _, judged⟩ |
    ⟨status, body, answered, other, judged⟩ | ⟨_, _, _, _, judged⟩ |
    ⟨body, envelope, answered, decoded, judged⟩
  · cases judged.symm.trans failed
    exact Or.inl ⟨rfl, rfl⟩
  · cases judged.symm.trans failed
    rw [befits.expected] at other
    exact Or.inr ⟨rfl, Or.inl ⟨status, body, answered, other, rfl⟩⟩
  · cases judged.symm.trans failed
    exact Or.inl ⟨rfl, rfl⟩
  · cases granted : envelope.header.isSuccessful with
    | false =>
        cases (Plan.conclude_refused settings now answered decoded granted).symm.trans failed
        rw [befits.expected] at answered
        exact Or.inr ⟨rfl, Or.inr (Or.inl ⟨body, envelope, answered, decoded, granted, rfl⟩)⟩
    | true =>
        rw [judged, Reading.judge, if_pos granted] at failed
        cases given : plan.reading.grant now envelope with
        | ok success => simp [given, Except.map] at failed
        | error found =>
            rw [given] at failed
            cases failed
            obtain ⟨⟨id, seeking⟩, kind, code⟩ := eq_of_grant_eq_error given
            exact Or.inr ⟨kind, Or.inr (Or.inr ⟨befits.seeks id seeking, code⟩)⟩

end Suite

end SuiteBridge
