import SuiteBridge.Proofs.Call.Writing

/-!
# How an answer is judged

Each reading decodes the result of an answer in its own way, but all of them go through the same
gates: an answer, the expected status, an envelope that can be decoded, and a header that grants the
request. `Reading.conclude_eq` brings the readings into this one form, and `Plan.conclude_cases`
lists what can come of a plan, each with what it takes.
-/

namespace SuiteBridge

open Calendar (DateTime)
open Remote (Envelope Invocation Outcome Page decodeBody messageOf statusCode)

/-- Whether an event reports that a request was made. -/
def Event.isRequest : Event → Bool
  | .requestMade _ => true
  | _ => false

namespace Reading

/-! ## The one form of the readings -/

/-- What the result of an answer is decoded to. -/
def Payload : Reading → Type
  | .value _ => Json
  | .items _ | .page _ => List Json
  | .channels _ _ | .channel _ => List Channel
  | .posts _ => List Post
  | .acknowledged _ => Option Json

/-- How the result of an answer is decoded. -/
def payload : (reading : Reading) → Json.Decoder reading.Payload
  | .value _ => .any
  | .items _ | .page _ => .list .any
  | .channels _ _ | .channel _ => .list Channel.decoder
  | .posts _ => .list Post.decoder
  | .acknowledged _ => .optional .any

/-- What is made of the envelope of a request that was granted. -/
def grant (now : DateTime) : (reading : Reading) → Envelope reading.Payload → Except Fault Success
  | .value finish, envelope => .ok (finish envelope.result)
  | .items finish, envelope => .ok (finish envelope.result)
  | .page finish, envelope => .ok (finish ⟨envelope.result, envelope.totalCount⟩)
  | .channels months finish, envelope =>
    .ok (finish (recentChannels now months ⟨envelope.result, envelope.totalCount⟩))
  | .channel id, envelope => pickChannel id envelope.result
  | .posts finish, envelope => .ok (finish ⟨envelope.result, envelope.totalCount⟩)
  | .acknowledged finish, envelope => .ok (finish envelope.result)

/-- What is made of an envelope. Its header has the first word. -/
def judge (now : DateTime) (reading : Reading) (envelope : Envelope reading.Payload) :
    Except Fault Success :=
  if envelope.header.isSuccessful then reading.grant now envelope
  else .error envelope.header.failure

section Chains

variable {α β γ : Type} {result : Except Fault α} {next : α → Except Fault β}
  {all : α → Except Fault γ}

theorem map_bind_eq {make : β → γ} (same : ∀ a, (next a).map make = all a) :
    (result.bind next).map make = result.bind all := by
  cases result with
  | error fault => rfl
  | ok a => exact same a

theorem bind_bind_eq {last : β → Except Fault γ} (same : ∀ a, (next a).bind last = all a) :
    (result.bind next).bind last = result.bind all := by
  cases result with
  | error fault => rfl
  | ok a => exact same a

end Chains

/-- Whatever an answer is read as, it is decoded first and its envelope judged then. -/
theorem conclude_eq (now : DateTime) (invocation : Invocation) (outcome : Outcome)
    (reading : Reading) :
    reading.conclude now invocation outcome =
      (invocation.execute (Envelope.decoder reading.payload) outcome).bind (reading.judge now) := by
  cases reading with
  | channel id =>
      refine bind_bind_eq fun envelope => ?_
      cases granted : envelope.header.isSuccessful <;>
        simp [judge, granted, Envelope.payload, Except.bind, grant]
  | acknowledged finish =>
      refine map_bind_eq fun envelope => ?_
      cases granted : envelope.header.isSuccessful <;>
        simp [judge, granted, Envelope.ensureSuccessful, Envelope.isSuccessful, Envelope.failure,
          Except.map, grant]
  | _ =>
      refine map_bind_eq fun envelope => ?_
      cases granted : envelope.header.isSuccessful <;>
        simp [judge, granted, Envelope.payload, Envelope.page, Except.map, grant]

end Reading

/-! ## What comes of an answer -/

/-- An answer is missing, has another status, cannot be decoded or is decoded. -/
theorem execute_cases {α : Type} (invocation : Invocation) (decoder : Json.Decoder α)
    (outcome : Outcome) :
    (∃ failure, outcome = .failed failure ∧
      invocation.execute decoder outcome = .error (invocation.transportFault failure)) ∨
    (∃ status body, outcome = .answered status body ∧ status ≠ invocation.expected ∧
      invocation.execute decoder outcome = .error (.api (messageOf body) (statusCode status))) ∨
    (∃ body failure, outcome = .answered invocation.expected body ∧
      decodeBody decoder body = .error failure ∧
      invocation.execute decoder outcome = .error (invocation.decodeFault body failure)) ∨
    (∃ body a, outcome = .answered invocation.expected body ∧ decodeBody decoder body = .ok a ∧
      invocation.execute decoder outcome = .ok a) := by
  cases outcome with
  | failed failure => exact Or.inl ⟨failure, rfl, rfl⟩
  | answered status body =>
      by_cases expected : status = invocation.expected
      · subst expected
        simp only [Invocation.execute, if_true]
        cases decoded : decodeBody decoder body with
        | error failure => exact Or.inr (Or.inr (Or.inl ⟨body, failure, rfl, decoded, rfl⟩))
        | ok a => exact Or.inr (Or.inr (Or.inr ⟨body, a, rfl, decoded, rfl⟩))
      · exact Or.inr (Or.inl ⟨status, body, rfl, expected, if_neg expected⟩)

namespace Plan

variable {settings : Settings} {now : DateTime} {outcome : Outcome} {plan : Plan}

/-- The four ways in which a plan can come out. -/
theorem conclude_cases (settings : Settings) (now : DateTime) (outcome : Outcome) (plan : Plan) :
    (∃ failure, outcome = .failed failure ∧
      plan.conclude settings now outcome =
        .error ((plan.invocation settings).transportFault failure)) ∨
    (∃ status body, outcome = .answered status body ∧ status ≠ plan.call.expected ∧
      plan.conclude settings now outcome = .error (.api (messageOf body) (statusCode status))) ∨
    (∃ body failure, outcome = .answered plan.call.expected body ∧
      decodeBody (Envelope.decoder plan.reading.payload) body = .error failure ∧
      plan.conclude settings now outcome =
        .error ((plan.invocation settings).decodeFault body failure)) ∨
    (∃ body envelope, outcome = .answered plan.call.expected body ∧
      decodeBody (Envelope.decoder plan.reading.payload) body = .ok envelope ∧
      plan.conclude settings now outcome =
        (plan.reading.judge now envelope).map Success.toJson) := by
  rw [conclude_eq, Reading.conclude_eq]
  rcases execute_cases (plan.invocation settings) (Envelope.decoder plan.reading.payload) outcome
    with ⟨failure, rfl, judged⟩ | ⟨status, body, rfl, other, judged⟩ |
      ⟨body, failure, rfl, decoded, judged⟩ | ⟨body, envelope, rfl, decoded, judged⟩
  · exact Or.inl ⟨failure, rfl, by rw [judged]; rfl⟩
  · exact Or.inr (Or.inl ⟨status, body, rfl, other, by rw [judged]; rfl⟩)
  · exact Or.inr (Or.inr (Or.inl ⟨body, failure, rfl, decoded, by rw [judged]; rfl⟩))
  · exact Or.inr (Or.inr (Or.inr ⟨body, envelope, rfl, decoded, by rw [judged]; rfl⟩))

/-- A header that does not grant the request is the fault that comes of the plan. -/
theorem conclude_refused (settings : Settings) (now : DateTime) {body : List UInt8}
    {envelope : Envelope plan.reading.Payload}
    (answered : outcome = .answered plan.call.expected body)
    (decoded : decodeBody (Envelope.decoder plan.reading.payload) body = .ok envelope)
    (refused : envelope.header.isSuccessful = false) :
    plan.conclude settings now outcome = .error envelope.header.failure := by
  subst answered
  have judged : (plan.invocation settings).execute (Envelope.decoder plan.reading.payload)
      (.answered plan.call.expected body) = .ok envelope := by
    simp [Invocation.execute, invocation, decoded]
  rw [conclude_eq, Reading.conclude_eq, judged]
  simp [Except.bind, Reading.judge, refused, Except.map]

/-- An answer that cannot be decoded is an internal fault, whatever its header says. -/
theorem conclude_undecoded (settings : Settings) (now : DateTime) {body : List UInt8}
    {failure : Json.Failure} (answered : outcome = .answered plan.call.expected body)
    (failed : decodeBody (Envelope.decoder plan.reading.payload) body = .error failure) :
    plan.conclude settings now outcome =
      .error ((plan.invocation settings).decodeFault body failure) := by
  subst answered
  have judged : (plan.invocation settings).execute (Envelope.decoder plan.reading.payload)
      (.answered plan.call.expected body) =
        .error ((plan.invocation settings).decodeFault body failure) := by
    simp [Invocation.execute, invocation, failed]
  rw [conclude_eq, Reading.conclude_eq, judged]
  rfl

/-- A plan comes out well only if the answer passes all gates. -/
theorem conclude_eq_ok {value : Json} (well : plan.conclude settings now outcome = .ok value) :
    ∃ body envelope, outcome = .answered plan.call.expected body ∧
      decodeBody (Envelope.decoder plan.reading.payload) body = .ok envelope ∧
      envelope.header.isSuccessful = true := by
  rcases conclude_cases settings now outcome plan with ⟨_, _, judged⟩ | ⟨_, _, _, _, judged⟩ |
    ⟨_, _, _, _, judged⟩ | ⟨body, envelope, answered, decoded, -⟩
  · cases judged.symm.trans well
  · cases judged.symm.trans well
  · cases judged.symm.trans well
  · refine ⟨body, envelope, answered, decoded, ?_⟩
    cases granted : envelope.header.isSuccessful with
    | true => rfl
    | false => cases (conclude_refused settings now answered decoded granted).symm.trans well

end Plan

/-! ## What is reported -/

theorem countP_invocation_events {α : Type} (invocation : Invocation) (decoder : Json.Decoder α)
    (length : Nat) (outcome : Outcome) :
    (invocation.events decoder length outcome).countP Event.isRequest = 1 := by
  unfold Invocation.events
  cases outcome with
  | failed failure => rfl
  | answered status body =>
      by_cases expected : status = invocation.expected
      · simp only [if_pos expected]
        cases decodeBody decoder body <;> rfl
      · simp only [if_neg expected]
        rfl

/-- Cutting channels down to the recent ones makes no request. -/
theorem countP_recentEvents (now : DateTime) (months : Option Nat)
    (listed : Except Fault (Page Channel)) :
    (Reading.recentEvents now months listed).countP Event.isRequest = 0 := by
  cases listed with
  | error fault => rfl
  | ok listed =>
      cases months with
      | none => rfl
      | some months =>
          simp [Reading.recentEvents, Recency.events, Event.isRequest, List.countP_eq_zero]

/-- One request is reported while an answer is read, whatever the answer. -/
theorem Reading.countP_events (now : DateTime) (invocation : Invocation) (outcome : Outcome)
    (reading : Reading) :
    (reading.events now invocation outcome).countP Event.isRequest = 1 := by
  cases reading with
  | channels months finish =>
      simp [events, countP_invocation_events, countP_recentEvents]
  | acknowledged finish =>
      simp only [events, Invocation.nullableEvents, List.countP_append, countP_invocation_events]
      cases invocation.invokeNullable .any outcome with
      | error fault => rfl
      | ok envelope =>
          cases granted : envelope.header.isSuccessful <;> simp [granted, Event.isRequest]
  | _ => exact countP_invocation_events ..

end SuiteBridge
