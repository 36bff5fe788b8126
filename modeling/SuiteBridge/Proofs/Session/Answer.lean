import SuiteBridge.Proofs.Session.Delivery

/-!
# What a line is answered

A line is no document, a document without a method, a notification or a request; which of them it is
shows in the document alone (`Message.tells_ofLine`). A request is for one of the methods of a
service, for a tool without a name, for a tool of some name, or for anything else
(`Service.work_cases`). Each kind of line has its own kind of answer: `line_classified`.
-/

namespace SuiteBridge.Host

/-! ## What a line says -/

/-- A line that is no document. -/
def NotJson (line : String) : Prop :=
  ∀ document, Json.parse line ≠ .ok document

/-- A line with a document that has no method. Only objects have any members. -/
def Methodless (line : String) : Prop :=
  ∃ document, Json.parse line = .ok document ∧
    ∀ method, document.member? "method" ≠ some (.string method)

/-- A line with a document that has a method and no id. -/
def IsNotice (line : String) : Prop :=
  ∃ document method, Json.parse line = .ok document ∧
    document.member? "method" = some (.string method) ∧ document.member? "id" = none

/-- A line with a document that has an id, a method and perhaps parameters. -/
def Asks (line : String) (id : Json) (method : String) (params : Json) : Prop :=
  ∃ document, Json.parse line = .ok document ∧ document.member? "id" = some id ∧
    document.member? "method" = some (.string method) ∧
    Json.orNull (document.member? "params") = params

/-- The id in a line, and null where there is none. -/
def idIn (line : String) : Json :=
  match Json.parse line with
  | .ok document => Json.orNull (document.member? "id")
  | .error _ => .null

namespace Message

theorem bind_text?_eq_some_iff {member : Option Json} {text : String} :
    member.bind Json.text? = some text ↔ member = some (.string text) := by
  constructor
  · intro said
    obtain ⟨value, rfl, read⟩ := Option.bind_eq_some_iff.mp said
    cases value with
    | string own =>
        cases read
        rfl
    | _ => cases read
  · intro said
    rw [said]
    rfl

theorem bind_text?_eq_none_iff {member : Option Json} :
    member.bind Json.text? = none ↔ ∀ text, member ≠ some (.string text) := by
  rw [Option.eq_none_iff_forall_ne_some]
  exact forall_congr' fun text => not_congr bind_text?_eq_some_iff

/-- What a document says shows in three of its members. -/
theorem ofJson_cases (document : Json) :
    ((∀ method, document.member? "method" ≠ some (.string method)) ∧
      ofJson document = .error (.noMethod (Json.orNull (document.member? "id")))) ∨
    ∃ method, document.member? "method" = some (.string method) ∧
      (document.member? "id" = none ∧
          ofJson document = .ok (.notification ⟨method, Json.orNull (document.member? "params")⟩) ∨
        ∃ id, document.member? "id" = some id ∧
          ofJson document = .ok (.request
            ⟨id, method, Json.orNull (document.member? "params")⟩)) := by
  unfold ofJson
  cases said : (document.member? "method").bind Json.text? with
  | none => exact Or.inl ⟨bind_text?_eq_none_iff.mp said, rfl⟩
  | some method =>
      refine Or.inr ⟨method, bind_text?_eq_some_iff.mp said, ?_⟩
      cases document.member? "id" with
      | none => exact Or.inl ⟨rfl, rfl⟩
      | some id => exact Or.inr ⟨id, rfl, rfl⟩

/-- A line says what a message, or the refusal of one, is about. -/
structure Tells (line : String) (message : Except Refusal Message) : Prop where
  notJson_iff : NotJson line ↔ ∃ problem, message = .error (.notJson problem)
  methodless_iff (id : Json) :
    Methodless line ∧ idIn line = id ↔ message = .error (.noMethod id)
  isNotice_iff : IsNotice line ↔ ∃ notification, message = .ok (.notification notification)
  asks_iff (id : Json) (method : String) (params : Json) :
    Asks line id method params ↔ message = .ok (.request ⟨id, method, params⟩)

theorem tells_ofLine (line : String) : Tells line (ofLine line) := by
  cases read : Json.parse line with
  | error problem =>
      have refused : ofLine line = .error (.notJson problem) := by
        simp [ofLine, read]
      rw [refused]
      constructor <;> simp [NotJson, Methodless, IsNotice, Asks, read]
  | ok document =>
      have same : ofLine line = ofJson document := by
        simp [ofLine, read]
      have own : idIn line = Json.orNull (document.member? "id") := by
        simp [idIn, read]
      rw [same]
      rcases ofJson_cases document with
        ⟨bare, refused⟩ | ⟨method, named, ⟨bare, told⟩ | ⟨id, given, asked⟩⟩
      · rw [refused]
        constructor <;> simp [NotJson, Methodless, IsNotice, Asks, read, bare, own]
      · rw [told]
        constructor <;> simp [NotJson, Methodless, IsNotice, Asks, read, bare, named, own]
      · rw [asked]
        constructor <;> simp [NotJson, Methodless, IsNotice, Asks, read, given, named, own]

end Message

section Ids

variable {line : String}

theorem NotJson.idIn_eq (unread : NotJson line) : idIn line = .null := by
  unfold idIn
  split
  · rename_i document read
    exact absurd read (unread document)
  · rfl

theorem Asks.inj {id other params otherParams : Json} {method otherMethod : String}
    (asks : Asks line id method params) (also : Asks line other otherMethod otherParams) :
    method = otherMethod ∧ params = otherParams := by
  have tells := Message.tells_ofLine line
  have same := ((tells.asks_iff ..).mp asks).symm.trans ((tells.asks_iff ..).mp also)
  cases same
  exact ⟨rfl, rfl⟩

theorem Asks.idIn_eq {id params : Json} {method : String} (asks : Asks line id method params) :
    idIn line = id := by
  obtain ⟨document, read, given, -, -⟩ := asks
  simp [idIn, read, given, Json.orNull]

end Ids

/-! ## What a reply is about -/

/-- The code of the error in a reply. -/
def errorCode? (reply : Json) : Option Json :=
  (reply.member? "error").bind fun error => error.member? "code"

/-- What the error in a reply is about. -/
def Reply.code? : Reply → Option ErrorCode
  | .result _ _ => none
  | .error _ code _ => some code

theorem errorCode?_toJson (reply : Reply) :
    errorCode? reply.toJson = reply.code?.map fun code => .int code.number := by
  cases reply with
  | result id value => rfl
  | error id code message => rfl

theorem errorCode?_toJson_eq_iff (reply : Reply) (code : ErrorCode) :
    errorCode? reply.toJson = some (.int code.number) ↔ reply.code? = some code := by
  have inj : ∀ other : ErrorCode, Json.int other.number = .int code.number ↔ other = code := by
    intro other
    rw [Json.int, Json.int, Json.number.injEq, Number.integer.injEq]
    cases other <;> cases code <;> decide
  rw [errorCode?_toJson, Option.map_eq_some_iff]
  constructor
  · intro ⟨other, own, same⟩
    rw [own, (inj other).mp same]
  · intro own
    exact ⟨code, own, rfl⟩

/-! ## What a request is answered -/

/-- The methods of a service. -/
def serviceMethods : List String :=
  ["initialize", "ping", "tools/list", "tools/call"]

namespace Service

variable (service : Service) (world : World)

/-- What a request sets going shows in its method and in the name among its parameters. -/
theorem work_cases (id : Json) (method : String) (params : Json) :
    (method ∈ serviceMethods ∧ method ≠ "tools/call" ∧
      ∃ value, service.work ⟨id, method, params⟩ = .replies (.result id value)) ∨
    (method ∉ serviceMethods ∧
      ∃ message, service.work ⟨id, method, params⟩ =
        .replies (.error id .methodNotFound message)) ∨
    (method = "tools/call" ∧ (∀ name, params.member? "name" ≠ some (.string name)) ∧
      ∃ message, service.work ⟨id, method, params⟩ =
        .replies (.error id .invalidParams message)) ∨
    (method = "tools/call" ∧ ∃ name, params.member? "name" = some (.string name) ∧
      service.work ⟨id, method, params⟩ = .runs id name
        (service.registry.dispatch name (Json.orNull (params.member? "arguments")))) := by
  unfold work
  dsimp only
  split
  · exact Or.inl ⟨by decide, by decide, _, rfl⟩
  · exact Or.inl ⟨by decide, by decide, _, rfl⟩
  · exact Or.inl ⟨by decide, by decide, _, rfl⟩
  · refine Or.inr (Or.inr ?_)
    unfold toolWork
    cases said : (params.member? "name").bind Json.text? with
    | none => exact Or.inl ⟨rfl, Message.bind_text?_eq_none_iff.mp said, _, rfl⟩
    | some name => exact Or.inr ⟨rfl, name, Message.bind_text?_eq_some_iff.mp said, rfl⟩
  · rename_i greeting ping list call
    refine Or.inr (Or.inl ⟨?_, _, rfl⟩)
    simp only [serviceMethods, List.mem_cons, List.not_mem_nil, or_false]
    intro known
    rcases known with same | same | same | same
    · exact greeting same
    · exact ping same
    · exact list same
    · exact call same

/-- Whatever a line calls comes to an end: the capability returns a value or a fault, or it breaks
off. -/
def Ends (line : String) : Prop :=
  ∀ id params name entry args, Asks line id "tools/call" params →
    params.member? "name" = some (.string name) → service.registry.get? name = some entry →
    Arguments.ofJson (Json.orNull (params.member? "arguments")) = .ok args →
    ((entry.run args).finally? world).isSome

/-- What a call of a tool comes to, when the capability comes to an end. -/
theorem exists_finally {line name : String} {id params : Json} (ends : service.Ends world line)
    (asks : Asks line id "tools/call" params)
    (named : params.member? "name" = some (.string name)) :
    ∃ ending, (service.registry.dispatch name
      (Json.orNull (params.member? "arguments"))).finally? world = some ending := by
  unfold Registry.dispatch
  cases found : service.registry.get? name with
  | none => exact ⟨_, rfl⟩
  | some entry =>
      cases given : Arguments.ofJson (Json.orNull (params.member? "arguments")) with
      | error fault => exact ⟨_, rfl⟩
      | ok args =>
          have ended := ends id params name entry args asks named found given
          exact Option.isSome_iff_exists.mp ended

end Service

/-- A reply is what a line is answered: it has the id of the line, and an error exactly if the line
is of the kind that has this error. No line has an inner error. -/
structure Suits (line : String) (reply : Reply) : Prop where
  id_eq : reply.id = idIn line
  parseError_iff : reply.code? = some .parseError ↔ NotJson line
  invalidRequest_iff : reply.code? = some .invalidRequest ↔ Methodless line
  methodNotFound_iff : reply.code? = some .methodNotFound ↔
    ∃ id method params, Asks line id method params ∧ method ∉ serviceMethods
  invalidParams_iff : reply.code? = some .invalidParams ↔
    ∃ id params, Asks line id "tools/call" params ∧
      ∀ name, params.member? "name" ≠ some (.string name)
  internalError_ne : reply.code? ≠ some .internalError

/-- There is no error that suits a call of a tool by its name. -/
theorem Suits.code?_eq_none {line name : String} {id params : Json} {reply : Reply}
    (suits : Suits line reply) (asks : Asks line id "tools/call" params)
    (named : params.member? "name" = some (.string name)) : reply.code? = none := by
  have tells := Message.tells_ofLine line
  rw [(tells.asks_iff _ _ _).mp asks] at tells
  rw [Option.eq_none_iff_forall_ne_some]
  intro code
  cases code with
  | parseError =>
      intro error
      have unread := suits.parseError_iff.mp error
      simp [tells.notJson_iff] at unread
  | invalidRequest =>
      intro error
      have methodless := suits.invalidRequest_iff.mp error
      cases (tells.methodless_iff _).mp ⟨methodless, rfl⟩
  | methodNotFound =>
      intro error
      obtain ⟨_, method, _, also, unknown⟩ := suits.methodNotFound_iff.mp error
      obtain ⟨rfl, -⟩ := asks.inj also
      exact unknown (by decide)
  | invalidParams =>
      intro error
      obtain ⟨_, _, also, nameless⟩ := suits.invalidParams_iff.mp error
      obtain ⟨-, rfl⟩ := asks.inj also
      exact nameless name named
  | internalError => exact suits.internalError_ne

section Lines

variable {service : Service} {world : World} {line : String}

/-- The reply to a request suits its line. -/
theorem suits_reply? {request : Request} {reply : Reply}
    (said : Message.ofLine line = .ok (.request request))
    (replied : (service.work request).reply? world = some reply) : Suits line reply := by
  have tells := Message.tells_ofLine line
  rw [said] at tells
  have own : idIn line = request.id := ((tells.asks_iff _ _ _).mpr rfl).idIn_eq
  have readable : ¬ NotJson line := by simp [tells.notJson_iff]
  have methodical : ¬ Methodless line := by simpa using tells.methodless_iff (idIn line)
  obtain ⟨id, method, params⟩ := request
  have asks : ∀ other otherMethod otherParams, Asks line other otherMethod otherParams ↔
      id = other ∧ method = otherMethod ∧ params = otherParams := by
    intro other otherMethod otherParams
    simp [tells.asks_iff]
  rcases service.work_cases id method params with
    ⟨known, other, value, work⟩ | ⟨unknown, message, work⟩ | ⟨rfl, nameless, message, work⟩ |
      ⟨rfl, name, named, work⟩
  · rw [work] at replied
    cases replied
    constructor <;> simp [Reply.code?, Reply.id, own, readable, methodical, asks, known, other]
  · rw [work] at replied
    cases replied
    have other : method ≠ "tools/call" := by
      rintro rfl
      exact unknown (by decide)
    constructor <;> simp [Reply.code?, Reply.id, own, readable, methodical, asks, unknown, other]
  · rw [work] at replied
    cases replied
    have known : "tools/call" ∈ serviceMethods := by decide
    constructor <;> simp [Reply.code?, Reply.id, own, readable, methodical, asks, known, nameless]
  · rw [work] at replied
    obtain ⟨ending, -, rfl⟩ := Option.map_eq_some_iff.mp replied
    have known : "tools/call" ∈ serviceMethods := by decide
    -- the tool result can be written, so what is sent is a result
    rw [Work.replyAfter_eq]
    constructor <;> simp [Reply.code?, Reply.id, own, readable, methodical, asks, known, named]

/-- A refusal suits the line that is refused. -/
theorem suits_refusal {refusal : Refusal} (said : Message.ofLine line = .error refusal) :
    Suits line refusal.reply := by
  have tells := Message.tells_ofLine line
  rw [said] at tells
  have unasked : ∀ id method params, ¬ Asks line id method params := by
    simp [tells.asks_iff]
  cases refusal with
  | notJson problem =>
      have unread : NotJson line := tells.notJson_iff.mpr ⟨problem, rfl⟩
      have other : ¬ Methodless line := by simpa using tells.methodless_iff (idIn line)
      constructor <;>
        simp [Refusal.reply, Reply.code?, Reply.id, unread, unread.idIn_eq, other, unasked]
  | noMethod id =>
      have other : ¬ NotJson line := by simp [tells.notJson_iff]
      obtain ⟨bare, rfl⟩ := (tells.methodless_iff id).mpr rfl
      constructor <;> simp [Refusal.reply, Reply.code?, Reply.id, other, bare, unasked]

/-- A line has no reply exactly if it is a notification, when whatever it calls comes to an end. -/
theorem answerLine_eq_none_iff (ends : service.Ends world line) :
    service.answerLine world line = none ↔ IsNotice line := by
  have tells := Message.tells_ofLine line
  rw [tells.isNotice_iff]
  unfold Service.answerLine
  cases said : Message.ofLine line with
  | error refusal => simp
  | ok message =>
      cases message with
      | notification notification => simp
      | request request =>
          have asks := (tells.asks_iff request.id request.method request.params).mpr said
          obtain ⟨id, method, params⟩ := request
          rcases service.work_cases id method params with
            ⟨-, -, value, work⟩ | ⟨-, message, work⟩ | ⟨-, -, message, work⟩ |
              ⟨rfl, name, named, work⟩
          · simp [work, Work.reply?]
          · simp [work, Work.reply?]
          · simp [work, Work.reply?]
          · obtain ⟨ending, ended⟩ := service.exists_finally world ends asks named
            simp [work, Work.reply?, ended]

/-- The reply to a line suits it. -/
theorem suits_answerLine {reply : Reply} (replied : service.answerLine world line = some reply) :
    Suits line reply := by
  unfold Service.answerLine at replied
  split at replied
  · rename_i refusal said
    cases replied
    exact suits_refusal said
  · cases replied
  · rename_i request said
    exact suits_reply? said replied

end Lines

/-- What is written for a reply has a version, an id, and either a result or an error. -/
theorem toJson_cases (reply : Reply) :
    (reply.code? = none ∧ ∃ value, reply.toJson =
      .object [("jsonrpc", .string "2.0"), ("id", reply.id), ("result", value)]) ∨
    ∃ code error, reply.code? = some code ∧ reply.toJson =
      .object [("jsonrpc", .string "2.0"), ("id", reply.id), ("error", error)] := by
  cases reply with
  | result id value => exact Or.inl ⟨rfl, value, rfl⟩
  | error id code message => exact Or.inr ⟨code, _, rfl, rfl⟩

/-- **What a line is answered.** Notifications have no reply and every other line has one, provided
that the capability it calls, if any, comes to an end in one way or another. A reply has the version
of the protocol, the id of the line, and either a result or an error. Each code of an error goes
with one kind of line, the code for inner errors with none, and a call of a tool by its name always
has a result. -/
theorem line_classified (service : Service) (world : World) (line : String)
    (ends : service.Ends world line) :
    (service.answerLine world line = none ↔ IsNotice line) ∧
    ∀ reply, service.answerLine world line = some reply →
      ((∃ value, reply.toJson =
          .object [("jsonrpc", .string "2.0"), ("id", idIn line), ("result", value)]) ∨
        ∃ error, reply.toJson =
          .object [("jsonrpc", .string "2.0"), ("id", idIn line), ("error", error)]) ∧
      (errorCode? reply.toJson = some (.int (-32700)) ↔ NotJson line) ∧
      (errorCode? reply.toJson = some (.int (-32600)) ↔ Methodless line) ∧
      (errorCode? reply.toJson = some (.int (-32601)) ↔
        ∃ id method params, Asks line id method params ∧ method ∉ serviceMethods) ∧
      (errorCode? reply.toJson = some (.int (-32602)) ↔
        ∃ id params, Asks line id "tools/call" params ∧
          ∀ name, params.member? "name" ≠ some (.string name)) ∧
      errorCode? reply.toJson ≠ some (.int (-32603)) ∧
      ∀ id params name, Asks line id "tools/call" params →
        params.member? "name" = some (.string name) →
        ∃ value, reply.toJson =
          .object [("jsonrpc", .string "2.0"), ("id", id), ("result", value)] := by
  refine ⟨answerLine_eq_none_iff ends, ?_⟩
  intro reply replied
  have suits := suits_answerLine replied
  refine ⟨?_, ?_, ?_, ?_, ?_, ?_, ?_⟩
  · rw [← suits.id_eq]
    rcases toJson_cases reply with ⟨-, result⟩ | ⟨code, error, -, failure⟩
    · exact Or.inl result
    · exact Or.inr ⟨error, failure⟩
  · exact (errorCode?_toJson_eq_iff reply .parseError).trans suits.parseError_iff
  · exact (errorCode?_toJson_eq_iff reply .invalidRequest).trans suits.invalidRequest_iff
  · exact (errorCode?_toJson_eq_iff reply .methodNotFound).trans suits.methodNotFound_iff
  · exact (errorCode?_toJson_eq_iff reply .invalidParams).trans suits.invalidParams_iff
  · exact (errorCode?_toJson_eq_iff reply .internalError).not.mpr suits.internalError_ne
  · intro id params name asks named
    have right := suits.code?_eq_none asks named
    rw [← asks.idIn_eq, ← suits.id_eq]
    rcases toJson_cases reply with ⟨-, result⟩ | ⟨code, error, wrong, -⟩
    · exact result
    · cases right.symm.trans wrong

/-- A call of the mirror that breaks it off, and one whose parameters are an array. -/
def mirrorLines : String × String :=
  ("\x7b\"id\":7,\"method\":\"tools/call\",\"params\":\x7b\"name\":\"mirror\"\x7d\x7d",
    "\x7b\"id\":null,\"method\":\"tools/call\",\"params\":[\"name\"]\x7d")

theorem mirrorService_ends (line : String) : mirrorService.Ends deafWorld line := by
  intro id params name entry args _ _ found _
  have member : entry ∈ [mirror] := List.mem_of_find?_eq_some found
  cases List.mem_singleton.mp member
  rfl

/-- A mirror that breaks off is reported in a result; a call without a name is an error under the id
that it has. -/
theorem line_classified_mirror :
    mirrorService.Ends deafWorld mirrorLines.1 ∧ mirrorService.Ends deafWorld mirrorLines.2 ∧
      (∃ reply value, mirrorService.answerLine deafWorld mirrorLines.1 = some reply ∧
        reply.toJson =
          .object [("jsonrpc", .string "2.0"), ("id", .int 7), ("result", value)]) ∧
      ∃ reply, mirrorService.answerLine deafWorld mirrorLines.2 = some reply ∧
        errorCode? reply.toJson = some (.int (-32602)) := by
  refine ⟨mirrorService_ends _, mirrorService_ends _, ?_, ?_⟩
  · obtain ⟨-, told⟩ := line_classified mirrorService deafWorld mirrorLines.1 (mirrorService_ends _)
    have asks : Asks mirrorLines.1 (.int 7) "tools/call" (.object [("name", .string "mirror")]) :=
      ⟨_, rfl, rfl, rfl, rfl⟩
    obtain ⟨-, -, -, -, -, -, called⟩ := told _ rfl
    obtain ⟨value, result⟩ := called _ _ "mirror" asks rfl
    exact ⟨_, value, rfl, result⟩
  · obtain ⟨-, told⟩ := line_classified mirrorService deafWorld mirrorLines.2 (mirrorService_ends _)
    have asks : Asks mirrorLines.2 .null "tools/call" (.array [.string "name"]) :=
      ⟨_, rfl, rfl, rfl, rfl⟩
    obtain ⟨-, -, -, -, nameless, -, -⟩ := told _ rfl
    exact ⟨_, rfl, nameless.mpr ⟨_, _, asks, fun _ => nofun⟩⟩

end SuiteBridge.Host
