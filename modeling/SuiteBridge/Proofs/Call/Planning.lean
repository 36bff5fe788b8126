import SuiteBridge.Suite.Catalogue

/-!
# Planning a call

A tool reads its arguments and plans one call. `Locally good result` says what planning may come to:
it fails over the arguments alone, or it gives something that is `good`. Every reader of an argument
fails in this way only, and so does every tool of the suite; what the tools plan agrees with their
names about the status to expect and about who looks for a single channel
(`Suite.locally_plan`).
-/

namespace SuiteBridge

/-- A fault over the arguments of a call, for which nobody has to be asked. -/
def Fault.IsLocal (fault : Fault) : Prop :=
  fault.kind = .parameterMissing ∨ fault.kind = .validation

@[simp] theorem Fault.isLocal_parameterMissing (name : String) :
    (Fault.parameterMissing name).IsLocal :=
  Or.inl rfl

@[simp] theorem Fault.isLocal_validation (message : String) :
    (Fault.validation message).IsLocal :=
  Or.inr rfl

@[simp] theorem Fault.isLocal_withCode {fault : Fault} {code : String} :
    (fault.withCode code).IsLocal ↔ fault.IsLocal :=
  Iff.rfl

@[simp] theorem Arguments.isLocal_invalid (name problem : String) :
    (Arguments.invalid name problem).IsLocal :=
  Or.inr rfl

/-- A result that is a local fault or else is good. -/
def Locally {α : Type} (good : α → Prop) : Except Fault α → Prop
  | .ok a => good a
  | .error fault => fault.IsLocal

section Locally

variable {α β : Type} {good : α → Prop} {better : β → Prop}

@[simp] theorem locally_ok {a : α} : Locally good (.ok a) ↔ good a :=
  Iff.rfl

@[simp] theorem locally_error {fault : Fault} :
    Locally good (.error fault : Except Fault α) ↔ fault.IsLocal :=
  Iff.rfl

@[simp] theorem locally_pure {a : α} : Locally good (pure a) ↔ good a :=
  Iff.rfl

@[simp] theorem locally_throw {fault : Fault} :
    Locally good (throw fault : Except Fault α) ↔ fault.IsLocal :=
  Iff.rfl

@[simp] theorem locally_bind {result : Except Fault α} {next : α → Except Fault β} :
    Locally better (result >>= next) ↔ Locally (fun a => Locally better (next a)) result := by
  cases result <;> rfl

@[simp] theorem locally_map {result : Except Fault α} {make : α → β} :
    Locally better (result.map make) ↔ Locally (fun a => better (make a)) result := by
  cases result <;> rfl

@[simp] theorem locally_functor_map {result : Except Fault α} {make : α → β} :
    Locally better (make <$> result) ↔ Locally (fun a => better (make a)) result :=
  locally_map

@[simp] theorem locally_ite {chosen : Prop} [Decidable chosen] {first second : Except Fault α} :
    Locally good (if chosen then first else second) ↔
      (chosen → Locally good first) ∧ (¬ chosen → Locally good second) := by
  by_cases holds : chosen <;> simp [holds]

/-- What can only fail locally is judged by what it gives. -/
theorem Locally.iff_forall {result : Except Fault α} (fails : Locally (fun _ => True) result) :
    Locally good result ↔ ∀ a, result = .ok a → good a := by
  cases result with
  | error fault => simpa using fails
  | ok a => simp

end Locally

/-! ## The arguments -/

namespace Arguments

variable {args : Arguments} {name : String}

@[simp] theorem locally_text? {good : Option String → Prop} :
    Locally good (args.text? name) ↔ ∀ s, args.text? name = .ok s → good s := by
  refine Locally.iff_forall ?_
  unfold text?
  split <;> simp

@[simp] theorem locally_text {good : String → Prop} :
    Locally good (args.text name) ↔ ∀ s, args.text name = .ok s → good s := by
  refine Locally.iff_forall ?_
  have fails : Locally (fun _ => True) (args.text? name) := by simp
  unfold text
  split <;> simp_all

@[simp] theorem locally_number? {good : Option Nat → Prop} :
    Locally good (args.number? name) ↔ ∀ n, args.number? name = .ok n → good n := by
  refine Locally.iff_forall ?_
  unfold number?
  split
  · simp
  · simp
  · split <;> simp
    split <;> simp
  · simp

@[simp] theorem locally_flag? {good : Option Bool → Prop} :
    Locally good (args.flag? name) ↔ ∀ b, args.flag? name = .ok b → good b := by
  refine Locally.iff_forall ?_
  unfold flag?
  split <;> simp

theorem locally_entriesOfItems (items : List Json) :
    Locally (fun _ => True) (entriesOfItems name items) := by
  induction items with
  | nil => simp [entriesOfItems]
  | cons item items ih =>
      unfold entriesOfItems
      cases item <;> simp [entryOfItem, ih]

@[simp] theorem locally_list? {good : Option (List String) → Prop} :
    Locally good (args.list? name) ↔ ∀ entries, args.list? name = .ok entries → good entries := by
  refine Locally.iff_forall ?_
  unfold list?
  split <;> simp [locally_entriesOfItems]

@[simp] theorem locally_list {good : List String → Prop} :
    Locally good (args.list name) ↔ ∀ entries, args.list name = .ok entries → good entries := by
  refine Locally.iff_forall ?_
  have fails : Locally (fun _ => True) (args.list? name) := by simp
  unfold list
  split <;> simp_all

@[simp] theorem locally_oneOf? {allowed : List String} {good : Option String → Prop} :
    Locally good (args.oneOf? name allowed) ↔
      ∀ s, args.oneOf? name allowed = .ok s → good s := by
  refine Locally.iff_forall ?_
  have fails : Locally (fun _ => True) (args.text? name) := by simp
  unfold oneOf?
  split <;> simp_all

end Arguments

/-! ## The tools -/

namespace Suite

@[simp] theorem isLocal_nothingToUpdate (hint : String) : (nothingToUpdate hint).IsLocal :=
  Or.inr rfl

@[simp] theorem expected_reading (segments : List String) (parameters : List (String × String)) :
    (reading segments parameters).expected = 200 :=
  rfl

@[simp] theorem expected_sending (method : Remote.Method) (segments : List String) (body : Json) :
    (sending method segments body).expected = 200 :=
  rfl

@[simp] theorem expected_call (method : Remote.Method) (segments : List String) :
    (call method segments).expected = 200 :=
  rfl

/-- The status that the tool of a name expects of an answer. -/
def expectedStatus (name : String) : Nat :=
  if name = "dooray_wiki_create_page" then 201 else 200

/-- A plan expects the status that goes with a name, and only the tool for one channel looks for
one. -/
structure Befits (name : String) (plan : Plan) : Prop where
  expected : plan.call.expected = expectedStatus name
  seeks : ∀ id, plan.reading = .channel id → name = "dooray_messenger_get_channel"

@[simp] theorem befits_mk {name : String} {call : Remote.Call} {reading : Reading} :
    Befits name ⟨call, reading⟩ ↔
      call.expected = expectedStatus name ∧
        ∀ id, reading = .channel id → name = "dooray_messenger_get_channel" :=
  ⟨fun befits => ⟨befits.expected, befits.seeks⟩, fun both => ⟨both.1, both.2⟩⟩

@[simp] theorem Wiki.locally_referrers {args : Arguments} {good : Option Json → Prop} :
    Locally good (Wiki.referrers args) ↔
      ∀ entries, Wiki.referrers args = .ok entries → good entries := by
  refine Locally.iff_forall ?_
  simp [Wiki.referrers]

theorem Wiki.locally_plan {tool : Tool} (shipped : tool ∈ Wiki.tools) (args : Arguments) :
    Locally (Befits tool.name) (tool.plan args) := by
  simp only [Wiki.tools, List.mem_cons, List.not_mem_nil, or_false] at shipped
  rcases shipped with rfl | rfl | rfl | rfl | rfl
  · simp [Wiki.listProjects, expectedStatus]
  · simp [Wiki.listPages, expectedStatus]
  · simp [Wiki.getPage, expectedStatus]
  · simp [Wiki.createPage, expectedStatus]
  · simp [Wiki.updatePage, expectedStatus]

@[simp] theorem Project.locally_writtenPost {args : Arguments} {good : Members → Prop} :
    Locally good (Project.writtenPost args) ↔
      ∀ post, Project.writtenPost args = .ok post → good post := by
  refine Locally.iff_forall ?_
  simp [Project.writtenPost]

@[simp] theorem Project.locally_writtenComment {args : Arguments} {good : Json → Prop} :
    Locally good (Project.writtenComment args) ↔
      ∀ comment, Project.writtenComment args = .ok comment → good comment := by
  refine Locally.iff_forall ?_
  simp [Project.writtenComment]

theorem Project.locally_plan {tool : Tool} (shipped : tool ∈ Project.tools) (args : Arguments) :
    Locally (Befits tool.name) (tool.plan args) := by
  simp only [Project.tools, List.mem_cons, List.not_mem_nil, or_false] at shipped
  rcases shipped with rfl | rfl | rfl | rfl | rfl | rfl | rfl | rfl | rfl | rfl | rfl
  · simp [Project.listProjects, expectedStatus]
  · simp [Project.listPosts, expectedStatus]
  · simp [Project.getPost, expectedStatus]
  · simp [Project.createPost, expectedStatus]
  · simp [Project.updatePost, expectedStatus]
  · simp [Project.setPostWorkflow, expectedStatus]
  · simp [Project.setPostDone, expectedStatus]
  · simp [Project.createPostComment, expectedStatus]
  · simp [Project.getPostComments, expectedStatus]
  · simp [Project.updatePostComment, expectedStatus]
  · simp [Project.deletePostComment, expectedStatus]

@[simp] theorem Messenger.locally_withMentions {args : Arguments} {text : String}
    {good : String → Prop} :
    Locally good (Messenger.withMentions args text) ↔
      ∀ message, Messenger.withMentions args text = .ok message → good message := by
  refine Locally.iff_forall ?_
  unfold Messenger.withMentions
  split
  · simp
  · split <;> simp [Messenger.invalidMentions]
  · simp [Messenger.invalidMentions]

theorem Messenger.locally_plan {tool : Tool} (shipped : tool ∈ Messenger.tools)
    (args : Arguments) : Locally (Befits tool.name) (tool.plan args) := by
  simp only [Messenger.tools, List.mem_cons, List.not_mem_nil, or_false] at shipped
  rcases shipped with rfl | rfl | rfl | rfl | rfl | rfl | rfl | rfl | rfl | rfl | rfl | rfl
  · simp [Messenger.searchMembers, expectedStatus]
  · simp [Messenger.sendDirectMessage, expectedStatus]
  · simp [Messenger.getChannels, Messenger.channelList, expectedStatus]
  · simp [Messenger.getSimpleChannels, Messenger.channelList, expectedStatus]
  · simp [Messenger.getChannel, expectedStatus]
  · simp [Messenger.sendChannelMessage, expectedStatus]
  · simp only [Messenger.createChannel, locally_bind, Arguments.locally_oneOf?]
    intro kind _
    cases kind <;> simp [expectedStatus]
  · simp [Messenger.joinChannel, Messenger.changeMembership, expectedStatus]
  · simp [Messenger.leaveChannel, Messenger.changeMembership, expectedStatus]
  · simp [Messenger.createThread, expectedStatus]
  · simp [Messenger.updateMessage, expectedStatus]
  · simp [Messenger.deleteMessage, expectedStatus]

theorem Calendar.locally_plan {tool : Tool} (shipped : tool ∈ Calendar.tools) (args : Arguments) :
    Locally (Befits tool.name) (tool.plan args) := by
  simp only [Calendar.tools, List.mem_cons, List.not_mem_nil, or_false] at shipped
  rcases shipped with rfl | rfl | rfl | rfl | rfl
  · simp [Calendar.listCalendars, expectedStatus]
  · simp [Calendar.calendarDetail, expectedStatus]
  · simp [Calendar.calendarEvents, expectedStatus]
  · simp [Calendar.eventDetail, expectedStatus]
  · simp [Calendar.createEvent, expectedStatus]

theorem Drive.locally_plan {tool : Tool} (shipped : tool ∈ Drive.tools) (args : Arguments) :
    Locally (Befits tool.name) (tool.plan args) := by
  simp only [Drive.tools, List.mem_cons, List.not_mem_nil, or_false] at shipped
  rcases shipped with rfl | rfl | rfl | rfl | rfl | rfl | rfl | rfl | rfl | rfl | rfl | rfl | rfl |
    rfl | rfl | rfl
  · simp [Drive.listDrives, expectedStatus]
  · simp [Drive.driveDetail, expectedStatus]
  · simp [Drive.listFiles, expectedStatus]
  · simp [Drive.driveChanges, expectedStatus]
  · simp [Drive.fileMetadata, expectedStatus]
  · simp [Drive.createFolder, expectedStatus]
  · simp [Drive.renameFile, expectedStatus]
  · simp [Drive.copyFile, expectedStatus]
  · simp [Drive.moveFile, Drive.moving, expectedStatus]
  · simp [Drive.moveToTrash, Drive.moving, expectedStatus]
  · simp [Drive.deleteFile, expectedStatus]
  · simp [Drive.createSharedLink, expectedStatus]
  · simp [Drive.sharedLinks, expectedStatus]
  · simp [Drive.sharedLinkDetail, expectedStatus]
  · simp [Drive.updateSharedLink, expectedStatus]
  · simp [Drive.deleteSharedLink, expectedStatus]

/-- **Every tool of the suite plans locally.** What it plans befits its name. -/
theorem locally_plan {tool : Tool} (shipped : tool ∈ tools) (args : Arguments) :
    Locally (Befits tool.name) (tool.plan args) := by
  simp only [tools, List.mem_append] at shipped
  rcases shipped with (((wiki | project) | messenger) | calendar) | drive
  · exact Wiki.locally_plan wiki args
  · exact Project.locally_plan project args
  · exact Messenger.locally_plan messenger args
  · exact Calendar.locally_plan calendar args
  · exact Drive.locally_plan drive args

/-- A request is that of a plan. -/
theorem plan_of_request? {tool : Tool} {args : Arguments} {settings : Settings}
    {request : Remote.Request}
    (asked : (tool.toCapability.run args).request? settings = some request) :
    ∃ plan, tool.plan args = .ok plan ∧ plan.call.request settings = request := by
  cases planned : tool.plan args with
  | ok plan =>
      simp only [Tool.toCapability, planned, Activity.request?, Option.some.injEq] at asked
      exact ⟨plan, rfl, asked⟩
  | error fault =>
      simp only [Tool.toCapability, planned, Activity.request?] at asked
      cases asked

end Suite

end SuiteBridge
