import SuiteBridge.Proofs.Call.Addressing
import SuiteBridge.Proofs.Url.Below

/-!
# How far calls can go

Each tool has one method (`methods`), and every call that is planned has it (`uses_plan`). The path
of each tool starts with a service of the suite, its version and a plain word
(`isRooted_templates`), so that what is planned stays below the version of the service, whatever its
texts are (`below_plan`). Every request therefore stays inside the service of its tool
(`confined`).
-/

namespace SuiteBridge.Suite

open Url (isDots isPlainWord pathText stemText)

/-! ## The methods of the tools -/

/-- The methods of the wiki tools. -/
def Wiki.methods : List (Tool × Remote.Method) := [
  (Wiki.listProjects, .get), (Wiki.listPages, .get), (Wiki.getPage, .get),
  (Wiki.createPage, .post), (Wiki.updatePage, .put)]

/-- The methods of the project tools. -/
def Project.methods : List (Tool × Remote.Method) := [
  (Project.listProjects, .get), (Project.listPosts, .get), (Project.getPost, .get),
  (Project.createPost, .post), (Project.updatePost, .put), (Project.setPostWorkflow, .post),
  (Project.setPostDone, .post), (Project.createPostComment, .post),
  (Project.getPostComments, .get), (Project.updatePostComment, .put),
  (Project.deletePostComment, .delete)]

/-- The methods of the messenger tools. -/
def Messenger.methods : List (Tool × Remote.Method) := [
  (Messenger.searchMembers, .get), (Messenger.sendDirectMessage, .post),
  (Messenger.getChannels, .get), (Messenger.getSimpleChannels, .get), (Messenger.getChannel, .get),
  (Messenger.sendChannelMessage, .post), (Messenger.createChannel, .post),
  (Messenger.joinChannel, .post), (Messenger.leaveChannel, .post), (Messenger.createThread, .post),
  (Messenger.updateMessage, .put), (Messenger.deleteMessage, .delete)]

/-- The methods of the calendar tools. -/
def Calendar.methods : List (Tool × Remote.Method) := [
  (Calendar.listCalendars, .get), (Calendar.calendarDetail, .get), (Calendar.calendarEvents, .get),
  (Calendar.eventDetail, .get), (Calendar.createEvent, .post)]

/-- The methods of the drive tools. -/
def Drive.methods : List (Tool × Remote.Method) := [
  (Drive.listDrives, .get), (Drive.driveDetail, .get), (Drive.listFiles, .get),
  (Drive.driveChanges, .get), (Drive.fileMetadata, .get), (Drive.createFolder, .post),
  (Drive.renameFile, .put), (Drive.copyFile, .post), (Drive.moveFile, .post),
  (Drive.moveToTrash, .post), (Drive.deleteFile, .delete), (Drive.createSharedLink, .post),
  (Drive.sharedLinks, .get), (Drive.sharedLinkDetail, .get), (Drive.updateSharedLink, .put),
  (Drive.deleteSharedLink, .delete)]

/-- The methods of all tools. -/
def methods : List (Tool × Remote.Method) :=
  Wiki.methods ++ Project.methods ++ Messenger.methods ++ Calendar.methods ++ Drive.methods

/-- Every tool has one method. -/
theorem map_fst_methods : methods.map Prod.fst = tools :=
  rfl

section Planned

variable {args : Arguments} {tool : Tool} {method : Remote.Method}

@[simp] theorem method_call (segments : List String) : (call method segments).method = method :=
  rfl

@[simp] theorem method_reading (segments : List String) (parameters : List (String × String)) :
    (reading segments parameters).method = .get :=
  rfl

@[simp] theorem method_sending (segments : List String) (body : Json) :
    (sending method segments body).method = method :=
  rfl

/-- A plan has a method. -/
def Uses (method : Remote.Method) (plan : Plan) : Prop :=
  plan.call.method = method

@[simp] theorem uses_mk {call : Remote.Call} {reading : Reading} :
    Uses method ⟨call, reading⟩ ↔ call.method = method :=
  Iff.rfl

theorem Wiki.locally_uses (listed : (tool, method) ∈ Wiki.methods) :
    Locally (Uses method) (tool.plan args) := by
  simp only [Wiki.methods, List.mem_cons, List.not_mem_nil, or_false, Prod.mk.injEq] at listed
  rcases listed with ⟨rfl, rfl⟩ | ⟨rfl, rfl⟩ | ⟨rfl, rfl⟩ | ⟨rfl, rfl⟩ | ⟨rfl, rfl⟩
  · simp [Wiki.listProjects]
  · simp [Wiki.listPages]
  · simp [Wiki.getPage]
  · simp [Wiki.createPage]
  · simp [Wiki.updatePage]

theorem Project.locally_uses (listed : (tool, method) ∈ Project.methods) :
    Locally (Uses method) (tool.plan args) := by
  simp only [Project.methods, List.mem_cons, List.not_mem_nil, or_false, Prod.mk.injEq] at listed
  rcases listed with ⟨rfl, rfl⟩ | ⟨rfl, rfl⟩ | ⟨rfl, rfl⟩ | ⟨rfl, rfl⟩ | ⟨rfl, rfl⟩ | ⟨rfl, rfl⟩ |
    ⟨rfl, rfl⟩ | ⟨rfl, rfl⟩ | ⟨rfl, rfl⟩ | ⟨rfl, rfl⟩ | ⟨rfl, rfl⟩
  · simp [Project.listProjects]
  · simp [Project.listPosts]
  · simp [Project.getPost]
  · simp [Project.createPost]
  · simp [Project.updatePost]
  · simp [Project.setPostWorkflow]
  · simp [Project.setPostDone]
  · simp [Project.createPostComment]
  · simp [Project.getPostComments]
  · simp [Project.updatePostComment]
  · simp [Project.deletePostComment]

theorem Messenger.locally_uses (listed : (tool, method) ∈ Messenger.methods) :
    Locally (Uses method) (tool.plan args) := by
  simp only [Messenger.methods, List.mem_cons, List.not_mem_nil, or_false, Prod.mk.injEq] at listed
  rcases listed with ⟨rfl, rfl⟩ | ⟨rfl, rfl⟩ | ⟨rfl, rfl⟩ | ⟨rfl, rfl⟩ | ⟨rfl, rfl⟩ | ⟨rfl, rfl⟩ |
    ⟨rfl, rfl⟩ | ⟨rfl, rfl⟩ | ⟨rfl, rfl⟩ | ⟨rfl, rfl⟩ | ⟨rfl, rfl⟩ | ⟨rfl, rfl⟩
  · simp [Messenger.searchMembers]
  · simp [Messenger.sendDirectMessage]
  · simp [Messenger.getChannels, Messenger.channelList]
  · simp [Messenger.getSimpleChannels, Messenger.channelList]
  · simp [Messenger.getChannel]
  · simp [Messenger.sendChannelMessage]
  · simp only [Messenger.createChannel, locally_bind, Arguments.locally_oneOf?]
    intro kind _
    cases kind <;> simp
  · simp [Messenger.joinChannel, Messenger.changeMembership]
  · simp [Messenger.leaveChannel, Messenger.changeMembership]
  · simp [Messenger.createThread]
  · simp [Messenger.updateMessage]
  · simp [Messenger.deleteMessage]

theorem Calendar.locally_uses (listed : (tool, method) ∈ Calendar.methods) :
    Locally (Uses method) (tool.plan args) := by
  simp only [Calendar.methods, List.mem_cons, List.not_mem_nil, or_false, Prod.mk.injEq] at listed
  rcases listed with ⟨rfl, rfl⟩ | ⟨rfl, rfl⟩ | ⟨rfl, rfl⟩ | ⟨rfl, rfl⟩ | ⟨rfl, rfl⟩
  · simp [Calendar.listCalendars]
  · simp [Calendar.calendarDetail]
  · simp [Calendar.calendarEvents]
  · simp [Calendar.eventDetail]
  · simp [Calendar.createEvent]

theorem Drive.locally_uses (listed : (tool, method) ∈ Drive.methods) :
    Locally (Uses method) (tool.plan args) := by
  simp only [Drive.methods, List.mem_cons, List.not_mem_nil, or_false, Prod.mk.injEq] at listed
  rcases listed with ⟨rfl, rfl⟩ | ⟨rfl, rfl⟩ | ⟨rfl, rfl⟩ | ⟨rfl, rfl⟩ | ⟨rfl, rfl⟩ | ⟨rfl, rfl⟩ |
    ⟨rfl, rfl⟩ | ⟨rfl, rfl⟩ | ⟨rfl, rfl⟩ | ⟨rfl, rfl⟩ | ⟨rfl, rfl⟩ | ⟨rfl, rfl⟩ |
    ⟨rfl, rfl⟩ | ⟨rfl, rfl⟩ | ⟨rfl, rfl⟩ | ⟨rfl, rfl⟩
  · simp [Drive.listDrives]
  · simp [Drive.driveDetail]
  · simp [Drive.listFiles]
  · simp [Drive.driveChanges]
  · simp [Drive.fileMetadata]
  · simp [Drive.createFolder]
  · simp [Drive.renameFile]
  · simp [Drive.copyFile]
  · simp [Drive.moveFile, Drive.moving]
  · simp [Drive.moveToTrash, Drive.moving]
  · simp [Drive.deleteFile]
  · simp [Drive.createSharedLink]
  · simp [Drive.sharedLinks]
  · simp [Drive.sharedLinkDetail]
  · simp [Drive.updateSharedLink]
  · simp [Drive.deleteSharedLink]

/-- **Every plan has the method of its tool.** -/
theorem uses_plan {plan : Plan} (listed : (tool, method) ∈ methods)
    (planned : tool.plan args = .ok plan) : Uses method plan := by
  have uses : Locally (Uses method) (tool.plan args) := by
    simp only [methods, List.mem_append] at listed
    rcases listed with (((wiki | project) | messenger) | calendar) | drive
    · exact Wiki.locally_uses wiki
    · exact Project.locally_uses project
    · exact Messenger.locally_uses messenger
    · exact Calendar.locally_uses calendar
    · exact Drive.locally_uses drive
  rwa [planned] at uses

end Planned

/-! ## Where a request can be -/

/-- The services of the suite. -/
def services : List String :=
  ["wiki", "project", "messenger", "calendar", "drive", "common"]

/-- A template that starts with a service and goes on with a plain word behind the version. -/
def Template.isRooted (template : Template) : Bool :=
  services.contains template.service &&
    match template.below with
    | .word third :: _ => isPlainWord third
    | _ => false

theorem rooted_iff {template : Template} :
    template.isRooted = true ↔ template.service ∈ services ∧
      ∃ third below, template.below = .word third :: below ∧ isPlainWord third = true := by
  unfold Template.isRooted
  rw [Bool.and_eq_true, List.contains_iff_mem]
  refine and_congr_right fun _ => ?_
  split
  · simp_all
  · simp_all

theorem isRooted_templates : ∀ entry ∈ templates, entry.2.isRooted = true := by
  decide

theorem isPlainWord_services : ∀ service ∈ services, isPlainWord service = true := by
  decide

section Confined

variable {args : Arguments} {template : Template} {plan : Plan}

/-- What is planned stays below the version of its service. -/
theorem below_plan (rooted : template.isRooted = true) (follows : Follows args template plan)
    (path : List String) :
    Url.Below (Url.stem path ++ [template.service, "v1"]) (Url.extend path plan.call.segments) := by
  obtain ⟨known, third, parts, starts, plain⟩ := rooted_iff.mp rooted
  unfold Follows Template.parts at follows
  rw [starts] at follows
  generalize plan.call.segments = segments at follows ⊢
  cases follows with
  | cons one follows =>
  cases follows with
  | cons two follows =>
  cases follows with
  | cons three follows =>
  cases one
  cases two
  cases three
  exact Url.below_extend (isPlainWord_services _ known) (by decide +kernel) plain path _

end Confined

/-- **A request stays inside the service of its tool.** This holds for every address of a service
that is accepted, every tool of the suite and every argument with which it makes a request, whatever
texts there are in it: the method is that of the tool, and the path goes from that of the address on
to the service and its version and then further, without anything there that could be taken for a
step up. -/
theorem confined {raw : String} {settings : Settings}
    (accepted : Settings.parseBase raw = .ok settings.base) {tool : Tool} (shipped : tool ∈ tools) :
    ∃ template method, (tool, template) ∈ templates ∧ (tool, method) ∈ methods ∧
      template.service ∈ services ∧
      ∀ args request, (tool.toCapability.run args).request? settings = some request →
        request.method = method ∧
        (stemText (pathText settings.base.path) ++ ("/" ++ template.service ++ "/v1/")).toList <+:
          request.path.toList ∧
        ∃ rest, request.path = stemText (pathText settings.base.path) ++
            ("/" ++ template.service ++ "/v1" ++ pathText rest) ∧
          ∀ segment ∈ rest, isDots segment = false := by
  obtain ⟨⟨_, template⟩, path, rfl⟩ := List.mem_map.mp (map_fst_templates ▸ shipped)
  obtain ⟨⟨_, method⟩, way, same⟩ := List.mem_map.mp (map_fst_methods ▸ shipped)
  cases same
  have rooted := isRooted_templates _ path
  refine ⟨template, method, path, way, (rooted_iff.mp rooted).1, ?_⟩
  intro args request asked
  obtain ⟨plan, planned, rfl⟩ := plan_of_request? asked
  refine ⟨uses_plan way planned, ?_⟩
  have root : pathText [template.service, "v1"] = "/" ++ template.service ++ "/v1" := by
    simp [pathText, String.append_assoc]
  have slash : "/" ++ template.service ++ "/v1" ++ "/" = "/" ++ template.service ++ "/v1/" := by
    simp [String.append_assoc]
  have below := below_plan rooted (follows_plan path planned) settings.base.path
  have text := below.text (Url.slashless_of_parseBase accepted)
  rw [root, slash] at text
  exact text

/-- Ids of nothing but dots, with tabs and line ends between them, empty what stands before them,
and yet what is deleted is below the service. -/
theorem confined_deleteSharedLink :
    ∃ template method request, (Drive.deleteSharedLink, template) ∈ templates ∧
      (Drive.deleteSharedLink, method) ∈ methods ∧
      (Drive.deleteSharedLink.toCapability.run
        (linkArguments ".\n." ".\t." "\r..")).request? nearSettings = some request ∧
      request.path = "/proxy/drive/v1///" ∧ request.method = method ∧
      (stemText (pathText nearSettings.base.path) ++
        ("/" ++ template.service ++ "/v1/")).toList <+: request.path.toList := by
  obtain ⟨template, method, path, way, -, always⟩ :=
    confined parseBase_near deleteSharedLink_shipped
  obtain ⟨request, asked⟩ : ∃ request, (Drive.deleteSharedLink.toCapability.run
      (linkArguments ".\n." ".\t." "\r..")).request? nearSettings = some request := ⟨_, rfl⟩
  obtain ⟨uses, inside, -⟩ := always _ request asked
  refine ⟨template, method, request, path, way, asked, ?_, uses, inside⟩
  cases asked
  decide +kernel

end SuiteBridge.Suite
