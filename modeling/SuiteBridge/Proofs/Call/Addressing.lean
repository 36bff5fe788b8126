import SuiteBridge.Proofs.Call.Planning
import SuiteBridge.Proofs.Url.Path

/-!
# Where calls go

Each tool has a path of its own below the address of the suite: words, and places for the texts of
some of its arguments. `templates` lists them, and every call that is planned has the segments that
its template asks for (`follows_plan`).

The path of a request follows its template exactly if the texts in it are upright
(`addressed_iff_upright`). A text of one or two dots, or one with a tab or a line end in it, goes
astray: `misaddressed_deleteSharedLink`.
-/

namespace SuiteBridge.Suite

open Url (encoded isPlainWord isUpright pathText stemText)

/-! ## The paths of the tools -/

/-- A part of the path of a tool: a word, or the place of an argument. -/
inductive Part where
  | word (text : String)
  | slot (name : String)
  deriving DecidableEq, Repr

instance : Coe String Part := ⟨.word⟩

/-- The path of a tool: a service in its first version, and parts below it. -/
structure Template where
  service : String
  below : List Part
  deriving DecidableEq, Repr

/-- The parts of a path. -/
def Template.parts (template : Template) : List Part :=
  template.service :: "v1" :: template.below

/-- The paths of the wiki tools. -/
def Wiki.templates : List (Tool × Template) := [
  (Wiki.listProjects, ⟨"wiki", ["wikis"]⟩),
  (Wiki.listPages, ⟨"wiki", ["wikis", .slot "wiki_id", "pages"]⟩),
  (Wiki.getPage, ⟨"wiki", ["wikis", .slot "wiki_id", "pages", .slot "page_id"]⟩),
  (Wiki.createPage, ⟨"wiki", ["wikis", .slot "wiki_id", "pages"]⟩),
  (Wiki.updatePage, ⟨"wiki", ["wikis", .slot "wiki_id", "pages", .slot "page_id"]⟩)]

/-- The path of what belongs to the tasks of a project. -/
def Project.template (below : List Part) : Template :=
  ⟨"project", "projects" :: .slot "project_id" :: "posts" :: below⟩

/-- The paths of the project tools. -/
def Project.templates : List (Tool × Template) := [
  (Project.listProjects, ⟨"project", ["projects"]⟩),
  (Project.listPosts, Project.template []),
  (Project.getPost, Project.template [.slot "post_id"]),
  (Project.createPost, Project.template []),
  (Project.updatePost, Project.template [.slot "post_id"]),
  (Project.setPostWorkflow, Project.template [.slot "post_id", "set-workflow"]),
  (Project.setPostDone, Project.template [.slot "post_id", "set-done"]),
  (Project.createPostComment, Project.template [.slot "post_id", "logs"]),
  (Project.getPostComments, Project.template [.slot "post_id", "logs"]),
  (Project.updatePostComment, Project.template [.slot "post_id", "logs", .slot "log_id"]),
  (Project.deletePostComment, Project.template [.slot "post_id", "logs", .slot "log_id"])]

/-- The path of what belongs to the channels. -/
def Messenger.template (below : List Part) : Template :=
  ⟨"messenger", "channels" :: below⟩

/-- The paths of the messenger tools. -/
def Messenger.templates : List (Tool × Template) := [
  (Messenger.searchMembers, ⟨"common", ["members"]⟩),
  (Messenger.sendDirectMessage, Messenger.template ["direct-send"]),
  (Messenger.getChannels, Messenger.template []),
  (Messenger.getSimpleChannels, Messenger.template []),
  (Messenger.getChannel, Messenger.template []),
  (Messenger.sendChannelMessage, Messenger.template [.slot "channel_id", "logs"]),
  (Messenger.createChannel, Messenger.template []),
  (Messenger.joinChannel, Messenger.template [.slot "channel_id", "members", "join"]),
  (Messenger.leaveChannel, Messenger.template [.slot "channel_id", "members", "leave"]),
  (Messenger.createThread, Messenger.template [.slot "channel_id", "threads"]),
  (Messenger.updateMessage, Messenger.template [.slot "channel_id", "logs", .slot "log_id"]),
  (Messenger.deleteMessage, Messenger.template [.slot "channel_id", "logs", .slot "log_id"])]

/-- The paths of the calendar tools. -/
def Calendar.templates : List (Tool × Template) := [
  (Calendar.listCalendars, ⟨"calendar", ["calendars"]⟩),
  (Calendar.calendarDetail, ⟨"calendar", ["calendars", .slot "calendar_id"]⟩),
  (Calendar.calendarEvents, ⟨"calendar", ["calendars", "*", "events"]⟩),
  (Calendar.eventDetail,
    ⟨"calendar", ["calendars", .slot "calendar_id", "events", .slot "event_id"]⟩),
  (Calendar.createEvent, ⟨"calendar", ["calendars", .slot "calendar_id", "events"]⟩)]

/-- The path of what belongs to a drive. -/
def Drive.template (below : List Part) : Template :=
  ⟨"drive", "drives" :: .slot "drive_id" :: below⟩

/-- The paths of the drive tools. -/
def Drive.templates : List (Tool × Template) := [
  (Drive.listDrives, ⟨"drive", ["drives"]⟩),
  (Drive.driveDetail, Drive.template []),
  (Drive.listFiles, Drive.template ["files"]),
  (Drive.driveChanges, Drive.template ["changes"]),
  (Drive.fileMetadata, Drive.template ["files", .slot "file_id"]),
  (Drive.createFolder, Drive.template ["files", .slot "parent_folder_id", "create-folder"]),
  (Drive.renameFile, Drive.template ["files", .slot "file_id"]),
  (Drive.copyFile, Drive.template ["files", .slot "file_id", "copy"]),
  (Drive.moveFile, Drive.template ["files", .slot "file_id", "move"]),
  (Drive.moveToTrash, Drive.template ["files", .slot "file_id", "move"]),
  (Drive.deleteFile, Drive.template ["files", .slot "file_id"]),
  (Drive.createSharedLink, Drive.template ["files", .slot "file_id", "shared-links"]),
  (Drive.sharedLinks, Drive.template ["files", .slot "file_id", "shared-links"]),
  (Drive.sharedLinkDetail,
    Drive.template ["files", .slot "file_id", "shared-links", .slot "link_id"]),
  (Drive.updateSharedLink,
    Drive.template ["files", .slot "file_id", "shared-links", .slot "link_id"]),
  (Drive.deleteSharedLink,
    Drive.template ["files", .slot "file_id", "shared-links", .slot "link_id"])]

/-- The paths of all tools. -/
def templates : List (Tool × Template) :=
  Wiki.templates ++ Project.templates ++ Messenger.templates ++ Calendar.templates
    ++ Drive.templates

/-- Every tool has one path. -/
theorem map_fst_templates : templates.map Prod.fst = tools :=
  rfl

/-! ## What is planned -/

/-- A segment is what a part asks for. -/
def Part.Takes (args : Arguments) : Part → String → Prop
  | .word text, segment => segment = text
  | .slot name, segment => args.text name = .ok segment

section Planned

variable {args : Arguments} {tool : Tool} {template : Template}

@[simp] theorem takes_word {text segment : String} :
    Part.Takes args (.word text) segment ↔ segment = text :=
  Iff.rfl

@[simp] theorem takes_slot {name segment : String} :
    Part.Takes args (.slot name) segment ↔ args.text name = .ok segment :=
  Iff.rfl

@[simp] theorem segments_call (method : Remote.Method) (segments : List String) :
    (call method segments).segments = segments :=
  rfl

@[simp] theorem segments_reading (segments : List String) (parameters : List (String × String)) :
    (reading segments parameters).segments = segments :=
  rfl

@[simp] theorem segments_sending (method : Remote.Method) (segments : List String) (body : Json) :
    (sending method segments body).segments = segments :=
  rfl

/-- A plan has the segments that a template asks for. -/
def Follows (args : Arguments) (template : Template) (plan : Plan) : Prop :=
  List.Forall₂ (Part.Takes args) template.parts plan.call.segments

@[simp] theorem follows_mk {call : Remote.Call} {reading : Reading} :
    Follows args template ⟨call, reading⟩ ↔
      List.Forall₂ (Part.Takes args) (template.service :: "v1" :: template.below) call.segments :=
  Iff.rfl

theorem Wiki.locally_follows (listed : (tool, template) ∈ Wiki.templates) :
    Locally (Follows args template) (tool.plan args) := by
  simp only [Wiki.templates, List.mem_cons, List.not_mem_nil, or_false, Prod.mk.injEq] at listed
  rcases listed with ⟨rfl, rfl⟩ | ⟨rfl, rfl⟩ | ⟨rfl, rfl⟩ | ⟨rfl, rfl⟩ | ⟨rfl, rfl⟩
  · simp [Wiki.listProjects]
  · simp +contextual [Wiki.listPages]
  · simp +contextual [Wiki.getPage]
  · simp +contextual [Wiki.createPage]
  · simp +contextual [Wiki.updatePage]

theorem Project.locally_follows (listed : (tool, template) ∈ Project.templates) :
    Locally (Follows args template) (tool.plan args) := by
  simp only [Project.templates, List.mem_cons, List.not_mem_nil, or_false, Prod.mk.injEq] at listed
  rcases listed with ⟨rfl, rfl⟩ | ⟨rfl, rfl⟩ | ⟨rfl, rfl⟩ | ⟨rfl, rfl⟩ | ⟨rfl, rfl⟩ | ⟨rfl, rfl⟩ |
    ⟨rfl, rfl⟩ | ⟨rfl, rfl⟩ | ⟨rfl, rfl⟩ | ⟨rfl, rfl⟩ | ⟨rfl, rfl⟩
  · simp [Project.listProjects]
  · simp +contextual [Project.listPosts, Project.template, Project.postsPath]
  · simp +contextual [Project.getPost, Project.template, Project.postsPath]
  · simp +contextual [Project.createPost, Project.template, Project.postsPath]
  · simp +contextual [Project.updatePost, Project.template, Project.postsPath]
  · simp +contextual [Project.setPostWorkflow, Project.template, Project.postsPath]
  · simp +contextual [Project.setPostDone, Project.template, Project.postsPath]
  · simp +contextual [Project.createPostComment, Project.template, Project.postsPath]
  · simp +contextual [Project.getPostComments, Project.template, Project.postsPath]
  · simp +contextual [Project.updatePostComment, Project.template, Project.postsPath]
  · simp +contextual [Project.deletePostComment, Project.template, Project.postsPath]

theorem Messenger.locally_follows (listed : (tool, template) ∈ Messenger.templates) :
    Locally (Follows args template) (tool.plan args) := by
  simp only [Messenger.templates, List.mem_cons, List.not_mem_nil, or_false, Prod.mk.injEq]
    at listed
  rcases listed with ⟨rfl, rfl⟩ | ⟨rfl, rfl⟩ | ⟨rfl, rfl⟩ | ⟨rfl, rfl⟩ | ⟨rfl, rfl⟩ | ⟨rfl, rfl⟩ |
    ⟨rfl, rfl⟩ | ⟨rfl, rfl⟩ | ⟨rfl, rfl⟩ | ⟨rfl, rfl⟩ | ⟨rfl, rfl⟩ | ⟨rfl, rfl⟩
  · simp [Messenger.searchMembers]
  · simp [Messenger.sendDirectMessage, Messenger.template, Messenger.channelsPath]
  · simp [Messenger.getChannels, Messenger.channelList, Messenger.template, Messenger.channelsPath]
  · simp [Messenger.getSimpleChannels, Messenger.channelList, Messenger.template,
      Messenger.channelsPath]
  · simp [Messenger.getChannel, Messenger.template, Messenger.channelsPath]
  · simp +contextual [Messenger.sendChannelMessage, Messenger.template, Messenger.channelsPath]
  · simp only [Messenger.createChannel, locally_bind, Arguments.locally_oneOf?]
    intro kind _
    cases kind <;> simp [Messenger.template, Messenger.channelsPath]
  · simp +contextual [Messenger.joinChannel, Messenger.changeMembership, Messenger.template,
      Messenger.channelsPath]
  · simp +contextual [Messenger.leaveChannel, Messenger.changeMembership, Messenger.template,
      Messenger.channelsPath]
  · simp +contextual [Messenger.createThread, Messenger.template, Messenger.channelsPath]
  · simp +contextual [Messenger.updateMessage, Messenger.template, Messenger.channelsPath]
  · simp +contextual [Messenger.deleteMessage, Messenger.template, Messenger.channelsPath]

theorem Calendar.locally_follows (listed : (tool, template) ∈ Calendar.templates) :
    Locally (Follows args template) (tool.plan args) := by
  simp only [Calendar.templates, List.mem_cons, List.not_mem_nil, or_false, Prod.mk.injEq] at listed
  rcases listed with ⟨rfl, rfl⟩ | ⟨rfl, rfl⟩ | ⟨rfl, rfl⟩ | ⟨rfl, rfl⟩ | ⟨rfl, rfl⟩
  · simp [Calendar.listCalendars]
  · simp +contextual [Calendar.calendarDetail]
  · simp [Calendar.calendarEvents]
  · simp +contextual [Calendar.eventDetail]
  · simp +contextual [Calendar.createEvent]

theorem Drive.locally_follows (listed : (tool, template) ∈ Drive.templates) :
    Locally (Follows args template) (tool.plan args) := by
  simp only [Drive.templates, List.mem_cons, List.not_mem_nil, or_false, Prod.mk.injEq] at listed
  rcases listed with ⟨rfl, rfl⟩ | ⟨rfl, rfl⟩ | ⟨rfl, rfl⟩ | ⟨rfl, rfl⟩ | ⟨rfl, rfl⟩ | ⟨rfl, rfl⟩ |
    ⟨rfl, rfl⟩ | ⟨rfl, rfl⟩ | ⟨rfl, rfl⟩ | ⟨rfl, rfl⟩ | ⟨rfl, rfl⟩ | ⟨rfl, rfl⟩ | ⟨rfl, rfl⟩ |
    ⟨rfl, rfl⟩ | ⟨rfl, rfl⟩ | ⟨rfl, rfl⟩
  · simp [Drive.listDrives]
  · simp +contextual [Drive.driveDetail, Drive.template, Drive.drivePath]
  · simp +contextual [Drive.listFiles, Drive.template, Drive.drivePath]
  · simp +contextual [Drive.driveChanges, Drive.template, Drive.drivePath]
  · simp +contextual [Drive.fileMetadata, Drive.template, Drive.filePath, Drive.drivePath]
  · simp +contextual [Drive.createFolder, Drive.template, Drive.filePath, Drive.drivePath]
  · simp +contextual [Drive.renameFile, Drive.template, Drive.filePath, Drive.drivePath]
  · simp +contextual [Drive.copyFile, Drive.template, Drive.filePath, Drive.drivePath]
  · simp +contextual [Drive.moveFile, Drive.moving, Drive.template, Drive.filePath,
      Drive.drivePath]
  · simp +contextual [Drive.moveToTrash, Drive.moving, Drive.template, Drive.filePath,
      Drive.drivePath]
  · simp +contextual [Drive.deleteFile, Drive.template, Drive.filePath, Drive.drivePath]
  · simp +contextual [Drive.createSharedLink, Drive.template, Drive.linksPath, Drive.filePath,
      Drive.drivePath]
  · simp +contextual [Drive.sharedLinks, Drive.template, Drive.linksPath, Drive.filePath,
      Drive.drivePath]
  · simp +contextual [Drive.sharedLinkDetail, Drive.template, Drive.linksPath, Drive.filePath,
      Drive.drivePath]
  · simp +contextual [Drive.updateSharedLink, Drive.template, Drive.linksPath, Drive.filePath,
      Drive.drivePath]
  · simp +contextual [Drive.deleteSharedLink, Drive.template, Drive.linksPath, Drive.filePath,
      Drive.drivePath]

/-- **Every plan has the segments of its tool's path.** -/
theorem follows_plan {plan : Plan} (listed : (tool, template) ∈ templates)
    (planned : tool.plan args = .ok plan) : Follows args template plan := by
  have follows : Locally (Follows args template) (tool.plan args) := by
    simp only [templates, List.mem_append] at listed
    rcases listed with (((wiki | project) | messenger) | calendar) | drive
    · exact Wiki.locally_follows wiki
    · exact Project.locally_follows project
    · exact Messenger.locally_follows messenger
    · exact Calendar.locally_follows calendar
    · exact Drive.locally_follows drive
  rwa [planned] at follows

end Planned

/-! ## What is asked -/

/-- A segment of a path is what stands for a part: the word itself, or a text without slashes that
the argument can be read back from. -/
def Part.Fits (args : Arguments) : Part → String → Prop
  | .word text, segment => segment = text
  | .slot name, segment => '/' ∉ segment.toList ∧
      ∃ id, args.text name = .ok id ∧
        Text.Percent.decode segment.toList = Text.Utf8.encode id.toList

/-- A path goes where a template says: behind the path of the service come the parts of the
template, in order and each behind a slash. -/
def Addresses (base : Url) (template : Template) (args : Arguments) (path : String) : Prop :=
  ∃ segments, path = stemText (pathText base.path) ++ pathText segments ∧
    List.Forall₂ (Part.Fits args) template.parts segments

/-- A part that nothing but a text in its place can change. -/
def Part.isPlain : Part → Bool
  | .word text => isPlainWord text
  | .slot _ => true

section Addressed

variable {args : Arguments} {parts : List Part} {given written : List String}

/-- The texts in the places of a template are upright. -/
def AllUpright (args : Arguments) (parts : List Part) : Prop :=
  ∀ name id, .slot name ∈ parts → args.text name = .ok id → isUpright id = true

theorem allUpright_cons {part : Part} :
    AllUpright args (part :: parts) ↔ AllUpright args [part] ∧ AllUpright args parts := by
  simp only [AllUpright, List.mem_cons, List.not_mem_nil, or_false]
  grind

/-- With upright texts, all segments are upright. -/
theorem isUpright_of_takes (plain : ∀ part ∈ parts, part.isPlain = true)
    (takes : List.Forall₂ (Part.Takes args) parts given) (upright : AllUpright args parts) :
    ∀ segment ∈ given, isUpright segment = true := by
  induction takes with
  | nil => exact List.forall_mem_nil _
  | @cons part segment parts given taken _ ih =>
      obtain ⟨first, others⟩ := List.forall_mem_cons.mp plain
      obtain ⟨here, there⟩ := allUpright_cons.mp upright
      refine List.forall_mem_cons.mpr ⟨?_, ih others there⟩
      cases part with
      | word text =>
          obtain rfl : segment = text := taken
          exact (Url.isPlainWord_iff.mp first).2.1
      | slot name => exact here name segment List.mem_cons_self taken

/-- Segments fit as they are written. -/
theorem fits_encoded (plain : ∀ part ∈ parts, part.isPlain = true)
    (takes : List.Forall₂ (Part.Takes args) parts given) :
    List.Forall₂ (Part.Fits args) parts (given.map encoded) := by
  induction takes with
  | nil => exact .nil
  | @cons part segment parts given taken _ ih =>
      obtain ⟨first, others⟩ := List.forall_mem_cons.mp plain
      refine .cons ?_ (ih others)
      cases part with
      | word text =>
          obtain rfl : segment = text := taken
          exact (Url.isPlainWord_iff.mp first).2.2
      | slot name => exact ⟨Url.not_mem_encoded segment, segment, taken, Url.decode_encoded segment⟩

/-- What fits has no slashes in it. -/
theorem slashless_of_fits (plain : ∀ part ∈ parts, part.isPlain = true)
    (fits : List.Forall₂ (Part.Fits args) parts written) : Url.Slashless written := by
  induction fits with
  | nil => exact List.forall_mem_nil _
  | @cons part segment parts written fit _ ih =>
      obtain ⟨first, others⟩ := List.forall_mem_cons.mp plain
      refine List.forall_mem_cons.mpr ⟨?_, ih others⟩
      cases part with
      | word text =>
          obtain rfl : segment = text := fit
          rw [← (Url.isPlainWord_iff.mp first).2.2]
          exact Url.not_mem_encoded segment
      | slot name => exact fit.1

/-- Texts that each made the path longer and can be read back are upright. -/
theorem allUpright_of_fits (takes : List.Forall₂ (Part.Takes args) parts given)
    (fits : List.Forall₂ (Part.Fits args) parts written)
    (lengthens : List.Forall₂ Url.Lengthens given written) : AllUpright args parts := by
  induction takes generalizing written with
  | nil => exact nofun
  | @cons part segment parts given taken _ ih =>
      cases fits with
      | cons fit others =>
          cases lengthens with
          | cons longer more =>
              refine allUpright_cons.mpr ⟨?_, ih others more⟩
              intro name id place said
              cases List.mem_singleton.mp place
              obtain ⟨-, read, same, back⟩ := fit
              cases said.symm.trans same
              cases said.symm.trans taken
              exact Url.isUpright_of_decode longer back

end Addressed

/-- A template of which only the texts in its places can go astray. -/
def Template.isPlain (template : Template) : Bool :=
  template.parts.all Part.isPlain

theorem isPlain_templates : ∀ entry ∈ templates, entry.2.isPlain = true := by
  decide +kernel

/-- The path of a call goes where its template says exactly if the texts in it are upright. -/
theorem addresses_iff {args : Arguments} {template : Template} {base : Url} {segments : List String}
    (slashless : Url.Slashless base.path) (plain : template.isPlain = true)
    (takes : List.Forall₂ (Part.Takes args) template.parts segments) :
    Addresses base template args (pathText (Url.extend base.path segments)) ↔
      AllUpright args template.parts := by
  have each := List.all_eq_true.mp plain
  obtain ⟨service, version, below⟩ : isPlainWord template.service = true ∧
      isPlainWord "v1" = true ∧ ∀ part ∈ template.below, part.isPlain = true := by
    simpa only [Template.parts, List.forall_mem_cons, Part.isPlain] using each
  cases takes with
  | cons first takes =>
  cases takes with
  | @cons _ _ _ given second takes =>
  cases first
  cases second
  have words : AllUpright args template.parts ↔ AllUpright args template.below := by
    simp [AllUpright, Template.parts]
  rw [words]
  constructor
  · rintro ⟨written, path, fits⟩
    have free := slashless_of_fits each fits
    cases fits with
    | cons one fits =>
    cases fits with
    | cons other fits =>
    cases one
    cases other
    refine allUpright_of_fits takes fits ?_
    exact Url.lengthens_of_pathText slashless service version free
      (fits.length_eq.symm.trans takes.length_eq) path
  · intro upright
    refine ⟨template.service :: "v1" :: given.map encoded, ?_, ?_⟩
    · exact Url.pathText_extend slashless service version (isUpright_of_takes below takes upright)
    · exact .cons rfl (.cons rfl (fits_encoded below takes))

/-- **A request goes where its tool's path says exactly if the texts in it are upright.** This holds
for every address of a service that is accepted, every tool of the suite and every argument with
which it plans a call. A text is upright if it is neither `.` nor `..` and has no tab and no line
end in it; for any other one, the path of the request has another structure or another text in its
place. -/
theorem addressed_iff_upright {raw : String} {settings : Settings}
    (accepted : Settings.parseBase raw = .ok settings.base) {tool : Tool} (shipped : tool ∈ tools) :
    ∃ template, (tool, template) ∈ templates ∧
      ∀ args plan, tool.plan args = .ok plan →
        (Addresses settings.base template args (plan.call.request settings).path ↔
          ∀ name id, .slot name ∈ template.parts → args.text name = .ok id →
            isUpright id = true) := by
  rw [← map_fst_templates] at shipped
  obtain ⟨⟨tool, template⟩, listed, rfl⟩ := List.mem_map.mp shipped
  refine ⟨template, listed, fun args plan planned => ?_⟩
  exact addresses_iff (Url.slashless_of_parseBase accepted) (isPlain_templates _ listed)
    (follows_plan listed planned)

/-! ### Deleting a shared link -/

/-- A service on this machine, below a path of its own. -/
def nearSettings : Settings where
  base := ⟨"http", "", none, "[::1]", none, ["proxy", ""], none, none⟩
  key := "tenant:key"
  timeout := Settings.defaultTimeout

theorem parseBase_near : Settings.parseBase "http://[::1]/proxy/" = .ok nearSettings.base := by
  decide

/-- The arguments of a shared link. -/
def linkArguments (driveId fileId linkId : String) : Arguments :=
  ⟨[("drive_id", .string driveId), ("file_id", .string fileId), ("link_id", .string linkId)]⟩

theorem mem_of_text_linkArguments {driveId fileId linkId name id : String}
    (said : (linkArguments driveId fileId linkId).text name = .ok id) :
    id ∈ [driveId, fileId, linkId] := by
  unfold Arguments.text Arguments.text? Arguments.value? linkArguments at said
  by_cases drive : name = "drive_id" <;> by_cases file : name = "file_id" <;>
    by_cases link : name = "link_id" <;> simp_all [List.lookup_cons] <;> grind

theorem deleteSharedLink_shipped : Drive.deleteSharedLink ∈ tools := by
  simp [tools, Drive.tools]

/-- A link whose ids have a slash, a percent sign and dots in them is deleted where it is. -/
theorem addressed_iff_upright_deleteSharedLink :
    ∃ template plan, (Drive.deleteSharedLink, template) ∈ templates ∧
      Drive.deleteSharedLink.plan (linkArguments "a/b" "50%" "...") = .ok plan ∧
      (plan.call.request nearSettings).path =
        "/proxy/drive/v1/drives/a%2Fb/files/50%25/shared-links/..." ∧
      Addresses nearSettings.base template (linkArguments "a/b" "50%" "...")
        (plan.call.request nearSettings).path := by
  obtain ⟨template, listed, iff⟩ := addressed_iff_upright parseBase_near deleteSharedLink_shipped
  refine ⟨template, _, listed, rfl, by decide +kernel, (iff _ _ rfl).mpr ?_⟩
  intro name id _ said
  have known := mem_of_text_linkArguments said
  simp only [List.mem_cons, List.not_mem_nil, or_false] at known
  rcases known with rfl | rfl | rfl <;> decide

/-- Not every request goes where its tool's path says: with two dots for a link, what is to be
deleted is all there is below the file. -/
theorem misaddressed_deleteSharedLink :
    Settings.parseBase "http://[::1]/proxy/" = .ok nearSettings.base ∧
    Drive.deleteSharedLink ∈ tools ∧
    ∃ plan, Drive.deleteSharedLink.plan (linkArguments "d" "f" "..") = .ok plan ∧
      (plan.call.request nearSettings).path = "/proxy/drive/v1/drives/d/files/f/shared-links" ∧
      ∀ template, (Drive.deleteSharedLink, template) ∈ templates →
        ¬ Addresses nearSettings.base template (linkArguments "d" "f" "..")
          (plan.call.request nearSettings).path := by
  refine ⟨parseBase_near, deleteSharedLink_shipped, _, rfl, by decide +kernel, ?_⟩
  intro template listed addressed
  have plain := isPlain_templates _ listed
  have takes := @follows_plan (linkArguments "d" "f" "..") _ _ _ listed rfl
  have slashless := Url.slashless_of_parseBase parseBase_near
  have upright := (addresses_iff slashless plain takes).mp addressed
  have every := isUpright_of_takes (List.all_eq_true.mp plain) takes upright ".." (by decide)
  exact absurd every (by decide)

end SuiteBridge.Suite
