import Mathlib.Data.List.Forall2
import SuiteBridge.Proofs.Call.Endings
import SuiteBridge.Proofs.Call.Schema

/-!
# What a tool depends on

A tool reads its arguments by name, each in the way that goes with its shape, and it reads no others
than its schema declares. `Arguments.ReadAlike` says of two calls that one parameter is read alike
in both; if all parameters of a tool are, the two calls come to the same plan (`Suite.plan_congr`).

Arguments that are the same value but for the order of members inside it are read alike
(`Arguments.readAlike_of_agree`), and null is read like nothing at all. So neither what is not
declared nor nulls nor any order makes a difference to a call (`Suite.alike_of_declared`).
-/

namespace SuiteBridge

/-- With distinct names, looking a name up finds whatever stands under it. -/
theorem Members.lookup_eq_some_iff_mem {members : Members}
    (distinct : (members.map Prod.fst).Nodup) {name : String} {value : Json} :
    members.lookup name = some value ↔ (name, value) ∈ members := by
  induction members with
  | nil => simp
  | cons member members ih =>
      obtain ⟨key, first⟩ := member
      rw [List.map_cons, List.nodup_cons] at distinct
      by_cases same : name = key
      · subst same
        have alone : (name, value) ∉ members := fun also =>
          distinct.1 (List.mem_map.mpr ⟨_, also, rfl⟩)
        simp [alone, eq_comm]
      · have other : (name == key) = false := beq_false_of_ne same
        simp [List.lookup_cons, other, ih distinct.2, same]

/-! ## What is declared -/

namespace Descriptor

/-- The schema of an argument, if the descriptor declares it. -/
def property? (descriptor : Descriptor) (name : String) : Option Json :=
  (descriptor.schema.member? "properties").bind (Json.member? name)

/-- Whether a descriptor declares an argument. -/
def declares (descriptor : Descriptor) (name : String) : Bool :=
  (descriptor.property? name).isSome

end Descriptor

namespace Tool

variable {tool : Tool}

theorem property?_eq (name : String) :
    tool.toCapability.descriptor.property? name =
      (tool.parameters.map fun parameter => (parameter.name, parameter.schema)).lookup name :=
  rfl

theorem declares_iff {name : String} :
    tool.toCapability.descriptor.declares name = true ↔
      ∃ parameter ∈ tool.parameters, parameter.name = name := by
  rw [Descriptor.declares, property?_eq, List.lookup_isSome_iff]
  constructor
  · rintro ⟨property, member, same⟩
    obtain ⟨parameter, declared, rfl⟩ := List.mem_map.mp member
    exact ⟨parameter, declared, (beq_iff_eq.mp same).symm⟩
  · rintro ⟨parameter, declared, rfl⟩
    exact ⟨_, List.mem_map_of_mem declared, beq_self_eq_true _⟩

end Tool

/-! ## Values but for the order of their members -/

/-- Two values that differ at most in the order of the members of objects in them. -/
inductive Json.Reordered : Json → Json → Prop
  | refl (value : Json) : Reordered value value
  | array {items others : List Json} :
    List.Forall₂ Reordered items others → Reordered (.array items) (.array others)
  | object {members others : Members} :
    (∀ name, Option.Rel Reordered (members.lookup name) (others.lookup name)) →
      Reordered (.object members) (.object others)

namespace Json.Reordered

variable {value other : Json}

theorem text?_eq (same : Reordered value other) : value.text? = other.text? := by
  cases same <;> rfl

theorem member? (same : Reordered value other) (name : String) :
    Option.Rel Reordered (value.member? name) (other.member? name) := by
  cases same with
  | refl =>
      cases value.member? name with
      | none => exact .none
      | some found => exact .some (.refl found)
  | array items => exact .none
  | object members => exact members name

theorem memberText?_eq (same : Reordered value other) (name : String) :
    (value.member? name).bind text? = (other.member? name).bind text? := by
  have found := same.member? name
  generalize value.member? name = first at found ⊢
  generalize other.member? name = second at found ⊢
  cases found with
  | none => rfl
  | some alike => exact alike.text?_eq

/-- Objects with the same members in any order, as long as no name is repeated. -/
theorem of_perm {members others : Members} (distinct : (members.map Prod.fst).Nodup)
    (permuted : members.Perm others) : Reordered (.object members) (.object others) := by
  have same : ∀ name, members.lookup name = others.lookup name := by
    intro name
    refine Option.ext fun found => ?_
    rw [Members.lookup_eq_some_iff_mem distinct, Members.lookup_eq_some_iff_mem
      ((permuted.map Prod.fst).nodup_iff.mp distinct), permuted.mem_iff]
  refine .object fun name => ?_
  rw [← same name]
  cases members.lookup name with
  | none => exact .none
  | some found => exact .some (.refl found)

end Json.Reordered

/-! ## Reading alike -/

namespace Arguments

/-- An argument is the same in two calls, but for the order of members inside it. Null counts as not
given. -/
def Agree (args other : Arguments) (name : String) : Prop :=
  Option.Rel Json.Reordered (args.value? name) (other.value? name)

/-- A parameter is read alike in two calls, in the way that goes with its shape. -/
def ReadAlike (args other : Arguments) (parameter : Parameter) : Prop :=
  match parameter.shape with
  | .text => args.text? parameter.name = other.text? parameter.name
  | .number => args.number? parameter.name = other.number? parameter.name
  | .flag => args.flag? parameter.name = other.flag? parameter.name
  | .texts => args.list? parameter.name = other.list? parameter.name
  | .choice values => args.oneOf? parameter.name values = other.oneOf? parameter.name values
  | .mentions =>
    parameter.name = "mention_members" →
      ∀ text, Suite.Messenger.withMentions args text = Suite.Messenger.withMentions other text

variable {args other : Arguments} {name description : String} {values : List String}

/-! ### Parameter by parameter -/

@[simp] theorem readAlike_text :
    args.ReadAlike other (.text name description) ↔ args.text? name = other.text? name :=
  Iff.rfl

@[simp] theorem readAlike_mandatory_text :
    args.ReadAlike other (.mandatory (.text name description)) ↔
      args.text? name = other.text? name ∧ args.text name = other.text name := by
  refine ⟨fun same => ⟨same, ?_⟩, And.left⟩
  have read : args.text? name = other.text? name := same
  rw [text, text, read]

@[simp] theorem readAlike_number :
    args.ReadAlike other (.number name description) ↔ args.number? name = other.number? name :=
  Iff.rfl

@[simp] theorem readAlike_page :
    args.ReadAlike other .page ↔ args.number? "page" = other.number? "page" :=
  Iff.rfl

@[simp] theorem readAlike_size {usual : Nat} :
    args.ReadAlike other (.size usual) ↔ args.number? "size" = other.number? "size" :=
  Iff.rfl

@[simp] theorem readAlike_flag :
    args.ReadAlike other (.flag name description) ↔ args.flag? name = other.flag? name :=
  Iff.rfl

@[simp] theorem readAlike_texts :
    args.ReadAlike other (.texts name description) ↔ args.list? name = other.list? name :=
  Iff.rfl

@[simp] theorem readAlike_mandatory_texts :
    args.ReadAlike other (.mandatory (.texts name description)) ↔
      args.list? name = other.list? name ∧ args.list name = other.list name := by
  refine ⟨fun same => ⟨same, ?_⟩, And.left⟩
  have read : args.list? name = other.list? name := same
  rw [list, list, read]

@[simp] theorem readAlike_choice :
    args.ReadAlike other (.choice name description values) ↔
      args.oneOf? name values = other.oneOf? name values :=
  Iff.rfl

@[simp] theorem readAlike_mandatory_choice :
    args.ReadAlike other (.mandatory (.choice name description values)) ↔
      args.oneOf? name values = other.oneOf? name values :=
  Iff.rfl

@[simp] theorem readAlike_mentions :
    args.ReadAlike other ⟨"mention_members", .mentions, description, false⟩ ↔
      ∀ text, Suite.Messenger.withMentions args text = Suite.Messenger.withMentions other text := by
  simp [ReadAlike]

/-! ### What agrees is read alike -/

/-- What a call does with an argument that agrees is to be shown for an argument that is not given
and for two values that are the same but for an order. -/
theorem Agree.cases (agree : args.Agree other name) :
    args.value? name = .none ∧ other.value? name = .none ∨
      ∃ value same, args.value? name = some value ∧ other.value? name = some same ∧
        value.Reordered same := by
  unfold Agree at agree
  generalize args.value? name = first at agree ⊢
  generalize other.value? name = second at agree ⊢
  cases agree with
  | none => exact Or.inl ⟨rfl, rfl⟩
  | some same => exact Or.inr ⟨_, _, rfl, rfl, same⟩

theorem Agree.text? (agree : args.Agree other name) : args.text? name = other.text? name := by
  unfold Arguments.text?
  rcases agree.cases with ⟨absent, missing⟩ | ⟨value, same, given, also, alike⟩
  · rw [absent, missing]
  · rw [given, also]
    cases alike <;> rfl

theorem Agree.number? (agree : args.Agree other name) :
    args.number? name = other.number? name := by
  unfold Arguments.number?
  rcases agree.cases with ⟨absent, missing⟩ | ⟨value, same, given, also, alike⟩
  · rw [absent, missing]
  · rw [given, also]
    cases alike <;> rfl

theorem Agree.flag? (agree : args.Agree other name) : args.flag? name = other.flag? name := by
  unfold Arguments.flag?
  rcases agree.cases with ⟨absent, missing⟩ | ⟨value, same, given, also, alike⟩
  · rw [absent, missing]
  · rw [given, also]
    cases alike <;> rfl

theorem Agree.oneOf? (agree : args.Agree other name) :
    args.oneOf? name values = other.oneOf? name values := by
  unfold Arguments.oneOf?
  rw [agree.text?]

theorem entryOfItem_congr {item same : Json} (alike : item.Reordered same) :
    entryOfItem name item = entryOfItem name same := by
  cases alike <;> rfl

theorem entriesOfItems_congr {items others : List Json}
    (alike : List.Forall₂ Json.Reordered items others) :
    entriesOfItems name items = entriesOfItems name others := by
  induction alike with
  | nil => rfl
  | cons first _ ih => rw [entriesOfItems, entriesOfItems, entryOfItem_congr first, ih]

theorem Agree.list? (agree : args.Agree other name) : args.list? name = other.list? name := by
  unfold Arguments.list?
  rcases agree.cases with ⟨absent, missing⟩ | ⟨value, same, given, also, alike⟩
  · rw [absent, missing]
  · rw [given, also]
    cases alike with
    | refl | object => rfl
    | array items => simp only [entriesOfItems_congr items]

end Arguments

namespace Suite

open Arguments (Agree)

variable {args other : Arguments}

theorem Messenger.mention?_congr {member same : Json} (alike : member.Reordered same) :
    Messenger.mention? member = Messenger.mention? same := by
  simp only [Messenger.mention?, alike.memberText?_eq]

theorem Messenger.mentions_congr {members others : List Json}
    (alike : List.Forall₂ Json.Reordered members others) :
    members.mapM Messenger.mention? = others.mapM Messenger.mention? := by
  induction alike with
  | nil => rfl
  | cons first _ ih => rw [List.mapM_cons, List.mapM_cons, Messenger.mention?_congr first, ih]

theorem Messenger.withMentions_congr (agree : args.Agree other "mention_members") (text : String) :
    Messenger.withMentions args text = Messenger.withMentions other text := by
  unfold Messenger.withMentions
  rcases agree.cases with ⟨absent, missing⟩ | ⟨value, same, given, also, alike⟩
  · rw [absent, missing]
  · rw [given, also]
    cases alike with
    | refl | object => rfl
    | array members => simp only [Messenger.mentions_congr members]

end Suite

/-- **An argument that agrees is read alike, whatever its shape.** -/
theorem Arguments.readAlike_of_agree {args other : Arguments} {parameter : Parameter}
    (agree : args.Agree other parameter.name) : args.ReadAlike other parameter := by
  obtain ⟨name, shape, description, required⟩ := parameter
  cases shape with
  | text => exact agree.text?
  | number => exact agree.number?
  | flag => exact agree.flag?
  | texts => exact agree.list?
  | choice values => exact agree.oneOf?
  | mentions =>
      rintro rfl text
      exact Suite.Messenger.withMentions_congr agree text

/-! ## The tools -/

namespace Suite

variable {tool : Tool} {args other : Arguments}

theorem Wiki.plan_congr (shipped : tool ∈ Wiki.tools) :
    (∀ parameter ∈ tool.parameters, args.ReadAlike other parameter) →
      tool.plan args = tool.plan other := by
  simp only [Wiki.tools, List.mem_cons, List.not_mem_nil, or_false] at shipped
  rcases shipped with rfl | rfl | rfl | rfl | rfl
  · simp +contextual [Wiki.listProjects]
  · simp +contextual [Wiki.listPages]
  · simp +contextual [Wiki.getPage]
  · simp +contextual [Wiki.createPage, Wiki.referrers]
  · simp +contextual [Wiki.updatePage, Wiki.referrers]

theorem Project.plan_congr (shipped : tool ∈ Project.tools) :
    (∀ parameter ∈ tool.parameters, args.ReadAlike other parameter) →
      tool.plan args = tool.plan other := by
  simp only [Project.tools, List.mem_cons, List.not_mem_nil, or_false] at shipped
  rcases shipped with rfl | rfl | rfl | rfl | rfl | rfl | rfl | rfl | rfl | rfl | rfl
  · simp +contextual [Project.listProjects]
  · simp +contextual [Project.listPosts]
  · simp +contextual [Project.getPost, Project.taskParameters]
  · simp +contextual [Project.createPost, Project.writtenParameters, Project.writtenPost]
  · simp +contextual [Project.updatePost, Project.writtenParameters, Project.writtenPost]
  · simp +contextual [Project.setPostWorkflow, Project.taskParameters]
  · simp +contextual [Project.setPostDone, Project.taskParameters]
  · simp +contextual [Project.createPostComment, Project.taskParameters, Project.writtenComment]
  · simp +contextual [Project.getPostComments, Project.taskParameters]
  · simp +contextual [Project.updatePostComment, Project.taskParameters, Project.writtenComment]
  · simp +contextual [Project.deletePostComment, Project.taskParameters]

theorem Messenger.plan_congr (shipped : tool ∈ Messenger.tools) :
    (∀ parameter ∈ tool.parameters, args.ReadAlike other parameter) →
      tool.plan args = tool.plan other := by
  simp only [Messenger.tools, List.mem_cons, List.not_mem_nil, or_false] at shipped
  rcases shipped with rfl | rfl | rfl | rfl | rfl | rfl | rfl | rfl | rfl | rfl | rfl | rfl
  · simp +contextual [Messenger.searchMembers]
  · simp +contextual [Messenger.sendDirectMessage]
  · simp +contextual [Messenger.getChannels, Messenger.channelListParameters, Messenger.channelList]
  · simp +contextual [Messenger.getSimpleChannels, Messenger.channelListParameters,
      Messenger.channelList]
  · simp +contextual [Messenger.getChannel, Messenger.channelParameter]
  · simp +contextual [Messenger.sendChannelMessage, Messenger.channelParameter]
  · simp +contextual [Messenger.createChannel]
  · simp +contextual [Messenger.joinChannel, Messenger.membershipParameters,
      Messenger.channelParameter, Messenger.changeMembership]
  · simp +contextual [Messenger.leaveChannel, Messenger.membershipParameters,
      Messenger.channelParameter, Messenger.changeMembership]
  · simp +contextual [Messenger.createThread, Messenger.channelParameter]
  · simp +contextual [Messenger.updateMessage, Messenger.channelParameter]
  · simp +contextual [Messenger.deleteMessage, Messenger.channelParameter]

theorem Calendar.plan_congr (shipped : tool ∈ Calendar.tools) :
    (∀ parameter ∈ tool.parameters, args.ReadAlike other parameter) →
      tool.plan args = tool.plan other := by
  simp only [Calendar.tools, List.mem_cons, List.not_mem_nil, or_false] at shipped
  rcases shipped with rfl | rfl | rfl | rfl | rfl
  · simp [Calendar.listCalendars]
  · simp +contextual [Calendar.calendarDetail]
  · simp +contextual [Calendar.calendarEvents]
  · simp +contextual [Calendar.eventDetail]
  · simp +contextual [Calendar.createEvent]

theorem Drive.plan_congr (shipped : tool ∈ Drive.tools) :
    (∀ parameter ∈ tool.parameters, args.ReadAlike other parameter) →
      tool.plan args = tool.plan other := by
  simp only [Drive.tools, List.mem_cons, List.not_mem_nil, or_false] at shipped
  rcases shipped with rfl | rfl | rfl | rfl | rfl | rfl | rfl | rfl | rfl | rfl | rfl | rfl | rfl |
    rfl | rfl | rfl
  · simp +contextual [Drive.listDrives]
  · simp +contextual [Drive.driveDetail, Drive.driveParameter]
  · simp +contextual [Drive.listFiles, Drive.driveParameter]
  · simp +contextual [Drive.driveChanges, Drive.driveParameter]
  · simp +contextual [Drive.fileMetadata, Drive.fileParameters, Drive.driveParameter]
  · simp +contextual [Drive.createFolder, Drive.driveParameter]
  · simp +contextual [Drive.renameFile, Drive.fileParameters, Drive.driveParameter]
  · simp +contextual [Drive.copyFile, Drive.fileParameters, Drive.driveParameter]
  · simp +contextual [Drive.moveFile, Drive.fileParameters, Drive.driveParameter]
  · simp +contextual [Drive.moveToTrash, Drive.fileParameters, Drive.driveParameter]
  · simp +contextual [Drive.deleteFile, Drive.fileParameters, Drive.driveParameter]
  · simp +contextual [Drive.createSharedLink, Drive.fileParameters, Drive.driveParameter]
  · simp +contextual [Drive.sharedLinks, Drive.fileParameters, Drive.driveParameter]
  · simp +contextual [Drive.sharedLinkDetail, Drive.linkParameters, Drive.driveParameter]
  · simp +contextual [Drive.updateSharedLink, Drive.linkParameters, Drive.driveParameter]
  · simp +contextual [Drive.deleteSharedLink, Drive.linkParameters, Drive.driveParameter]

/-- **A tool reads nothing but its parameters.** Two calls in which each of them is read alike come
to the same plan, or fail alike. -/
theorem plan_congr (shipped : tool ∈ tools)
    (alike : ∀ parameter ∈ tool.parameters, args.ReadAlike other parameter) :
    tool.plan args = tool.plan other := by
  simp only [tools, List.mem_append] at shipped
  rcases shipped with (((wiki | project) | messenger) | calendar) | drive
  · exact Wiki.plan_congr wiki alike
  · exact Project.plan_congr project alike
  · exact Messenger.plan_congr messenger alike
  · exact Calendar.plan_congr calendar alike
  · exact Drive.plan_congr drive alike

/-- **A call depends only on what its schema declares.** Two calls that agree on the declared
arguments make the same request, if any, and end alike, whatever else they are given, whichever of
the arguments that are not given are null, and in whichever order the others come. -/
theorem alike_of_declared {capability : Capability} (shipped : capability ∈ catalogue)
    (agree : ∀ name, capability.descriptor.declares name = true → args.Agree other name)
    (world : World) :
    (capability.run args).request? world.settings =
      (capability.run other).request? world.settings ∧
    ∃ result, (capability.run args).ending? world = some (.returned result) ∧
      (capability.run other).ending? world = some (.returned result) := by
  have same : capability.run args = capability.run other := by
    obtain ⟨tool, member, rfl⟩ := List.mem_map.mp shipped
    have planned : tool.plan args = tool.plan other :=
      plan_congr member fun parameter declared =>
        Arguments.readAlike_of_agree (agree _ (Tool.declares_iff.mpr ⟨parameter, declared, rfl⟩))
    simp only [Tool.toCapability, planned]
  rw [← same]
  refine ⟨rfl, ?_⟩
  rcases run_cases shipped args with ⟨fault, -, ended⟩ | ⟨plan, -, asked⟩
  · rw [ended]
    exact ⟨.error fault, rfl, rfl⟩
  · rw [asked]
    exact ⟨_, rfl, rfl⟩

/-- The members of somebody to mention. -/
def mentioned : Members :=
  [("id", .string "1"), ("name", .string "Kim"), ("organizationId", .string "2")]

/-- A message that mentions somebody. -/
def mentioning : Arguments := ⟨[
  ("channel_id", .string "c"), ("text", .string "hello"),
  ("mention_members", .array [.object mentioned])]⟩

/-- The same message in another order, with a null and with a member that no schema mentions. -/
def mentioningAgain : Arguments := ⟨[
  ("text", .string "hello"), ("mention_members", .array [.object mentioned.reverse]),
  ("title", .string "x"), ("page", .null), ("channel_id", .string "c")]⟩

/-- The two messages are one, also when it is not granted. -/
theorem alike_of_declared_mentioning :
    (∃ request, (Messenger.sendChannelMessage.toCapability.run mentioning).request?
        (worldAnswering 200 refusedText).settings = some request ∧
      (Messenger.sendChannelMessage.toCapability.run mentioningAgain).request?
        (worldAnswering 200 refusedText).settings = some request) ∧
    (Messenger.sendChannelMessage.toCapability.run mentioningAgain).ending?
        (worldAnswering 200 refusedText) =
      (Messenger.sendChannelMessage.toCapability.run mentioning).ending?
        (worldAnswering 200 refusedText) := by
  have shipped : Messenger.sendChannelMessage.toCapability ∈ catalogue :=
    List.mem_map_of_mem (by simp [tools, Messenger.tools])
  have agree : ∀ name, Messenger.sendChannelMessage.toCapability.descriptor.declares name = true →
      mentioning.Agree mentioningAgain name := by
    intro name declared
    obtain ⟨parameter, member, rfl⟩ := Tool.declares_iff.mp declared
    simp only [Messenger.sendChannelMessage, List.mem_cons, List.not_mem_nil, or_false] at member
    rcases member with rfl | rfl | rfl
    · exact .some (.refl (.string "c"))
    · exact .some (.refl (.string "hello"))
    · exact .some (.array (.cons (.of_perm (by decide) (List.reverse_perm _).symm) .nil))
  obtain ⟨requested, result, ended, again⟩ :=
    alike_of_declared shipped agree (worldAnswering 200 refusedText)
  exact ⟨⟨_, rfl, requested.symm⟩, again.trans ended.symm⟩

end Suite

end SuiteBridge
