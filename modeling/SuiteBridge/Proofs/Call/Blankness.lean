import SuiteBridge.Proofs.Call.Required

/-!
# Blank texts for arguments

A blank text for an argument that may be left out is read like nothing at all where a text, a
number, a truth value or one of several texts is asked for (`Arguments.readAlike_insert`). A list is
read as an empty one, which comes to the same in the tools of which only the entries count
(`Suite.plan_loosely`). So a blank text makes no difference to a call (`Suite.blank_unsaid`), except
for lists that are sent even when they are empty and for members to mention, which have to be a list
(`Suite.blank_said`).
-/

namespace SuiteBridge

/-! ## Giving a blank text and leaving an argument out -/

namespace Arguments

/-- The arguments without one of them. -/
def without (name : String) (args : Arguments) : Arguments :=
  ⟨args.members.filter fun member => member.1 != name⟩

theorem lookup_insert (name : String) (value : Json) (members : Members) (other : String) :
    (Members.insert name value members).lookup other =
      if other = name then some value else members.lookup other := by
  induction members with
  | nil => grind [Members.insert]
  | cons member members ih => grind [Members.insert]

theorem lookup_without (name : String) (members : Members) (other : String) :
    (members.filter fun member => member.1 != name).lookup other =
      if other = name then Option.none else members.lookup other := by
  induction members with
  | nil => simp
  | cons member members ih => grind

variable {args other : Arguments} {name blank : String}

theorem value?_insert {value : Json} (given : value.isNull = false) :
    (args.insert name value).value? name = some value := by
  simp [value?, insert, lookup_insert, given]

theorem value?_insert_self (text : String) :
    (args.insert name (.string text)).value? name = some (.string text) :=
  value?_insert rfl

theorem value?_insert_of_ne {value : Json} {another : String} (different : another ≠ name) :
    (args.insert name value).value? another = args.value? another := by
  simp [value?, insert, lookup_insert, different]

theorem value?_without_self : (args.without name).value? name = Option.none := by
  simp [value?, without, lookup_without]

theorem value?_without_of_ne {another : String} (different : another ≠ name) :
    (args.without name).value? another = args.value? another := by
  simp [value?, without, lookup_without, different]

/-- The two calls agree on every other argument. -/
theorem agree_elsewhere {value : Json} {another : String} (different : another ≠ name) :
    (args.insert name value).Agree (args.without name) another := by
  unfold Agree
  rw [value?_insert_of_ne different, value?_without_of_ne different]
  cases args.value? another with
  | none => exact .none
  | some found => exact .some (.refl found)

section Blank

variable (white : Text.isBlank blank = true)
include white

theorem isUnsaid_insert : (args.insert name (.string blank)).IsUnsaid name :=
  Or.inr ⟨blank, value?_insert_self blank, white⟩

omit white in
theorem isUnsaid_without : (args.without name).IsUnsaid name :=
  Or.inl value?_without_self

theorem text?_insert : (args.insert name (.string blank)).text? name = .ok Option.none :=
  text?_eq_none_iff.mpr (isUnsaid_insert white)

theorem oneOf?_insert (allowed : List String) :
    (args.insert name (.string blank)).oneOf? name allowed = .ok Option.none :=
  oneOf?_eq_none_iff.mpr (isUnsaid_insert white)

theorem number?_insert : (args.insert name (.string blank)).number? name = .ok Option.none := by
  simp [number?, value?_insert_self, white]

theorem flag?_insert : (args.insert name (.string blank)).flag? name = .ok Option.none := by
  have nothing : Text.lower (Text.trim blank) = "" := by
    rw [Text.trim_eq_empty_iff.mpr white]
    rfl
  simp [flag?, value?_insert_self, nothing]

theorem list?_insert : (args.insert name (.string blank)).list? name = .ok (some []) := by
  have nothing : entriesOfText blank = [] :=
    entriesOfText_eq_nil_iff.mpr fun part => Text.isBlank_of_mem_splitAt white
  simp [list?, value?_insert_self, nothing]

/-- A blank text is read like nothing at all where a text, a number, a truth value or one of several
texts is asked for. -/
theorem readAlike_insert {parameter : Parameter} (list : parameter.shape ≠ .texts)
    (mentions : parameter.shape ≠ .mentions) :
    (args.insert parameter.name (.string blank)).ReadAlike (args.without parameter.name)
      parameter := by
  unfold ReadAlike
  cases shape : parameter.shape with
  | text => exact (text?_insert white).trans (text?_eq_none_iff.mpr isUnsaid_without).symm
  | number =>
      have left : (args.without parameter.name).number? parameter.name = .ok Option.none := by
        simp [number?, value?_without_self]
      exact (number?_insert white).trans left.symm
  | flag =>
      have left : (args.without parameter.name).flag? parameter.name = .ok Option.none := by
        simp [flag?, value?_without_self]
      exact (flag?_insert white).trans left.symm
  | choice values =>
      exact (oneOf?_insert white values).trans (oneOf?_eq_none_iff.mpr isUnsaid_without).symm
  | texts => exact absurd shape list
  | mentions => exact absurd shape mentions

end Blank

/-! ## Lists that may as well be empty -/

/-- The entries of a list of texts; there are none when it is left out. -/
def entries? (args : Arguments) (name : String) : Except Fault (List String) :=
  (args.list? name).map fun entries => entries.getD []

theorem entries?_insert (white : Text.isBlank blank = true) :
    (args.insert name (.string blank)).entries? name = (args.without name).entries? name := by
  have left : (args.without name).list? name = .ok Option.none :=
    list?_eq_none_iff.mpr value?_without_self
  rw [entries?, entries?, list?_insert white, left]
  rfl

/-- What goes on alike without a list and with an empty one depends only on the entries. -/
theorem bind_list?_congr {β : Type} {next last : Option (List String) → Except Fault β}
    (same : args.entries? name = other.entries? name)
    (alike : ∀ entries, next (some entries) = last (some entries))
    (empty : next Option.none = next (some [])) (also : last Option.none = last (some [])) :
    (args.list? name >>= next) = (other.list? name >>= last) := by
  have depends : ∀ {args : Arguments} {next : Option (List String) → Except Fault β},
      next Option.none = next (some []) → (args.list? name >>= next) =
        (args.entries? name >>= fun entries => next (some entries)) := by
    intro args next empty
    unfold entries?
    cases args.list? name with
    | error fault => rfl
    | ok entries =>
        cases entries with
        | none => exact empty
        | some entries => rfl
  rw [depends empty, depends also, same]
  exact bind_congr alike

/-- A parameter is read alike in two calls, where a list that may be left out counts as empty when
it is. -/
def ReadLoosely (args other : Arguments) (parameter : Parameter) : Prop :=
  if parameter.shape = .texts ∧ parameter.required = false then
    args.entries? parameter.name = other.entries? parameter.name
  else args.ReadAlike other parameter

/-- What is read alike is read alike loosely. -/
theorem ReadAlike.loosely {parameter : Parameter} (alike : args.ReadAlike other parameter) :
    args.ReadLoosely other parameter := by
  unfold ReadLoosely
  split
  · rename_i list
    unfold ReadAlike at alike
    rw [list.1] at alike
    unfold entries?
    rw [alike]
  · exact alike

section Loosely

variable {description : String} {values : List String}

theorem readLoosely_of_ne {parameter : Parameter} (list : parameter.shape ≠ .texts) :
    args.ReadLoosely other parameter ↔ args.ReadAlike other parameter := by
  simp [ReadLoosely, list]

@[simp] theorem readLoosely_mandatory {parameter : Parameter} :
    args.ReadLoosely other parameter.mandatory ↔ args.ReadAlike other parameter.mandatory := by
  simp [ReadLoosely, Parameter.mandatory]

@[simp] theorem readLoosely_texts :
    args.ReadLoosely other (.texts name description) ↔
      args.entries? name = other.entries? name := by
  simp [ReadLoosely, Parameter.texts]

@[simp] theorem readLoosely_text :
    args.ReadLoosely other (.text name description) ↔ args.text? name = other.text? name :=
  readLoosely_of_ne nofun

@[simp] theorem readLoosely_number :
    args.ReadLoosely other (.number name description) ↔ args.number? name = other.number? name :=
  readLoosely_of_ne nofun

@[simp] theorem readLoosely_page :
    args.ReadLoosely other .page ↔ args.number? "page" = other.number? "page" :=
  readLoosely_of_ne nofun

@[simp] theorem readLoosely_size {usual : Nat} :
    args.ReadLoosely other (.size usual) ↔ args.number? "size" = other.number? "size" :=
  readLoosely_of_ne nofun

@[simp] theorem readLoosely_flag :
    args.ReadLoosely other (.flag name description) ↔ args.flag? name = other.flag? name :=
  readLoosely_of_ne nofun

@[simp] theorem readLoosely_choice :
    args.ReadLoosely other (.choice name description values) ↔
      args.oneOf? name values = other.oneOf? name values :=
  readLoosely_of_ne nofun

end Loosely

end Arguments

namespace Suite

open Arguments (bind_list?_congr)

/-- The tools with lists that may be left out and of which only the entries count. -/
def lenient : List Tool := [
  Project.listPosts, Project.createPost, Project.updatePost, Messenger.searchMembers,
  Calendar.calendarEvents, Calendar.createEvent, Drive.listFiles]

section Lenient

variable {args other : Arguments}

theorem Messenger.searchMembers_congr
    (alike : ∀ parameter ∈ searchMembers.parameters, args.ReadLoosely other parameter) :
    searchMembers.plan args = searchMembers.plan other := by
  simp only [searchMembers, List.forall_mem_cons, Arguments.readLoosely_text,
    Arguments.readLoosely_texts, Arguments.readLoosely_page, Arguments.readLoosely_size] at alike
  obtain ⟨name, email, code, provider, page, size, -⟩ := alike
  simp only [searchMembers, name, code, provider, page, size]
  exact bind_list?_congr email (fun _ => rfl) rfl rfl

theorem Project.listPosts_congr
    (alike : ∀ parameter ∈ listPosts.parameters, args.ReadLoosely other parameter) :
    listPosts.plan args = listPosts.plan other := by
  simp only [listPosts, List.forall_mem_cons, Arguments.readLoosely_text,
    Arguments.readLoosely_texts, Arguments.readLoosely_page, Arguments.readLoosely_size,
    Arguments.readLoosely_number, Arguments.readLoosely_mandatory,
    Arguments.readAlike_mandatory_text] at alike
  obtain ⟨⟨-, project⟩, page, size, sender, recipients, cc, tags, parent, number, classes,
    workflows, milestones, subjects, created, updated, due, order, -⟩ := alike
  simp only [listPosts, project, page, size, parent, number, subjects, created, updated, due, order]
  refine bind_congr fun _ => bind_congr fun _ => ?_
  refine bind_list?_congr sender (fun _ => ?_) rfl rfl
  refine bind_list?_congr recipients (fun _ => ?_) rfl rfl
  refine bind_list?_congr cc (fun _ => ?_) rfl rfl
  refine bind_list?_congr tags (fun _ => ?_) rfl rfl
  refine bind_list?_congr classes (fun _ => ?_) rfl rfl
  refine bind_list?_congr workflows (fun _ => ?_) rfl rfl
  exact bind_list?_congr milestones (fun _ => rfl) rfl rfl

theorem Project.writtenPost_congr
    (alike : ∀ parameter ∈ writtenParameters, args.ReadLoosely other parameter) :
    args.text "project_id" = other.text "project_id" ∧ writtenPost args = writtenPost other := by
  simp only [writtenParameters, List.forall_mem_cons, Arguments.readLoosely_text,
    Arguments.readLoosely_texts, Arguments.readLoosely_choice, Arguments.readLoosely_mandatory,
    Arguments.readAlike_mandatory_text, Arguments.readAlike_mandatory_texts] at alike
  obtain ⟨⟨-, project⟩, ⟨-, subject⟩, ⟨-, body⟩, mimeType, ⟨-, recipients⟩, cc, due, milestone,
    tags, priority, -⟩ := alike
  refine ⟨project, ?_⟩
  simp only [writtenPost, subject, body, mimeType, recipients, due, milestone, priority]
  refine bind_congr fun _ => bind_congr fun _ => bind_congr fun _ => ?_
  refine bind_list?_congr cc (fun _ => ?_) rfl rfl
  refine bind_congr fun _ => bind_congr fun _ => bind_congr fun _ => ?_
  exact bind_list?_congr tags (fun _ => rfl) rfl rfl

theorem Project.createPost_congr
    (alike : ∀ parameter ∈ createPost.parameters, args.ReadLoosely other parameter) :
    createPost.plan args = createPost.plan other := by
  obtain ⟨written, more⟩ := List.forall_mem_append.mp alike
  obtain ⟨project, post⟩ := writtenPost_congr written
  have parent : args.text? "parent_post_id" = other.text? "parent_post_id" := by
    simpa using more
  simp only [createPost, project, post, parent]

theorem Project.updatePost_congr
    (alike : ∀ parameter ∈ updatePost.parameters, args.ReadLoosely other parameter) :
    updatePost.plan args = updatePost.plan other := by
  obtain ⟨written, more⟩ := List.forall_mem_append.mp alike
  obtain ⟨project, post⟩ := writtenPost_congr written
  obtain ⟨⟨-, task⟩, version⟩ : (args.text? "post_id" = other.text? "post_id" ∧
      args.text "post_id" = other.text "post_id") ∧
      args.number? "version" = other.number? "version" := by
    simpa using more
  simp only [updatePost, project, post, task, version]

theorem Calendar.calendarEvents_congr
    (alike : ∀ parameter ∈ calendarEvents.parameters, args.ReadLoosely other parameter) :
    calendarEvents.plan args = calendarEvents.plan other := by
  simp only [calendarEvents, List.forall_mem_cons, Arguments.readLoosely_texts,
    Arguments.readLoosely_choice, Arguments.readLoosely_mandatory,
    Arguments.readAlike_mandatory_text] at alike
  obtain ⟨⟨-, least⟩, ⟨-, most⟩, calendars, postType, category, -⟩ := alike
  simp only [calendarEvents, least, most, postType, category]
  refine bind_congr fun _ => bind_congr fun _ => ?_
  exact bind_list?_congr calendars (fun _ => rfl) rfl rfl

theorem Calendar.createEvent_congr
    (alike : ∀ parameter ∈ createEvent.parameters, args.ReadLoosely other parameter) :
    createEvent.plan args = createEvent.plan other := by
  simp only [createEvent, List.forall_mem_cons, Arguments.readLoosely_text,
    Arguments.readLoosely_texts, Arguments.readLoosely_flag, Arguments.readLoosely_mandatory,
    Arguments.readAlike_mandatory_text, Arguments.readAlike_mandatory_texts] at alike
  obtain ⟨⟨-, calendar⟩, ⟨-, subject⟩, ⟨-, content⟩, ⟨-, started⟩, ⟨-, ended⟩, ⟨-, recipients⟩, cc,
    wholeDay, location, -⟩ := alike
  simp only [createEvent, calendar, subject, content, started, ended, recipients, wholeDay,
    location]
  refine bind_congr fun _ => bind_congr fun _ => bind_congr fun _ => bind_congr fun _ =>
    bind_congr fun _ => bind_congr fun _ => ?_
  exact bind_list?_congr cc (fun _ => rfl) rfl rfl

theorem Drive.listFiles_congr
    (alike : ∀ parameter ∈ listFiles.parameters, args.ReadLoosely other parameter) :
    listFiles.plan args = listFiles.plan other := by
  simp only [listFiles, driveParameter, List.forall_mem_cons, Arguments.readLoosely_text,
    Arguments.readLoosely_texts, Arguments.readLoosely_choice, Arguments.readLoosely_page,
    Arguments.readLoosely_size, Arguments.readLoosely_mandatory,
    Arguments.readAlike_mandatory_text] at alike
  obtain ⟨⟨-, drive⟩, parent, kind, subTypes, page, size, -⟩ := alike
  simp only [listFiles, drive, parent, kind, page, size]
  refine bind_congr fun _ => ?_
  exact bind_list?_congr subTypes (fun _ => rfl) rfl rfl

/-- **In these tools a list that is left out and an empty one come to the same.** -/
theorem plan_loosely {tool : Tool} (lists : tool ∈ lenient)
    (alike : ∀ parameter ∈ tool.parameters, args.ReadLoosely other parameter) :
    tool.plan args = tool.plan other := by
  simp only [lenient, List.mem_cons, List.not_mem_nil, or_false] at lists
  rcases lists with rfl | rfl | rfl | rfl | rfl | rfl | rfl
  · exact Project.listPosts_congr alike
  · exact Project.createPost_congr alike
  · exact Project.updatePost_congr alike
  · exact Messenger.searchMembers_congr alike
  · exact Calendar.calendarEvents_congr alike
  · exact Calendar.createEvent_congr alike
  · exact Drive.listFiles_congr alike

end Lenient

/-! ## What becomes of blank texts -/

/-- The lists that may be left out and that are sent along even when they are empty, each with its
tool. -/
def sentLists : List (String × String) := [
  ("dooray_wiki_create_page", "referrer_member_ids"),
  ("dooray_wiki_update_page", "referrer_member_ids"),
  ("dooray_messenger_create_channel", "member_ids")]

/-- The argument that has to be a list of members to mention. -/
def mentionList : String × String :=
  ("dooray_messenger_send_channel_message", "mention_members")

theorem lenient_of_shape : ∀ tool ∈ tools, ∀ parameter ∈ tool.parameters,
    parameter.shape = .texts → parameter.required = false →
      (tool.name, parameter.name) ∉ sentLists → tool.name ∈ lenient.map Tool.name := by
  decide +kernel

theorem mentionList_iff_shape : ∀ tool ∈ tools, ∀ parameter ∈ tool.parameters,
    (tool.name, parameter.name) = mentionList ↔ parameter.shape = .mentions := by
  decide +kernel

section Blank

variable {tool : Tool} {parameter : Parameter} {blank : String}

theorem mem_lenient_of_name (shipped : tool ∈ tools) (named : tool.name ∈ lenient.map Tool.name) :
    tool ∈ lenient := by
  obtain ⟨other, lists, same⟩ := List.mem_map.mp named
  have also : other ∈ tools := by
    have sub : lenient ⊆ tools := by
      simp [lenient, tools, Project.tools, Messenger.tools, Calendar.tools, Drive.tools]
    exact sub lists
  rwa [List.inj_on_of_nodup_map nodup_names shipped also same.symm]

/-- A blank text for a parameter comes to the same plan as leaving the parameter out. -/
theorem plan_insert (shipped : tool ∈ tools) (declared : parameter ∈ tool.parameters)
    (optional : parameter.required = false)
    (unsent : (tool.name, parameter.name) ∉ sentLists)
    (other : (tool.name, parameter.name) ≠ mentionList) (white : Text.isBlank blank = true)
    (args : Arguments) :
    tool.plan (args.insert parameter.name (.string blank)) =
      tool.plan (args.without parameter.name) := by
  have elsewhere : ∀ another ∈ tool.parameters, another ≠ parameter →
      (args.insert parameter.name (.string blank)).ReadAlike (args.without parameter.name)
        another := by
    intro another also different
    refine Arguments.readAlike_of_agree (Arguments.agree_elsewhere ?_)
    intro same
    exact different (List.inj_on_of_nodup_map (nodup_parameters tool shipped) also declared same)
  by_cases list : parameter.shape = .texts
  · have lists : tool ∈ lenient :=
      mem_lenient_of_name shipped
        (lenient_of_shape tool shipped parameter declared list optional unsent)
    refine plan_loosely lists ?_
    intro another also
    by_cases same : another = parameter
    · subst same
      simp [Arguments.ReadLoosely, list, optional, Arguments.entries?_insert white]
    · exact (elsewhere another also same).loosely
  · have mentions : parameter.shape ≠ .mentions :=
      mt (mentionList_iff_shape tool shipped parameter declared).mpr other
    refine plan_congr shipped ?_
    intro another also
    by_cases same : another = parameter
    · subst same
      exact Arguments.readAlike_insert white list mentions
    · exact elsewhere another also same

/-- Members to mention that are a blank text are refused, unless the message itself is. -/
theorem Messenger.sendChannelMessage_insert (args : Arguments) (text : String) :
    (∃ fault, sendChannelMessage.plan (args.insert "mention_members" (.string text)) =
        .error fault ∧
      sendChannelMessage.plan (args.without "mention_members") = .error fault) ∨
    ∃ plan, sendChannelMessage.plan (args.insert "mention_members" (.string text)) =
        .error invalidMentions ∧
      sendChannelMessage.plan (args.without "mention_members") = .ok plan := by
  have alike : ∀ {name : String}, name ≠ "mention_members" →
      (args.insert "mention_members" (.string text)).text name =
        (args.without "mention_members").text name := by
    intro name different
    unfold Arguments.text
    rw [(Arguments.agree_elsewhere different).text?]
  have refused : ∀ message, withMentions (args.insert "mention_members" (.string text)) message =
      .error invalidMentions := by
    intro message
    simp [withMentions, Arguments.value?_insert_self]
  have bare : ∀ message, withMentions (args.without "mention_members") message = .ok message := by
    intro message
    simp [withMentions, Arguments.value?_without_self]
  simp only [sendChannelMessage, alike (show "channel_id" ≠ "mention_members" by decide),
    alike (show "text" ≠ "mention_members" by decide), refused, bare]
  cases (args.without "mention_members").text "channel_id" with
  | error fault => exact Or.inl ⟨fault, rfl, rfl⟩
  | ok channel =>
      cases (args.without "mention_members").text "text" with
      | error fault => exact Or.inl ⟨fault, rfl, rfl⟩
      | ok message => exact Or.inr ⟨_, rfl, rfl⟩

/-- With members to mention that are a text, a call comes to nothing. -/
theorem Messenger.run_sendChannelMessage_insert (args : Arguments) (text : String)
    (world : World) :
    (sendChannelMessage.toCapability.run
      (args.insert "mention_members" (.string text))).request? world.settings = none ∧
    ∃ fault, (sendChannelMessage.toCapability.run
        (args.insert "mention_members" (.string text))).ending? world =
          some (.returned (.error fault)) ∧
      ((sendChannelMessage.toCapability.run
          (args.without "mention_members")).request? world.settings = none ∧
        (sendChannelMessage.toCapability.run (args.without "mention_members")).ending? world =
          some (.returned (.error fault)) ∨
      (∃ request, (sendChannelMessage.toCapability.run
          (args.without "mention_members")).request? world.settings = some request) ∧
        fault.kind = .validation ∧ fault.code = some "INVALID_MENTION_MEMBERS") := by
  rcases sendChannelMessage_insert args text with ⟨fault, full, bare⟩ | ⟨plan, full, bare⟩
  · simp only [Tool.toCapability, full, bare]
    exact ⟨rfl, fault, rfl, Or.inl ⟨rfl, rfl⟩⟩
  · simp only [Tool.toCapability, full, bare]
    exact ⟨rfl, invalidMentions, rfl, Or.inr ⟨⟨_, rfl⟩, rfl, rfl⟩⟩

end Blank

/-- **A blank text counts as nothing.** For an argument that a shipped capability declares and does
not require, a call with a blank text makes the same request as one that leaves it out, if any, and
ends alike. Lists that are sent even when they are empty are set aside. Members to mention have to
be a list: with a blank text for them no request is made, and the call fails over just that whenever
it would have made one without. -/
theorem blank_unsaid {capability : Capability} (shipped : capability ∈ catalogue) {name : String}
    (declared : capability.descriptor.declares name = true)
    (optional : name ∉ capability.descriptor.required)
    (unsent : (capability.descriptor.name, name) ∉ sentLists) {blank : String}
    (white : Text.isBlank blank = true) (args : Arguments) (world : World) :
    ((capability.descriptor.name, name) ≠ mentionList →
      (capability.run (args.insert name (.string blank))).request? world.settings =
        (capability.run (args.without name)).request? world.settings ∧
      ∃ result, (capability.run (args.insert name (.string blank))).ending? world =
          some (.returned result) ∧
        (capability.run (args.without name)).ending? world = some (.returned result)) ∧
    ((capability.descriptor.name, name) = mentionList →
      (capability.run (args.insert name (.string blank))).request? world.settings = none ∧
      ∃ fault, (capability.run (args.insert name (.string blank))).ending? world =
          some (.returned (.error fault)) ∧
        ((capability.run (args.without name)).request? world.settings = none ∧
            (capability.run (args.without name)).ending? world =
              some (.returned (.error fault)) ∨
          (∃ request,
            (capability.run (args.without name)).request? world.settings = some request) ∧
            fault.kind = .validation ∧ fault.code = some "INVALID_MENTION_MEMBERS")) := by
  have endings := fun args => run_cases shipped args
  obtain ⟨tool, member, rfl⟩ := List.mem_map.mp shipped
  obtain ⟨parameter, listed, rfl⟩ := Tool.declares_iff.mp declared
  constructor
  · intro other
    have possible : parameter.required = false := by
      rw [Bool.eq_false_iff]
      intro required
      apply optional
      rw [required_toCapability]
      exact List.mem_map_of_mem (List.mem_filter.mpr ⟨listed, required⟩)
    have same : tool.toCapability.run (args.insert parameter.name (.string blank)) =
        tool.toCapability.run (args.without parameter.name) := by
      have planned := plan_insert member listed possible unsent other white args
      simp only [Tool.toCapability, planned]
    rw [same]
    refine ⟨rfl, ?_⟩
    rcases endings (args.without parameter.name) with ⟨fault, -, ended⟩ | ⟨plan, -, asked⟩
    · rw [ended]
      exact ⟨.error fault, rfl, rfl⟩
    · rw [asked]
      exact ⟨_, rfl, rfl⟩
  · intro own
    obtain ⟨named, which⟩ := Prod.mk.inj own
    have also : Messenger.sendChannelMessage ∈ tools := by
      simp [tools, Messenger.tools]
    obtain rfl : tool = Messenger.sendChannelMessage :=
      List.inj_on_of_nodup_map nodup_names member also named
    rw [which]
    exact Messenger.run_sendChannelMessage_insert args blank world

/-- Arguments of a task with a tag. -/
def taggedPost : Arguments := ⟨[
  ("project_id", .string "1"), ("subject", .string "s"), ("body", .string "b"),
  ("to_member_ids", .string "7"), ("tag_ids", .string "old")]⟩

/-- A task is written without tags when they are blank, as when they are left out. -/
theorem blank_unsaid_createPost :
    Text.isBlank " \u3000" = true ∧
    (∃ request, (Project.createPost.toCapability.run
        (taggedPost.insert "tag_ids" (.string " \u3000"))).request?
          (worldAnswering 200 grantedText).settings = some request ∧
      (Project.createPost.toCapability.run (taggedPost.without "tag_ids")).request?
          (worldAnswering 200 grantedText).settings = some request) ∧
    (Project.createPost.toCapability.run
        (taggedPost.insert "tag_ids" (.string " \u3000"))).ending?
          (worldAnswering 200 grantedText) =
      (Project.createPost.toCapability.run (taggedPost.without "tag_ids")).ending?
          (worldAnswering 200 grantedText) := by
  have shipped : Project.createPost.toCapability ∈ catalogue :=
    List.mem_map_of_mem (by simp [tools, Project.tools])
  have declared : Project.createPost.toCapability.descriptor.declares "tag_ids" = true := by
    decide +kernel
  have optional : "tag_ids" ∉ Project.createPost.toCapability.descriptor.required := by
    decide +kernel
  have unsent : (Project.createPost.toCapability.descriptor.name, "tag_ids") ∉ sentLists := by
    decide +kernel
  have white : Text.isBlank " \u3000" = true := by
    decide +kernel
  obtain ⟨alike, -⟩ := blank_unsaid shipped declared optional unsent white taggedPost
    (worldAnswering 200 grantedText)
  obtain ⟨requested, result, full, bare⟩ := alike (by decide +kernel)
  exact ⟨white, ⟨_, rfl, requested.symm⟩, full.trans bare.symm⟩

/-- Calls with an argument that may be left out and for which an empty text is something else. -/
def saidBlanks : List (Tool × String × Arguments) := [
  (Wiki.createPage, "referrer_member_ids",
    ⟨[("wiki_id", .string "w"), ("parent_page_id", .string "p"), ("subject", .string "s"),
      ("body", .string "b")]⟩),
  (Wiki.updatePage, "referrer_member_ids", ⟨[("wiki_id", .string "w"), ("page_id", .string "p")]⟩),
  (Messenger.createChannel, "member_ids", ⟨[("type", .string "private")]⟩),
  (Messenger.sendChannelMessage, "mention_members",
    ⟨[("channel_id", .string "c"), ("text", .string "hello")]⟩)]

/-- Not every blank text counts as nothing: in each of these calls another request is made for it,
or one where none would be made, or none where one would be. -/
theorem blank_said :
    Text.isBlank "" = true ∧
    ∀ entry ∈ saidBlanks, entry.1 ∈ tools ∧
      entry.1.toCapability.descriptor.declares entry.2.1 = true ∧
      entry.2.1 ∉ entry.1.toCapability.descriptor.required ∧
      (entry.1.toCapability.run (entry.2.2.insert entry.2.1 (.string ""))).request?
          (worldAnswering 200 grantedText).settings ≠
        (entry.1.toCapability.run (entry.2.2.without entry.2.1)).request?
          (worldAnswering 200 grantedText).settings := by
  refine ⟨by decide, ?_⟩
  have shipped : ∀ entry ∈ saidBlanks, entry.1 ∈ tools := by
    simp [saidBlanks, tools, Wiki.tools, Messenger.tools]
  have differ : ∀ entry ∈ saidBlanks,
      entry.1.toCapability.descriptor.declares entry.2.1 = true ∧
      entry.2.1 ∉ entry.1.toCapability.descriptor.required ∧
      (entry.1.toCapability.run (entry.2.2.insert entry.2.1 (.string ""))).request?
          (worldAnswering 200 grantedText).settings ≠
        (entry.1.toCapability.run (entry.2.2.without entry.2.1)).request?
          (worldAnswering 200 grantedText).settings := by
    decide +kernel
  intro entry member
  exact ⟨shipped entry member, differ entry member⟩

end Suite

end SuiteBridge
