import SuiteBridge.Proofs.Call.Declared
import SuiteBridge.Proofs.Text.Blank

/-!
# What is required

The schema of a tool lists the arguments that are required, and the tool asks for them one by one.
The two agree: with one of the listed arguments lacking no request is made, and a tool that misses
an argument names one of the list that is in fact lacking (`Suite.minds_required`).

`Minds blame good result` follows a tool through its arguments: it gives something `good`, or it
fails, and if it fails over a missing argument, that argument is to `blame`. Every tool is followed
in this way once (`Suite.mindsAll_plan`); what it misses is put in terms of the schema afterwards
(`Suite.misses_iff`).
-/

namespace SuiteBridge

/-! ## What is lacking -/

namespace Descriptor

/-- The arguments that a schema lists as required. -/
def required (descriptor : Descriptor) : List String :=
  match descriptor.schema.member? "required" with
  | some (.array names) => names.filterMap Json.text?
  | _ => []

/-- Whether an argument is declared as a list. -/
def takesList (descriptor : Descriptor) (name : String) : Bool :=
  ((descriptor.property? name).bind (Json.member? "type")).bind Json.text? == some "array"

end Descriptor

namespace Arguments

/-- Nothing is listed in an argument: it is a text with nothing but blanks between commas, or a list
of blank texts. -/
def IsEmptyList (args : Arguments) (name : String) : Prop :=
  (∃ s, args.value? name = some (.string s) ∧
    ∀ part ∈ Text.splitAt ',' s, Text.isBlank part = true) ∨
  ∃ items, args.value? name = some (.array items) ∧
    ∀ item ∈ items, ∃ s, item = .string s ∧ Text.isBlank s = true

/-- An argument is as good as absent: it is left out, null or a blank text, or it is declared as a
list and nothing is listed. -/
def Lacks (args : Arguments) (descriptor : Descriptor) (name : String) : Prop :=
  args.IsUnsaid name ∨ descriptor.takesList name = true ∧ args.IsEmptyList name

variable {args : Arguments} {name : String}

/-! ### How the readers of arguments fail -/

/-- The fault of an argument that is given and cannot be used. -/
def IsInvalid (name : String) (fault : Fault) : Prop :=
  ∃ problem, fault = invalid name problem

theorem IsInvalid.kind {fault : Fault} (unusable : IsInvalid name fault) :
    fault.kind = .validation := by
  obtain ⟨problem, rfl⟩ := unusable
  rfl

theorem IsInvalid.code {fault : Fault} (unusable : IsInvalid name fault) :
    fault.code = some ("INVALID_" ++ Text.upper name) := by
  obtain ⟨problem, rfl⟩ := unusable
  rfl

theorem isInvalid_of_text?_eq_error {fault : Fault} (failed : args.text? name = .error fault) :
    IsInvalid name fault := by
  unfold text? at failed
  split at failed <;> cases failed
  exact ⟨_, rfl⟩

theorem isInvalid_of_entriesOfItems_eq_error {items : List Json} {fault : Fault}
    (failed : entriesOfItems name items = .error fault) : IsInvalid name fault := by
  induction items with
  | nil => cases failed
  | cons item items ih =>
      unfold entriesOfItems at failed
      split at failed
      · rename_i found
        cases failed
        unfold entryOfItem at found
        split at found <;> cases found
        exact ⟨_, rfl⟩
      · cases rest : entriesOfItems name items with
        | ok entries => simp [rest, Except.map] at failed
        | error other =>
            rw [rest] at failed
            cases failed
            exact ih rest

theorem isInvalid_of_list?_eq_error {fault : Fault} (failed : args.list? name = .error fault) :
    IsInvalid name fault := by
  unfold list? at failed
  split at failed
  · cases failed
  · cases failed
  · rename_i items _
    cases read : entriesOfItems name items with
    | ok entries => simp [read, Except.map] at failed
    | error other =>
        rw [read] at failed
        cases failed
        exact isInvalid_of_entriesOfItems_eq_error read
  · cases failed
    exact ⟨_, rfl⟩

theorem isInvalid_of_number?_eq_error {fault : Fault} (failed : args.number? name = .error fault) :
    IsInvalid name fault := by
  unfold number? at failed
  simp only at failed
  split at failed
  · cases failed
  · split at failed <;> cases failed
    exact ⟨_, rfl⟩
  · split at failed
    · cases failed
    · split at failed <;> cases failed
      exact ⟨_, rfl⟩
  · cases failed
    exact ⟨_, rfl⟩

theorem isInvalid_of_flag?_eq_error {fault : Fault} (failed : args.flag? name = .error fault) :
    IsInvalid name fault := by
  unfold flag? at failed
  simp only at failed
  split at failed
  · cases failed
  · cases failed
  · split at failed
    · cases failed
    · split at failed
      · cases failed
      · split at failed <;> cases failed
        exact ⟨_, rfl⟩
  · cases failed
    exact ⟨_, rfl⟩

theorem isInvalid_of_oneOf?_eq_error {allowed : List String} {fault : Fault}
    (failed : args.oneOf? name allowed = .error fault) : IsInvalid name fault := by
  unfold oneOf? at failed
  split at failed
  · rename_i read
    cases failed
    exact isInvalid_of_text?_eq_error read
  · cases failed
  · split at failed <;> cases failed
    exact ⟨_, rfl⟩

/-! ### What it takes to miss an argument -/

theorem entriesOfText_eq_nil_iff {s : String} :
    entriesOfText s = [] ↔ ∀ part ∈ Text.splitAt ',' s, Text.isBlank part = true := by
  simp [entriesOfText, List.filter_eq_nil_iff, Text.trim_eq_empty_iff]

theorem entriesOfItems_eq_nil_iff {items : List Json} :
    entriesOfItems name items = .ok [] ↔
      ∀ item ∈ items, ∃ s, item = .string s ∧ Text.isBlank s = true := by
  induction items with
  | nil => simp [entriesOfItems]
  | cons item items ih =>
      rw [List.forall_mem_cons, ← ih, entriesOfItems]
      cases item with
      | string s =>
          by_cases blank : Text.isBlank s = true <;>
            cases entriesOfItems name items <;> simp [entryOfItem, blank, Except.map]
      | number n => cases entriesOfItems name items <;> simp [entryOfItem, Except.map]
      | null | bool | array | object => simp [entryOfItem]

/-- A required text is missed exactly if it is left out or blank. -/
theorem text_eq_missing_iff :
    args.text name = .error (Fault.parameterMissing name) ↔ args.IsUnsaid name := by
  rw [← text?_eq_none_iff]
  unfold text
  cases read : args.text? name with
  | error fault =>
      have kind := (isInvalid_of_text?_eq_error read).kind
      refine iff_of_false ?_ nofun
      rintro ⟨⟩
      cases kind
  | ok s => cases s <;> simp

/-- A required list is missed exactly if it is left out or nothing is listed. -/
theorem list_eq_missing_iff :
    args.list name = .error (Fault.parameterMissing name) ↔
      args.IsUnsaid name ∨ args.IsEmptyList name := by
  have missed : args.list name = .error (Fault.parameterMissing name) ↔
      args.list? name = .ok .none ∨ args.list? name = .ok (some []) := by
    unfold list
    cases read : args.list? name with
    | error fault =>
        have kind := (isInvalid_of_list?_eq_error read).kind
        refine iff_of_false ?_ (by simp)
        rintro ⟨⟩
        cases kind
    | ok entries =>
        rcases entries with _ | _ | _ <;> simp
  rw [missed, list?_eq_none_iff]
  unfold list? IsUnsaid IsEmptyList
  cases args.value? name with
  | none => simp
  | some value =>
      cases value with
      | string s =>
          have parts : Text.isBlank s = true →
              ∀ part ∈ Text.splitAt ',' s, Text.isBlank part = true :=
            fun blank part => Text.isBlank_of_mem_splitAt blank
          simpa [entriesOfText_eq_nil_iff] using parts
      | array items =>
          cases read : entriesOfItems name items <;>
            simp [← @entriesOfItems_eq_nil_iff name items, read, Except.map]
      | null | bool | number | object => simp

/-- A parameter that is required is missed when it is read, in the way that goes with its shape. -/
def Misses (args : Arguments) (parameter : Parameter) : Prop :=
  parameter.required = true ∧
    match parameter.shape with
    | .text => args.text parameter.name = .error (Fault.parameterMissing parameter.name)
    | .texts => args.list parameter.name = .error (Fault.parameterMissing parameter.name)
    | .choice values => args.oneOf? parameter.name values = .ok .none
    | .number | .flag | .mentions => False

section Misses

variable {name description : String} {values : List String}

/-- What may be left out is never missed. -/
@[simp] theorem misses_optional {shape : Shape} :
    args.Misses ⟨name, shape, description, false⟩ ↔ False := by
  simp [Misses]

@[simp] theorem misses_text : args.Misses (.text name description) ↔ False :=
  misses_optional

@[simp] theorem misses_number : args.Misses (.number name description) ↔ False :=
  misses_optional

@[simp] theorem misses_page : args.Misses .page ↔ False :=
  misses_optional

@[simp] theorem misses_size {usual : Nat} : args.Misses (.size usual) ↔ False :=
  misses_optional

@[simp] theorem misses_flag : args.Misses (.flag name description) ↔ False :=
  misses_optional

@[simp] theorem misses_texts : args.Misses (.texts name description) ↔ False :=
  misses_optional

@[simp] theorem misses_choice : args.Misses (.choice name description values) ↔ False :=
  misses_optional

@[simp] theorem misses_mandatory_text :
    args.Misses (.mandatory (.text name description)) ↔
      args.text name = .error (Fault.parameterMissing name) := by
  simp [Misses, Parameter.mandatory, Parameter.text]

@[simp] theorem misses_mandatory_texts :
    args.Misses (.mandatory (.texts name description)) ↔
      args.list name = .error (Fault.parameterMissing name) := by
  simp [Misses, Parameter.mandatory, Parameter.texts]

@[simp] theorem misses_mandatory_choice :
    args.Misses (.mandatory (.choice name description values)) ↔
      args.oneOf? name values = .ok .none := by
  simp [Misses, Parameter.mandatory, Parameter.choice]

end Misses

end Arguments

@[simp] theorem Parameter.name_mandatory {parameter : Parameter} :
    parameter.mandatory.name = parameter.name :=
  rfl

@[simp] theorem Parameter.name_text {name description : String} :
    (Parameter.text name description).name = name :=
  rfl

@[simp] theorem Parameter.name_texts {name description : String} :
    (Parameter.texts name description).name = name :=
  rfl

@[simp] theorem Parameter.name_choice {name description : String} {values : List String} :
    (Parameter.choice name description values).name = name :=
  rfl

/-! ## Following a tool through its arguments -/

@[simp] theorem Fault.parameterMissing_inj {name other : String} :
    Fault.parameterMissing name = Fault.parameterMissing other ↔ name = other := by
  refine ⟨fun same => ?_, fun same => same ▸ rfl⟩
  have message : "the '" ++ name ++ "' parameter is required" =
      "the '" ++ other ++ "' parameter is required" := congrArg Fault.message same
  simpa using message

/-- A result is good, or it is a fault over the arguments, and if an argument is missing, it is one
to blame. -/
def Minds {α : Type} (blame : String → Prop) (good : α → Prop) : Except Fault α → Prop
  | .ok a => good a
  | .error fault =>
      fault.kind = .validation ∨ ∃ name, fault = Fault.parameterMissing name ∧ blame name

section Minds

variable {α β : Type} {blame : String → Prop} {good : α → Prop} {better : β → Prop}

@[simp] theorem minds_pure {a : α} : Minds blame good (pure a) ↔ good a :=
  Iff.rfl

@[simp] theorem minds_missing {name : String} :
    Minds blame good (.error (Fault.parameterMissing name) : Except Fault α) ↔ blame name := by
  constructor
  · rintro (other | ⟨same, missing, blamed⟩)
    · cases other
    · rwa [Fault.parameterMissing_inj.mp missing]
  · intro blamed
    exact Or.inr ⟨name, rfl, blamed⟩

@[simp] theorem minds_throw_missing {name : String} :
    Minds blame good (throw (Fault.parameterMissing name) : Except Fault α) ↔ blame name :=
  minds_missing

@[simp] theorem minds_bind {result : Except Fault α} {next : α → Except Fault β} :
    Minds blame better (result >>= next) ↔
      Minds blame (fun a => Minds blame better (next a)) result := by
  cases result <;> rfl

@[simp] theorem minds_map {result : Except Fault α} {make : α → β} :
    Minds blame better (make <$> result) ↔ Minds blame (fun a => better (make a)) result := by
  cases result <;> rfl

@[simp] theorem minds_ite {chosen : Prop} [Decidable chosen] {first second : Except Fault α} :
    Minds blame good (if chosen then first else second) ↔
      (chosen → Minds blame good first) ∧ (¬ chosen → Minds blame good second) := by
  by_cases holds : chosen <;> simp [holds]

/-- Where nothing can be missing, only what is given counts. -/
theorem minds_iff_of_kind {result : Except Fault α}
    (kind : ∀ fault, result = .error fault → fault.kind = .validation) :
    Minds blame good result ↔ ∀ a, result = .ok a → good a := by
  cases result with
  | ok a => simp [Minds]
  | error fault => simpa [Minds] using Or.inl (kind fault rfl)

/-- Where one argument can be missing, it is to blame for it. -/
theorem minds_iff_of_missing {result : Except Fault α} {name : String}
    (kind : ∀ fault, result = .error fault →
      fault.kind = .validation ∨ fault = Fault.parameterMissing name) :
    Minds blame good result ↔
      (result = .error (Fault.parameterMissing name) → blame name) ∧
        ∀ a, result = .ok a → good a := by
  cases result with
  | ok a => simp [Minds]
  | error fault =>
      rcases kind fault rfl with invalid | rfl
      · have other : fault ≠ Fault.parameterMissing name := by
          rintro rfl
          cases invalid
        simp [Minds, invalid, other]
      · simp

end Minds

namespace Arguments

variable {args : Arguments} {blame : String → Prop} {name : String} {values : List String}

@[simp] theorem minds_text? {good : Option String → Prop} :
    Minds blame good (args.text? name) ↔ ∀ s, args.text? name = .ok s → good s :=
  minds_iff_of_kind fun _ failed => (isInvalid_of_text?_eq_error failed).kind

@[simp] theorem minds_number? {good : Option Nat → Prop} :
    Minds blame good (args.number? name) ↔ ∀ n, args.number? name = .ok n → good n :=
  minds_iff_of_kind fun _ failed => (isInvalid_of_number?_eq_error failed).kind

@[simp] theorem minds_flag? {good : Option Bool → Prop} :
    Minds blame good (args.flag? name) ↔ ∀ b, args.flag? name = .ok b → good b :=
  minds_iff_of_kind fun _ failed => (isInvalid_of_flag?_eq_error failed).kind

@[simp] theorem minds_list? {good : Option (List String) → Prop} :
    Minds blame good (args.list? name) ↔ ∀ entries, args.list? name = .ok entries → good entries :=
  minds_iff_of_kind fun _ failed => (isInvalid_of_list?_eq_error failed).kind

@[simp] theorem minds_oneOf? {good : Option String → Prop} :
    Minds blame good (args.oneOf? name values) ↔
      ∀ s, args.oneOf? name values = .ok s → good s :=
  minds_iff_of_kind fun _ failed => (isInvalid_of_oneOf?_eq_error failed).kind

@[simp] theorem minds_text {good : String → Prop} :
    Minds blame good (args.text name) ↔
      (args.text name = .error (Fault.parameterMissing name) → blame name) ∧
        ∀ s, args.text name = .ok s → good s := by
  refine minds_iff_of_missing fun fault failed => ?_
  unfold text at failed
  split at failed
  · rename_i read
    cases failed
    exact Or.inl (isInvalid_of_text?_eq_error read).kind
  · cases failed
  · cases failed
    exact Or.inr rfl

@[simp] theorem minds_list {good : List String → Prop} :
    Minds blame good (args.list name) ↔
      (args.list name = .error (Fault.parameterMissing name) → blame name) ∧
        ∀ entries, args.list name = .ok entries → good entries := by
  refine minds_iff_of_missing fun fault failed => ?_
  unfold list at failed
  split at failed
  · rename_i read
    cases failed
    exact Or.inl (isInvalid_of_list?_eq_error read).kind
  · cases failed
  · cases failed
    exact Or.inr rfl

/-- A tool minds its parameters: it misses none of them, or it fails, and then an argument that is
missing is one that it misses. -/
def MindsAll (args : Arguments) (parameters : List Parameter) {α : Type} :
    Except Fault α → Prop :=
  Minds (fun name => ∃ parameter ∈ parameters, args.Misses parameter ∧ parameter.name = name)
    fun _ => ∀ parameter ∈ parameters, ¬ args.Misses parameter

end Arguments

/-! ## The tools -/

namespace Suite

variable {tool : Tool} {args : Arguments} {blame : String → Prop}

@[simp] theorem minds_nothingToUpdate {α : Type} {good : α → Prop} {hint : String} :
    Minds blame good (throw (nothingToUpdate hint) : Except Fault α) ↔ True :=
  iff_of_true (Or.inl rfl) trivial

@[simp] theorem Messenger.minds_withMentions {text : String} {good : String → Prop} :
    Minds blame good (Messenger.withMentions args text) ↔
      ∀ message, Messenger.withMentions args text = .ok message → good message := by
  refine minds_iff_of_kind fun fault failed => ?_
  unfold Messenger.withMentions at failed
  split at failed
  · cases failed
  · split at failed <;> cases failed
    rfl
  · cases failed
    rfl

theorem Wiki.mindsAll_plan (shipped : tool ∈ Wiki.tools) (args : Arguments) :
    args.MindsAll tool.parameters (tool.plan args) := by
  unfold Arguments.MindsAll
  simp only [Wiki.tools, List.mem_cons, List.not_mem_nil, or_false] at shipped
  rcases shipped with rfl | rfl | rfl | rfl | rfl
  · simp +contextual [Wiki.listProjects]
  · simp +contextual [Wiki.listPages]
  · simp +contextual [Wiki.getPage]
  · simp +contextual [Wiki.createPage, Wiki.referrers]
  · simp +contextual [Wiki.updatePage, Wiki.referrers]

theorem Project.mindsAll_plan (shipped : tool ∈ Project.tools) (args : Arguments) :
    args.MindsAll tool.parameters (tool.plan args) := by
  unfold Arguments.MindsAll
  simp only [Project.tools, List.mem_cons, List.not_mem_nil, or_false] at shipped
  rcases shipped with rfl | rfl | rfl | rfl | rfl | rfl | rfl | rfl | rfl | rfl | rfl
  · simp +contextual [Project.listProjects]
  · simp +contextual [Project.listPosts]
  · simp +contextual [Project.getPost, Project.taskParameters]
  · simp +contextual [Project.createPost, Project.writtenParameters, Project.writtenPost]
  · simp +contextual [Project.updatePost, Project.writtenParameters, Project.writtenPost]
  · simp +contextual [Project.setPostWorkflow, Project.taskParameters]
  · simp +contextual [Project.setPostDone, Project.taskParameters]
  · simp +contextual [Project.createPostComment, Project.taskParameters, Project.writtenComment]
  · simp +contextual [Project.getPostComments, Project.taskParameters]
  · simp +contextual [Project.updatePostComment, Project.taskParameters, Project.writtenComment]
  · simp +contextual [Project.deletePostComment, Project.taskParameters]

theorem Messenger.mindsAll_plan (shipped : tool ∈ Messenger.tools) (args : Arguments) :
    args.MindsAll tool.parameters (tool.plan args) := by
  unfold Arguments.MindsAll
  simp only [Messenger.tools, List.mem_cons, List.not_mem_nil, or_false] at shipped
  rcases shipped with rfl | rfl | rfl | rfl | rfl | rfl | rfl | rfl | rfl | rfl | rfl | rfl
  · simp +contextual [Messenger.searchMembers]
  · simp +contextual [Messenger.sendDirectMessage]
  · simp +contextual [Messenger.getChannels, Messenger.channelListParameters, Messenger.channelList]
  · simp +contextual [Messenger.getSimpleChannels, Messenger.channelListParameters,
      Messenger.channelList]
  · simp +contextual [Messenger.getChannel, Messenger.channelParameter]
  · simp +contextual [Messenger.sendChannelMessage, Messenger.channelParameter]
  · -- The kind of a channel is read like one that may be left out, and missed afterwards.
    simp only [Messenger.createChannel, minds_bind, Arguments.minds_oneOf?]
    intro kind read
    cases kind <;> simp +contextual [read]
  · simp +contextual [Messenger.joinChannel, Messenger.membershipParameters,
      Messenger.channelParameter, Messenger.changeMembership]
  · simp +contextual [Messenger.leaveChannel, Messenger.membershipParameters,
      Messenger.channelParameter, Messenger.changeMembership]
  · simp +contextual [Messenger.createThread, Messenger.channelParameter]
  · simp +contextual [Messenger.updateMessage, Messenger.channelParameter]
  · simp +contextual [Messenger.deleteMessage, Messenger.channelParameter]

theorem Calendar.mindsAll_plan (shipped : tool ∈ Calendar.tools) (args : Arguments) :
    args.MindsAll tool.parameters (tool.plan args) := by
  unfold Arguments.MindsAll
  simp only [Calendar.tools, List.mem_cons, List.not_mem_nil, or_false] at shipped
  rcases shipped with rfl | rfl | rfl | rfl | rfl
  · simp [Calendar.listCalendars]
  · simp +contextual [Calendar.calendarDetail]
  · simp +contextual [Calendar.calendarEvents]
  · simp +contextual [Calendar.eventDetail]
  · simp +contextual [Calendar.createEvent]

theorem Drive.mindsAll_plan (shipped : tool ∈ Drive.tools) (args : Arguments) :
    args.MindsAll tool.parameters (tool.plan args) := by
  unfold Arguments.MindsAll
  simp only [Drive.tools, List.mem_cons, List.not_mem_nil, or_false] at shipped
  rcases shipped with rfl | rfl | rfl | rfl | rfl | rfl | rfl | rfl | rfl | rfl | rfl | rfl | rfl |
    rfl | rfl | rfl
  · simp +contextual [Drive.listDrives]
  · simp +contextual [Drive.driveDetail, Drive.driveParameter]
  · simp +contextual [Drive.listFiles, Drive.driveParameter]
  · simp +contextual [Drive.driveChanges, Drive.driveParameter]
  · simp +contextual [Drive.fileMetadata, Drive.fileParameters, Drive.driveParameter]
  · simp +contextual [Drive.createFolder, Drive.driveParameter]
  · simp +contextual [Drive.renameFile, Drive.fileParameters, Drive.driveParameter]
  · simp +contextual [Drive.copyFile, Drive.fileParameters, Drive.driveParameter]
  · simp +contextual [Drive.moveFile, Drive.fileParameters, Drive.driveParameter]
  · simp +contextual [Drive.moveToTrash, Drive.fileParameters, Drive.driveParameter]
  · simp +contextual [Drive.deleteFile, Drive.fileParameters, Drive.driveParameter]
  · simp +contextual [Drive.createSharedLink, Drive.fileParameters, Drive.driveParameter]
  · simp +contextual [Drive.sharedLinks, Drive.fileParameters, Drive.driveParameter]
  · simp +contextual [Drive.sharedLinkDetail, Drive.linkParameters, Drive.driveParameter]
  · simp +contextual [Drive.updateSharedLink, Drive.linkParameters, Drive.driveParameter]
  · simp +contextual [Drive.deleteSharedLink, Drive.linkParameters, Drive.driveParameter]

/-- **A tool minds what it requires, and nothing else.** -/
theorem mindsAll_plan (shipped : tool ∈ tools) (args : Arguments) :
    args.MindsAll tool.parameters (tool.plan args) := by
  simp only [tools, List.mem_append] at shipped
  rcases shipped with (((wiki | project) | messenger) | calendar) | drive
  · exact Wiki.mindsAll_plan wiki args
  · exact Project.mindsAll_plan project args
  · exact Messenger.mindsAll_plan messenger args
  · exact Calendar.mindsAll_plan calendar args
  · exact Drive.mindsAll_plan drive args

/-! ## What the schemas say -/

theorem nodup_parameters : ∀ tool ∈ tools, (tool.parameters.map Parameter.name).Nodup := by
  decide +kernel

/-- Numbers, truth values and members to mention are never required. -/
theorem shape_of_required : ∀ tool ∈ tools, ∀ parameter ∈ tool.parameters,
    parameter.required = true →
      parameter.shape ≠ .number ∧ parameter.shape ≠ .flag ∧ parameter.shape ≠ .mentions := by
  decide +kernel

theorem required_toCapability :
    tool.toCapability.descriptor.required =
      (tool.parameters.filter Parameter.required).map Parameter.name := by
  have texts : ∀ names : List String, (names.map Json.string).filterMap Json.text? = names := by
    intro names
    rw [List.filterMap_map]
    exact List.filterMap_some
  exact texts _

theorem takesList_toCapability {parameter : Parameter} (shipped : tool ∈ tools)
    (declared : parameter ∈ tool.parameters) :
    tool.toCapability.descriptor.takesList parameter.name = true ↔
      parameter.shape = .texts ∨ parameter.shape = .mentions := by
  have property : tool.toCapability.descriptor.property? parameter.name =
      some parameter.schema := by
    rw [Tool.property?_eq, Members.lookup_eq_some_iff_mem]
    · exact List.mem_map_of_mem declared
    · rw [List.map_map]
      exact nodup_parameters tool shipped
  rw [Descriptor.takesList, property]
  unfold Parameter.schema
  cases parameter.shape <;> simp [Json.member?, Json.text?]

/-- What a tool misses is what it requires and what is lacking. -/
theorem misses_iff {parameter : Parameter} (shipped : tool ∈ tools)
    (declared : parameter ∈ tool.parameters) :
    args.Misses parameter ↔ parameter.required = true ∧
      args.Lacks tool.toCapability.descriptor parameter.name := by
  unfold Arguments.Misses Arguments.Lacks
  rw [takesList_toCapability shipped declared]
  refine and_congr_right fun required => ?_
  have shapes := shape_of_required tool shipped parameter declared required
  cases shape : parameter.shape with
  | text => simp [Arguments.text_eq_missing_iff]
  | texts => simp [Arguments.list_eq_missing_iff]
  | choice values => simp [Arguments.oneOf?_eq_none_iff]
  | number | flag | mentions => simp [shape] at shapes

/-- **Required means required, and only that.** With an argument lacking that the schema of a
shipped capability requires, no request is made, and the call ends over its arguments. Whenever a
call ends over a missing argument, it is one that the schema requires and that is lacking, and the
code names it. -/
theorem minds_required {capability : Capability} (shipped : capability ∈ catalogue)
    (args : Arguments) (world : World) :
    (∀ name ∈ capability.descriptor.required, args.Lacks capability.descriptor name →
      (capability.run args).request? world.settings = none ∧
      ∃ fault : Fault, fault.IsLocal ∧
        (capability.run args).ending? world = some (.returned (.error fault))) ∧
    ∀ fault, (capability.run args).ending? world = some (.returned (.error fault)) →
      fault.kind = .parameterMissing →
        ∃ name ∈ capability.descriptor.required, args.Lacks capability.descriptor name ∧
          fault.code = some ("MISSING_" ++ Text.upper name) := by
  have endings := run_cases shipped args
  obtain ⟨tool, member, rfl⟩ := List.mem_map.mp shipped
  have minds := mindsAll_plan member args
  have listed : ∀ {name}, name ∈ tool.toCapability.descriptor.required ↔
      ∃ parameter ∈ tool.parameters, parameter.required = true ∧ parameter.name = name := by
    simp [required_toCapability, and_assoc]
  -- The arguments are to blame, and what is missed is known, or something is asked and nothing is
  -- missed; faults of an answer are never about arguments.
  rcases endings with ⟨fault, isLocal, ended⟩ | ⟨plan, befits, asked⟩
  · have planned : tool.plan args = .error fault := by
      cases result : tool.plan args with
      | ok plan => simp [Tool.toCapability, result] at ended
      | error other => simpa [Tool.toCapability, result] using ended
    rw [planned] at minds
    rw [ended]
    refine ⟨fun _ _ _ => ⟨rfl, fault, isLocal, rfl⟩, ?_⟩
    rintro _ ⟨⟩ kind
    rcases minds with other | ⟨name, rfl, parameter, declared, missed, rfl⟩
    · simp [kind] at other
    · obtain ⟨required, lacks⟩ := (misses_iff member declared).mp missed
      exact ⟨_, listed.mpr ⟨parameter, declared, required, rfl⟩, lacks, rfl⟩
  · have planned : tool.plan args = .ok plan := by
      cases result : tool.plan args with
      | error fault => simp [Tool.toCapability, result] at asked
      | ok other => simpa [Tool.toCapability, result] using asked
    rw [planned] at minds
    refine ⟨fun name required lacks => ?_, fun fault ended kind => ?_⟩
    · obtain ⟨parameter, declared, mandatory, rfl⟩ := listed.mp required
      exact absurd ((misses_iff member declared).mpr ⟨mandatory, lacks⟩) (minds _ declared)
    · rw [asked] at ended
      injection ended with ended
      injection ended with failed
      exact absurd (Or.inl kind) (isAnswerFault_of_conclude befits failed).not_isLocal

/-- Members to add to a channel, with nothing but blanks between commas. -/
def nobodyToAdd : Arguments :=
  ⟨[("channel_id", .string "c"), ("member_ids", .string " , ,")]⟩

/-- A list with nothing in it is missed, though it is given. -/
theorem minds_required_joinChannel :
    (Messenger.joinChannel.toCapability.run nobodyToAdd).request?
        (worldAnswering 200 grantedText).settings = none ∧
    ∃ name ∈ ["channel_id", "member_ids"],
      nobodyToAdd.Lacks Messenger.joinChannel.toCapability.descriptor name ∧
        some "MISSING_MEMBER_IDS" = some ("MISSING_" ++ Text.upper name) := by
  have shipped : Messenger.joinChannel.toCapability ∈ catalogue :=
    List.mem_map_of_mem (by simp [tools, Messenger.tools])
  have lacks : nobodyToAdd.Lacks Messenger.joinChannel.toCapability.descriptor "member_ids" :=
    Or.inr ⟨by decide, Or.inl ⟨" , ,", rfl, by decide⟩⟩
  obtain ⟨without, only⟩ :=
    minds_required shipped nobodyToAdd (worldAnswering 200 grantedText)
  exact ⟨(without "member_ids" (by decide) lacks).1, only _ rfl rfl⟩

end Suite

end SuiteBridge
