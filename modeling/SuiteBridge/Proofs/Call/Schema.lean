import Mathlib.Data.List.Nodup
import SuiteBridge.Proofs.Call.Planning
import SuiteBridge.Proofs.Json.Schema

/-!
# What a schema promises

A tool publishes the schema of its parameters and reads its arguments by itself. The two agree:
`Arguments.Offers` says, shape by shape, what can be read of an argument, and it holds of every
argument that is valid against the schema of its parameter (`Arguments.offers_of_accepts`). So every
tool of the suite makes its request when its arguments are valid (`Suite.asks_of_accepts`), unless
there is nothing to change.
-/

namespace SuiteBridge

/-! ## The schemas of parameters -/

namespace Parameter

variable {members : Members} {value : Json} {name description : String} {required : Bool}

/-- An object is valid against the schema of some parameters if each value is valid against the
schema of its own and the required ones are there. -/
theorem accepts_objectSchema {parameters : List Parameter} :
    (objectSchema parameters).accepts (.object members) = true ↔
      (∀ parameter ∈ parameters, ∀ value, members.lookup parameter.name = some value →
        parameter.schema.accepts value = true) ∧
      ∀ parameter ∈ parameters, parameter.required = true →
        ∃ value, members.lookup parameter.name = some value := by
  rw [objectSchema, Json.accepts_object_iff]
  simp only [Json.object.injEq, exists_eq_left', List.forall_mem_map, List.mem_filter, and_imp]

theorem accepts_textSchema : textSchema.accepts value = true ↔ ∃ s, value = .string s := by
  cases value <;> simp [textSchema, Json.accepts, Json.kindName]

theorem accepts_schema_text :
    (schema ⟨name, .text, description, required⟩).accepts value = true ↔
      ∃ s, value = .string s := by
  cases value <;> simp [schema, Json.accepts, Json.kindName]

theorem accepts_schema_integer {i : Int} :
    (schema ⟨name, .number, description, required⟩).accepts (.number (.integer i)) = true ↔
      0 ≤ i := by
  simp [schema, Json.accepts, Json.acceptsAll, Json.isOfType, Json.isWhole, Json.isAtLeast,
    Number.isAtLeast, Number.ratio, Json.nat]

theorem accepts_schema_flag :
    (schema ⟨name, .flag, description, required⟩).accepts value = true ↔
      ∃ b, value = .bool b := by
  cases value <;> simp [schema, Json.accepts, Json.kindName]

theorem accepts_schema_texts :
    (schema ⟨name, .texts, description, required⟩).accepts value = true ↔
      ∃ items, value = .array items ∧ ∀ item ∈ items, ∃ s, item = .string s := by
  cases value <;> simp [schema, Json.accepts, Json.kindName, accepts_textSchema]

theorem accepts_schema_choice {values : List String} :
    (schema ⟨name, .choice values, description, required⟩).accepts value = true ↔
      ∃ s ∈ values, value = .string s := by
  cases value <;> simp [schema, Json.accepts, Json.kindName]

theorem accepts_schema_mentions :
    (schema ⟨name, .mentions, description, required⟩).accepts value = true ↔
      ∃ items, value = .array items ∧ ∀ item ∈ items, ∃ members, item = .object members ∧
        ∀ key ∈ ["id", "name", "organizationId"], ∃ s, members.lookup key = some (.string s) := by
  rw [schema, Json.accepts]
  cases value with
  | array items =>
      rw [Json.acceptsAll_type (by decide), Json.acceptsAll_description, Json.acceptsAll_items]
      simp only [Json.kindName, Json.acceptsAll_nil, true_and, and_true, Json.array.injEq,
        exists_eq_left']
      refine forall₂_congr fun item _ => ?_
      rw [Json.accepts_object_iff]
      refine exists_congr fun members => and_congr_right fun _ => ?_
      simp only [List.forall_mem_cons, accepts_textSchema]
      grind
  | null | bool | number | string | object => simp [Json.kindName]

end Parameter

/-! ## Reading what is valid -/

/-- A result that is no fault. -/
def Gives {α : Type} (result : Except Fault α) : Prop :=
  ∃ a, result = .ok a

section Gives

variable {α β : Type} {result : Except Fault α}

@[simp] theorem gives_ok {a : α} : Gives (.ok a : Except Fault α) :=
  ⟨a, rfl⟩

@[simp] theorem gives_pure {a : α} : Gives (pure a : Except Fault α) :=
  ⟨a, rfl⟩

@[simp] theorem not_gives_error {fault : Fault} : ¬ Gives (.error fault : Except Fault α) :=
  nofun

@[simp] theorem gives_map {make : α → β} : Gives (result.map make) ↔ Gives result := by
  cases result <;> simp [Except.map]

@[simp] theorem gives_functor_map {make : α → β} : Gives (make <$> result) ↔ Gives result :=
  gives_map

/-- After a step that gives something, it is up to the next one. -/
@[simp] theorem gives_bind {next : α → Except Fault β} (given : Gives result) :
    Gives (result >>= next) ↔ ∀ a, result = .ok a → Gives (next a) := by
  obtain ⟨a, rfl⟩ := given
  simp [bind, Except.bind]

end Gives

namespace Arguments

variable {args : Arguments} {name description : String}

/-- Null apart, the value of an argument is the member of its name. -/
theorem value?_eq_some {value : Json} (found : args.members.lookup name = some value)
    (given : value.isNull = false) : args.value? name = some value := by
  simp [value?, found, given]

theorem value?_eq_none (absent : args.members.lookup name = .none) : args.value? name = .none := by
  simp [value?, absent]

/-- An argument is left out, or it is a blank text. -/
def IsUnsaid (args : Arguments) (name : String) : Prop :=
  args.value? name = .none ∨ ∃ s, args.value? name = some (.string s) ∧ Text.isBlank s = true

theorem text?_eq_none_iff : args.text? name = .ok .none ↔ args.IsUnsaid name := by
  unfold text? IsUnsaid
  split <;> simp_all

theorem number?_eq_none_iff : args.number? name = .ok .none ↔ args.IsUnsaid name := by
  unfold number? IsUnsaid
  simp only
  split
  · simp_all
  · split <;> simp_all
  · split
    · simp_all
    · split <;> simp_all
  · simp_all

theorem oneOf?_eq_none_iff {allowed : List String} :
    args.oneOf? name allowed = .ok .none ↔ args.IsUnsaid name := by
  rw [← text?_eq_none_iff]
  unfold oneOf?
  split
  · simp_all
  · simp_all
  · rename_i s given
    by_cases listed : s ∈ allowed <;> simp [given, listed]

theorem list?_eq_none_iff : args.list? name = .ok .none ↔ args.value? name = .none := by
  unfold list?
  split
  · simp_all
  · simp_all
  · rename_i items given
    cases entriesOfItems name items <;> simp_all [Except.map]
  · simp_all

/-- The entries of a list of texts are those that are not blank. -/
theorem entriesOfItems_texts {items : List Json} (texts : ∀ item ∈ items, ∃ s, item = .string s) :
    ∃ entries, entriesOfItems name items = .ok entries ∧
      ∀ s, .string s ∈ items → Text.isBlank s = false → entries ≠ [] := by
  induction items with
  | nil => exact ⟨[], rfl, by simp⟩
  | cons item items ih =>
      obtain ⟨⟨s, rfl⟩, others⟩ := List.forall_mem_cons.mp texts
      obtain ⟨entries, read, filled⟩ := ih others
      refine ⟨(if Text.isBlank s then [] else [Text.trim s]) ++ entries, ?_, ?_⟩
      · rw [entriesOfItems, entryOfItem, read]
        rfl
      · intro t member written
        rcases List.mem_cons.mp member with same | former
        · cases same
          simp [written]
        · simp [filled t former written]

/-- Whether an argument, if it is given, says something that a tool can use: a required text is not
blank, a required list holds a text that is not, and a number is an integer below the bound. The
number written `-0` is a double. -/
def isFilled (args : Arguments) (parameter : Parameter) : Bool :=
  match parameter.shape, args.members.lookup parameter.name with
  | .text, some (.string s) => !parameter.required || !Text.isBlank s
  | .texts, some (.array items) =>
    !parameter.required || items.any fun item => item.text?.any fun s => !Text.isBlank s
  | .number, some (.number (.integer i)) => i < numberBound
  | .number, some _ => false
  | _, _ => true

theorem isFilled_text {s : String} (found : args.members.lookup name = some (.string s)) :
    args.isFilled ⟨name, .text, description, true⟩ = true ↔ Text.isBlank s = false := by
  simp [isFilled, found]

theorem isFilled_texts {items : List Json}
    (found : args.members.lookup name = some (.array items)) :
    args.isFilled ⟨name, .texts, description, true⟩ = true ↔
      ∃ s, .string s ∈ items ∧ Text.isBlank s = false := by
  simp only [isFilled, found, Bool.not_true, Bool.false_or, List.any_eq_true]
  constructor
  · rintro ⟨item, member, written⟩
    cases item with
    | string s => exact ⟨s, member, by simpa [Json.text?] using written⟩
    | null | bool | number | array | object => simp [Json.text?] at written
  · rintro ⟨s, member, written⟩
    exact ⟨.string s, member, by simpa [Json.text?] using written⟩

theorem isFilled_number {value : Json} {required : Bool}
    (found : args.members.lookup name = some value) :
    args.isFilled ⟨name, .number, description, required⟩ = true ↔
      ∃ i : Int, value = .number (.integer i) ∧ i < numberBound := by
  cases value with
  | number n => cases n <;> simp [isFilled, found]
  | null | bool | string | array | object => simp [isFilled, found]

/-- What can be read of an argument that is valid against the schema of its parameter. -/
def Offers (args : Arguments) (parameter : Parameter) : Prop :=
  match parameter.shape with
  | .text =>
    Gives (args.text? parameter.name) ∧
      (parameter.required = true → Gives (args.text parameter.name))
  | .number => Gives (args.number? parameter.name)
  | .flag => Gives (args.flag? parameter.name)
  | .texts =>
    Gives (args.list? parameter.name) ∧
      (parameter.required = true → Gives (args.list parameter.name))
  | .choice values =>
    Gives (args.oneOf? parameter.name values) ∧
      (parameter.required = true → (∀ s ∈ values, Text.isBlank s = false) →
        ¬ args.IsUnsaid parameter.name)
  | .mentions =>
    parameter.name = "mention_members" → ∀ text, Gives (Suite.Messenger.withMentions args text)

theorem gives_text?
    (valid : ∀ value, args.members.lookup name = some value → ∃ s, value = .string s) :
    Gives (args.text? name) := by
  cases found : args.members.lookup name with
  | none => simp [text?, value?_eq_none found]
  | some value =>
      obtain ⟨s, rfl⟩ := valid value found
      simp [text?, value?_eq_some found rfl]

theorem gives_text {s : String} (found : args.members.lookup name = some (.string s))
    (written : Text.isBlank s = false) : Gives (args.text name) := by
  simp [text, text?, value?_eq_some found rfl, written]

theorem gives_number? (valid : ∀ value, args.members.lookup name = some value →
      ∃ i : Int, value = .number (.integer i) ∧ 0 ≤ i ∧ i < numberBound) :
    Gives (args.number? name) := by
  cases found : args.members.lookup name with
  | none => simp [number?, value?_eq_none found]
  | some value =>
      obtain ⟨i, rfl, within⟩ := valid value found
      simp [number?, value?_eq_some found rfl, within]

theorem gives_flag?
    (valid : ∀ value, args.members.lookup name = some value → ∃ b, value = .bool b) :
    Gives (args.flag? name) := by
  cases found : args.members.lookup name with
  | none => simp [flag?, value?_eq_none found]
  | some value =>
      obtain ⟨b, rfl⟩ := valid value found
      simp [flag?, value?_eq_some found rfl]

theorem gives_list? (valid : ∀ value, args.members.lookup name = some value →
      ∃ items, value = .array items ∧ ∀ item ∈ items, ∃ s, item = .string s) :
    Gives (args.list? name) := by
  cases found : args.members.lookup name with
  | none => simp [list?, value?_eq_none found]
  | some value =>
      obtain ⟨items, rfl, texts⟩ := valid value found
      obtain ⟨entries, read, -⟩ := @entriesOfItems_texts name items texts
      simp [list?, value?_eq_some found rfl, read]

theorem gives_list {items : List Json} (found : args.members.lookup name = some (.array items))
    (texts : ∀ item ∈ items, ∃ s, item = .string s)
    (written : ∃ s, .string s ∈ items ∧ Text.isBlank s = false) : Gives (args.list name) := by
  obtain ⟨entries, read, filled⟩ := @entriesOfItems_texts name items texts
  obtain ⟨s, member, visible⟩ := written
  obtain ⟨entry, others, rfl⟩ := List.exists_cons_of_ne_nil (filled s member visible)
  simp [list, list?, value?_eq_some found rfl, read, Except.map]

theorem gives_oneOf? {values : List String}
    (valid : ∀ value, args.members.lookup name = some value → ∃ s ∈ values, value = .string s) :
    Gives (args.oneOf? name values) := by
  cases found : args.members.lookup name with
  | none => simp [oneOf?, text?, value?_eq_none found]
  | some value =>
      obtain ⟨s, listed, rfl⟩ := valid value found
      by_cases blank : Text.isBlank s = true <;>
        simp [oneOf?, text?, value?_eq_some found rfl, blank, listed]

theorem gives_withMentions {text : String}
    (valid : ∀ value, args.members.lookup "mention_members" = some value →
      ∃ items, value = .array items ∧ ∀ item ∈ items, ∃ members, item = .object members ∧
        ∀ key ∈ ["id", "name", "organizationId"], ∃ s, members.lookup key = some (.string s)) :
    Gives (Suite.Messenger.withMentions args text) := by
  cases found : args.members.lookup "mention_members" with
  | none => simp [Suite.Messenger.withMentions, value?_eq_none found]
  | some value =>
      obtain ⟨items, rfl, named⟩ := valid value found
      have links : ∃ mentions, items.mapM Suite.Messenger.mention? = some mentions := by
        clear found valid
        induction items with
        | nil => exact ⟨[], rfl⟩
        | cons item items ih =>
            obtain ⟨⟨members, rfl, keys⟩, others⟩ := List.forall_mem_cons.mp named
            obtain ⟨mentions, read⟩ := ih others
            simp only [List.forall_mem_cons] at keys
            obtain ⟨⟨id, first⟩, ⟨name, second⟩, ⟨organization, third⟩, -⟩ := keys
            simp [List.mapM_cons, Suite.Messenger.mention?, Json.member?, Json.text?, first,
              second, third, read]
      obtain ⟨mentions, read⟩ := links
      simp [Suite.Messenger.withMentions, value?_eq_some found rfl, read]

/-- **What is valid can be read.** -/
theorem offers_of_accepts {parameters : List Parameter}
    (filled : ∀ parameter ∈ parameters, args.isFilled parameter = true)
    (valid : (Parameter.objectSchema parameters).accepts (.object args.members) = true) :
    ∀ parameter ∈ parameters, args.Offers parameter := by
  obtain ⟨typed, present⟩ := Parameter.accepts_objectSchema.mp valid
  rintro ⟨name, shape, description, required⟩ member
  have suits := typed _ member
  have there := present _ member
  cases shape with
  | text =>
      simp only [Parameter.accepts_schema_text] at suits
      refine ⟨gives_text? suits, fun needed => ?_⟩
      obtain ⟨value, found⟩ := there needed
      obtain ⟨s, rfl⟩ := suits value found
      obtain rfl : required = true := needed
      exact gives_text found ((isFilled_text found).mp (filled _ member))
  | number =>
      refine gives_number? fun value found => ?_
      obtain ⟨i, rfl, below⟩ := (isFilled_number found).mp (filled _ member)
      exact ⟨i, rfl, Parameter.accepts_schema_integer.mp (suits _ found), below⟩
  | flag =>
      simp only [Parameter.accepts_schema_flag] at suits
      exact gives_flag? suits
  | texts =>
      simp only [Parameter.accepts_schema_texts] at suits
      refine ⟨gives_list? suits, fun needed => ?_⟩
      obtain ⟨value, found⟩ := there needed
      obtain ⟨items, rfl, texts⟩ := suits value found
      obtain rfl : required = true := needed
      exact gives_list found texts ((isFilled_texts found).mp (filled _ member))
  | choice values =>
      simp only [Parameter.accepts_schema_choice] at suits
      refine ⟨gives_oneOf? suits, fun needed visible => ?_⟩
      obtain ⟨value, found⟩ := there needed
      obtain ⟨s, listed, rfl⟩ := suits value found
      simp [IsUnsaid, value?_eq_some found rfl, visible s listed]
  | mentions =>
      simp only [Parameter.accepts_schema_mentions] at suits
      rintro rfl text
      exact gives_withMentions suits

/-! ### Parameter by parameter -/

variable {values : List String}

@[simp] theorem offers_text : args.Offers (.text name description) ↔ Gives (args.text? name) := by
  simp [Offers, Parameter.text]

@[simp] theorem offers_mandatory_text :
    args.Offers (.mandatory (.text name description)) ↔
      Gives (args.text? name) ∧ Gives (args.text name) := by
  simp [Offers, Parameter.text, Parameter.mandatory]

@[simp] theorem offers_number :
    args.Offers (.number name description) ↔ Gives (args.number? name) :=
  Iff.rfl

@[simp] theorem offers_page : args.Offers .page ↔ Gives (args.number? "page") :=
  Iff.rfl

@[simp] theorem offers_size {usual : Nat} :
    args.Offers (.size usual) ↔ Gives (args.number? "size") :=
  Iff.rfl

@[simp] theorem offers_flag : args.Offers (.flag name description) ↔ Gives (args.flag? name) :=
  Iff.rfl

@[simp] theorem offers_texts : args.Offers (.texts name description) ↔ Gives (args.list? name) := by
  simp [Offers, Parameter.texts]

@[simp] theorem offers_mandatory_texts :
    args.Offers (.mandatory (.texts name description)) ↔
      Gives (args.list? name) ∧ Gives (args.list name) := by
  simp [Offers, Parameter.texts, Parameter.mandatory]

@[simp] theorem offers_choice :
    args.Offers (.choice name description values) ↔ Gives (args.oneOf? name values) := by
  simp [Offers, Parameter.choice]

@[simp] theorem offers_mandatory_choice :
    args.Offers (.mandatory (.choice name description values)) ↔
      Gives (args.oneOf? name values) ∧
        ((∀ s ∈ values, Text.isBlank s = false) → ¬ args.IsUnsaid name) := by
  simp [Offers, Parameter.choice, Parameter.mandatory]

@[simp] theorem offers_mentions :
    args.Offers ⟨"mention_members", .mentions, description, false⟩ ↔
      ∀ text, Gives (Suite.Messenger.withMentions args text) := by
  simp [Offers]

end Arguments

/-! ## The tools -/

namespace Suite

/-- A call of one of the two tools that change only what is given, with nothing given. -/
def Idle (name : String) (args : Arguments) : Prop :=
  name = "dooray_wiki_update_page" ∧ args.IsUnsaid "subject" ∧ args.IsUnsaid "body" ∧
      args.value? "referrer_member_ids" = none ∨
    name = "dooray_drive_update_shared_link" ∧ args.IsUnsaid "expired_at" ∧ args.IsUnsaid "scope"

variable {tool : Tool} {args : Arguments}

@[simp] theorem optional_eq_nil_iff {name : String} {value : Option Json} :
    Members.optional name value = [] ↔ value = none := by
  cases value <;> simp [Members.optional]

/-- Without a change to a page there is nothing to ask for. -/
theorem Wiki.updatePage_cases
    (offers : ∀ parameter ∈ Wiki.updatePage.parameters, args.Offers parameter) :
    (Idle Wiki.updatePage.name args →
      ∃ hint, Wiki.updatePage.plan args = .error (nothingToUpdate hint)) ∧
    (¬ Idle Wiki.updatePage.name args → Gives (Wiki.updatePage.plan args)) := by
  simp only [Wiki.updatePage, List.forall_mem_cons, Arguments.offers_mandatory_text,
    Arguments.offers_text, Arguments.offers_texts] at offers
  obtain ⟨⟨-, wikiId, wiki⟩, ⟨-, pageId, page⟩, ⟨subject, title⟩, ⟨body, content⟩,
    ⟨referrers, notified⟩, -⟩ := offers
  have idle : Idle Wiki.updatePage.name args ↔ subject = none ∧ body = none ∧ referrers = none := by
    simp [Idle, Wiki.updatePage, ← Arguments.text?_eq_none_iff, ← Arguments.list?_eq_none_iff,
      title, content, notified]
  rw [idle]
  by_cases nothing : subject = none ∧ body = none ∧ referrers = none
  · refine ⟨fun _ => ?_, fun busy => absurd nothing busy⟩
    obtain ⟨rfl, rfl, rfl⟩ := nothing
    refine ⟨"give at least one of subject, body or referrer_member_ids", ?_⟩
    simp only [Wiki.updatePage, Wiki.referrers, wiki, page, title, content, notified]
    rfl
  · refine ⟨fun idle => absurd idle nothing, fun _ => ?_⟩
    simp [Wiki.updatePage, Wiki.referrers, wiki, page, title, content, notified, nothing]

/-- Without a change to a shared link there is nothing to ask for. -/
theorem Drive.updateSharedLink_cases
    (offers : ∀ parameter ∈ Drive.updateSharedLink.parameters, args.Offers parameter) :
    (Idle Drive.updateSharedLink.name args →
      ∃ hint, Drive.updateSharedLink.plan args = .error (nothingToUpdate hint)) ∧
    (¬ Idle Drive.updateSharedLink.name args → Gives (Drive.updateSharedLink.plan args)) := by
  simp only [Drive.updateSharedLink, Drive.linkParameters, Drive.driveParameter,
    List.cons_append, List.nil_append, List.forall_mem_cons, Arguments.offers_mandatory_text,
    Arguments.offers_text, Arguments.offers_choice] at offers
  obtain ⟨⟨-, driveId, drive⟩, ⟨-, fileId, file⟩, ⟨-, linkId, link⟩, ⟨expiry, expires⟩,
    ⟨scope, opens⟩, -⟩ := offers
  have idle : Idle Drive.updateSharedLink.name args ↔ expiry = none ∧ scope = none := by
    rw [Idle, ← Arguments.text?_eq_none_iff,
      ← @Arguments.oneOf?_eq_none_iff args "scope" Drive.linkScopes]
    simp [Drive.updateSharedLink, ← Arguments.text?_eq_none_iff, expires, opens]
  rw [idle]
  by_cases nothing : expiry = none ∧ scope = none
  · refine ⟨fun _ => ?_, fun busy => absurd nothing busy⟩
    obtain ⟨rfl, rfl⟩ := nothing
    refine ⟨"give expired_at and/or scope", ?_⟩
    simp only [Drive.updateSharedLink, drive, file, link, expires, opens]
    rfl
  · refine ⟨fun idle => absurd idle nothing, fun _ => ?_⟩
    simp [Drive.updateSharedLink, drive, file, link, expires, opens, nothing]

theorem Messenger.gives_createChannel
    (offers : ∀ parameter ∈ Messenger.createChannel.parameters, args.Offers parameter) :
    Gives (Messenger.createChannel.plan args) := by
  simp only [Messenger.createChannel, List.forall_mem_cons, Arguments.offers_mandatory_choice,
    Arguments.offers_text, Arguments.offers_texts, Arguments.offers_number,
    Arguments.offers_choice] at offers
  obtain ⟨⟨⟨kind, chosen⟩, said⟩, title, members, capacity, idType, -⟩ := offers
  have given : kind ≠ none := by
    rintro rfl
    exact said (by decide) (Arguments.oneOf?_eq_none_iff.mp chosen)
  obtain ⟨kind, rfl⟩ := Option.ne_none_iff_exists'.mp given
  simp [Messenger.createChannel, chosen, title, members, capacity, idType]

theorem Wiki.gives_plan (shipped : tool ∈ Wiki.tools) (busy : ¬ Idle tool.name args) :
    (∀ parameter ∈ tool.parameters, args.Offers parameter) → Gives (tool.plan args) := by
  simp only [Wiki.tools, List.mem_cons, List.not_mem_nil, or_false] at shipped
  rcases shipped with rfl | rfl | rfl | rfl | rfl
  · simp +contextual [Wiki.listProjects]
  · simp +contextual [Wiki.listPages]
  · simp +contextual [Wiki.getPage]
  · simp +contextual [Wiki.createPage, Wiki.referrers]
  · exact fun offers => (Wiki.updatePage_cases offers).2 busy

theorem Project.gives_plan (shipped : tool ∈ Project.tools) :
    (∀ parameter ∈ tool.parameters, args.Offers parameter) → Gives (tool.plan args) := by
  simp only [Project.tools, List.mem_cons, List.not_mem_nil, or_false] at shipped
  rcases shipped with rfl | rfl | rfl | rfl | rfl | rfl | rfl | rfl | rfl | rfl | rfl
  · simp +contextual [Project.listProjects]
  · simp +contextual [Project.listPosts]
  · simp +contextual [Project.getPost, Project.taskParameters]
  · simp +contextual [Project.createPost, Project.writtenParameters, Project.writtenPost]
  · simp +contextual [Project.updatePost, Project.writtenParameters, Project.writtenPost]
  · simp +contextual [Project.setPostWorkflow, Project.taskParameters]
  · simp +contextual [Project.setPostDone, Project.taskParameters]
  · simp +contextual [Project.createPostComment, Project.taskParameters, Project.writtenComment]
  · simp +contextual [Project.getPostComments, Project.taskParameters]
  · simp +contextual [Project.updatePostComment, Project.taskParameters, Project.writtenComment]
  · simp +contextual [Project.deletePostComment, Project.taskParameters]

theorem Messenger.gives_plan (shipped : tool ∈ Messenger.tools) :
    (∀ parameter ∈ tool.parameters, args.Offers parameter) → Gives (tool.plan args) := by
  simp only [Messenger.tools, List.mem_cons, List.not_mem_nil, or_false] at shipped
  rcases shipped with rfl | rfl | rfl | rfl | rfl | rfl | rfl | rfl | rfl | rfl | rfl | rfl
  · simp +contextual [Messenger.searchMembers]
  · simp +contextual [Messenger.sendDirectMessage]
  · simp +contextual [Messenger.getChannels, Messenger.channelListParameters, Messenger.channelList]
  · simp +contextual [Messenger.getSimpleChannels, Messenger.channelListParameters,
      Messenger.channelList]
  · simp +contextual [Messenger.getChannel, Messenger.channelParameter]
  · simp +contextual [Messenger.sendChannelMessage, Messenger.channelParameter]
  · exact Messenger.gives_createChannel
  · simp +contextual [Messenger.joinChannel, Messenger.membershipParameters,
      Messenger.channelParameter, Messenger.changeMembership]
  · simp +contextual [Messenger.leaveChannel, Messenger.membershipParameters,
      Messenger.channelParameter, Messenger.changeMembership]
  · simp +contextual [Messenger.createThread, Messenger.channelParameter]
  · simp +contextual [Messenger.updateMessage, Messenger.channelParameter]
  · simp +contextual [Messenger.deleteMessage, Messenger.channelParameter]

theorem Calendar.gives_plan (shipped : tool ∈ Calendar.tools) :
    (∀ parameter ∈ tool.parameters, args.Offers parameter) → Gives (tool.plan args) := by
  simp only [Calendar.tools, List.mem_cons, List.not_mem_nil, or_false] at shipped
  rcases shipped with rfl | rfl | rfl | rfl | rfl
  · simp +contextual [Calendar.listCalendars]
  · simp +contextual [Calendar.calendarDetail]
  · simp +contextual [Calendar.calendarEvents]
  · simp +contextual [Calendar.eventDetail]
  · simp +contextual [Calendar.createEvent]

theorem Drive.gives_plan (shipped : tool ∈ Drive.tools) (busy : ¬ Idle tool.name args) :
    (∀ parameter ∈ tool.parameters, args.Offers parameter) → Gives (tool.plan args) := by
  simp only [Drive.tools, List.mem_cons, List.not_mem_nil, or_false] at shipped
  rcases shipped with rfl | rfl | rfl | rfl | rfl | rfl | rfl | rfl | rfl | rfl | rfl | rfl | rfl |
    rfl | rfl | rfl
  · simp +contextual [Drive.listDrives]
  · simp +contextual [Drive.driveDetail, Drive.driveParameter]
  · simp +contextual [Drive.listFiles, Drive.driveParameter]
  · simp +contextual [Drive.driveChanges, Drive.driveParameter]
  · simp +contextual [Drive.fileMetadata, Drive.fileParameters, Drive.driveParameter]
  · simp +contextual [Drive.createFolder, Drive.driveParameter]
  · simp +contextual [Drive.renameFile, Drive.fileParameters, Drive.driveParameter]
  · simp +contextual [Drive.copyFile, Drive.fileParameters, Drive.driveParameter]
  · simp +contextual [Drive.moveFile, Drive.fileParameters, Drive.driveParameter]
  · simp +contextual [Drive.moveToTrash, Drive.fileParameters, Drive.driveParameter]
  · simp +contextual [Drive.deleteFile, Drive.fileParameters, Drive.driveParameter]
  · simp +contextual [Drive.createSharedLink, Drive.fileParameters, Drive.driveParameter]
  · simp +contextual [Drive.sharedLinks, Drive.fileParameters, Drive.driveParameter]
  · simp +contextual [Drive.sharedLinkDetail, Drive.linkParameters, Drive.driveParameter]
  · exact fun offers => (Drive.updateSharedLink_cases offers).2 busy
  · simp +contextual [Drive.deleteSharedLink, Drive.linkParameters, Drive.driveParameter]

theorem gives_plan (shipped : tool ∈ tools) (busy : ¬ Idle tool.name args)
    (offers : ∀ parameter ∈ tool.parameters, args.Offers parameter) : Gives (tool.plan args) := by
  simp only [tools, List.mem_append] at shipped
  rcases shipped with (((wiki | project) | messenger) | calendar) | drive
  · exact Wiki.gives_plan wiki busy offers
  · exact Project.gives_plan project offers
  · exact Messenger.gives_plan messenger offers
  · exact Calendar.gives_plan calendar offers
  · exact Drive.gives_plan drive busy offers

theorem nodup_names : (tools.map Tool.name).Nodup := by
  decide +kernel

/-- With nothing to change, the tools that change only what is given say so. -/
theorem plan_idle (shipped : tool ∈ tools) (idle : Idle tool.name args)
    (offers : ∀ parameter ∈ tool.parameters, args.Offers parameter) :
    ∃ hint, tool.plan args = .error (nothingToUpdate hint) := by
  have named : ∀ other ∈ tools, tool.name = other.name → tool = other := fun other also =>
    List.inj_on_of_nodup_map nodup_names shipped also
  have which := idle
  rcases which with ⟨name, -⟩ | ⟨name, -⟩
  · obtain rfl := named Wiki.updatePage (by simp [tools, Wiki.tools]) name
    exact (Wiki.updatePage_cases offers).1 idle
  · obtain rfl := named Drive.updateSharedLink (by simp [tools, Drive.tools]) name
    exact (Drive.updateSharedLink_cases offers).1 idle

/-- **A tool does what its schema promises.** With arguments that are valid against the published
schema and say something where something is required, every tool of the suite asks for what it is
about. The only exception are the two tools that change what is given, with nothing given: they end
at once and say so. -/
theorem asks_of_accepts (shipped : tool ∈ tools)
    (filled : ∀ parameter ∈ tool.parameters, args.isFilled parameter = true)
    (valid : tool.toCapability.descriptor.schema.accepts (.object args.members) = true) :
    (¬ Idle tool.name args → ∃ plan, tool.toCapability.run args = .asks plan) ∧
    (Idle tool.name args → ∃ fault, tool.toCapability.run args = .ends (.returned (.error fault)) ∧
      fault.code = some "NOTHING_TO_UPDATE") := by
  have offers := Arguments.offers_of_accepts filled valid
  constructor
  · intro busy
    obtain ⟨plan, planned⟩ := gives_plan shipped busy offers
    exact ⟨plan, by simp only [Tool.toCapability, planned]⟩
  · intro idle
    obtain ⟨hint, refused⟩ := plan_idle shipped idle offers
    exact ⟨nothingToUpdate hint, by simp only [Tool.toCapability, refused], rfl⟩

/-- A task with everything that is required, a list with a blank entry, a version and a member that
no schema mentions. -/
def versionedPost : Arguments := ⟨[
  ("project_id", .string "1"), ("post_id", .string "2"), ("subject", .string "s"),
  ("body", .string "b"), ("to_member_ids", .texts [" ", "3"]), ("priority", .string "high"),
  ("version", .nat 4), ("other", .null)]⟩

/-- A page of which nothing is to be changed. -/
def unchangedPage : Arguments :=
  ⟨[("wiki_id", .string "1"), ("page_id", .string "2"), ("subject", .string " ")]⟩

/-- A task is replaced, and a page without changes is not. -/
theorem asks_of_accepts_versionedPost :
    (∃ plan, Project.updatePost.toCapability.run versionedPost = .asks plan) ∧
    ∃ fault, Wiki.updatePage.toCapability.run unchangedPage = .ends (.returned (.error fault)) ∧
      fault.code = some "NOTHING_TO_UPDATE" := by
  have task := @asks_of_accepts Project.updatePost versionedPost (by simp [tools, Project.tools])
    (by decide +kernel) (by decide +kernel)
  have page := @asks_of_accepts Wiki.updatePage unchangedPage (by simp [tools, Wiki.tools])
    (by decide +kernel) (by decide +kernel)
  refine ⟨task.1 ?_, page.2 ?_⟩
  · simp [Idle, Project.updatePost]
  · refine Or.inl ⟨rfl, Or.inr ⟨" ", rfl, by decide⟩, Or.inl rfl, rfl⟩

end Suite

end SuiteBridge
