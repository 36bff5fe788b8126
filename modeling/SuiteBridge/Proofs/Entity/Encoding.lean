import SuiteBridge.Entity.Channel
import SuiteBridge.Entity.Post
import SuiteBridge.Proofs.Json.Filling

/-!
# Entities and their encodings

What is decoded from the encoding of an entity is that entity again (`Json.Regained`): a channel and
a task with all that belongs to them. The three ways in which an encoding says that there is
nothing, a member left out, a null and an empty list, each come back as what they stand for, and the
members that an entity keeps beside its own come back in their order.

This needs that none of the members kept bears a name that the entity knows (`Channel.IsTidy`,
`Post.IsTidy`): such a one would be taken for what it is not.
-/

namespace SuiteBridge

namespace Json

/-- Decoding the encoding of a value gives that value. -/
def Regained {α : Type} (decoder : Decoder α) (encode : α → Json) (a : α) : Prop :=
  decoder.ofValue (encode a) = .ok a

namespace Regained

variable {α : Type} {decoder : Decoder α} {encode : α → Json} {name : String}

@[simp] theorem text (s : String) : Regained .text .string s :=
  rfl

theorem list {as : List α} (regained : ∀ a ∈ as, Regained decoder encode a) :
    Regained (.list decoder) (fun as => .array (as.map encode)) as := by
  change (as.map encode).mapM decoder.ofValue = .ok as
  induction as with
  | nil => rfl
  | cons a as ih =>
      obtain ⟨first, others⟩ := List.forall_mem_cons.mp regained
      rw [List.map_cons, List.mapM_cons, show decoder.ofValue (encode a) = .ok a from first,
        ih others]
      rfl

/-- A member that is left out for nothing fills its slot with what it was made of. -/
theorem given_optional {found : Option α} (regained : ∀ a ∈ found, Regained decoder encode a)
    (stated : ∀ a, encode a ≠ .null) :
    (⟨name, .optional decoder, some none, none⟩ : Slot (Option α)).given
      (found.map encode).toList = .ok found := by
  rw [Slot.given_optional]
  cases found with
  | none => exact .inl ⟨.inl rfl, rfl⟩
  | some a => exact .inr ⟨encode a, a, rfl, stated a, regained a rfl, rfl⟩

/-- So does a member that is null for nothing. -/
theorem given_orNull {found : Option α} (regained : ∀ a ∈ found, Regained decoder encode a)
    (stated : ∀ a, encode a ≠ .null) :
    (⟨name, .optional decoder, some none, none⟩ : Slot (Option α)).given
      [.orNull (found.map encode)] = .ok found := by
  rw [Slot.given_optional]
  cases found with
  | none => exact .inl ⟨.inr rfl, rfl⟩
  | some a => exact .inr ⟨encode a, a, rfl, stated a, regained a rfl, rfl⟩

@[simp] theorem given_text (s : String) :
    (⟨name, .text, none, none⟩ : Slot String).given [.string s] = .ok s :=
  rfl

@[simp] theorem given_optional_text (found : Option String) :
    (⟨name, .optional .text, some none, none⟩ : Slot (Option String)).given
      (found.map .string).toList = .ok found :=
  given_optional (fun s _ => text s) fun _ => nofun

@[simp] theorem given_textOrNull (found : Option String) :
    (⟨name, .optional .text, some none, none⟩ : Slot (Option String)).given
      [.textOrNull found] = .ok found :=
  given_orNull (fun s _ => text s) fun _ => nofun

end Regained

theorem text_eq_ok {value : Json} {s : String} :
    Decoder.text.ofValue value = .ok s ↔ value = .string s := by
  cases value <;> simp [Decoder.text, refuseValue]

/-- A list of any values is decoded from an array, to its items. -/
theorem list_any_eq_ok {value : Json} {items : List Json} :
    (Decoder.list .any).ofValue value = .ok items ↔ value = .array items := by
  cases value with
  | array own =>
      have kept : Regained (.list .any) (fun own => .array (own.map id)) own :=
        Regained.list fun _ _ => rfl
      rw [Regained, List.map_id] at kept
      simp [kept]
  | _ => simp [Decoder.list, refuseValue]

section Forms

variable {γ : Type} {form : Form γ} {own extra : Members}

/-- Members kept beside a form are not found under the names of its slots. -/
theorem Form.named_eq_nil (tidy : ∀ member ∈ extra, form.knows member.1 = false) {name : String}
    (known : form.knows name = true) : extra.named name = [] := by
  refine Members.named_eq_nil fun member kept same => ?_
  rw [← same, tidy member kept] at known
  cases known

/-- Behind members that all have a slot, the others are those that have none. -/
theorem Form.others_append (known : ∀ member ∈ own, form.knows member.1 = true)
    (tidy : ∀ member ∈ extra, form.knows member.1 = false) :
    form.others (own ++ extra) = extra := by
  unfold others
  rw [List.filter_append, List.filter_eq_nil_iff.mpr, List.filter_eq_self.mpr, List.nil_append]
  · exact fun member kept => by simp [tidy member kept]
  · exact fun member stated => by simp [known member stated]

end Forms

end Json

theorem Members.forall_mem_optional {p : String × Json → Prop} {name : String}
    {value : Option Json} :
    (∀ member ∈ optional name value, p member) ↔ ∀ found ∈ value, p (name, found) := by
  cases value <;> simp [optional]

theorem Members.map_fst_optional_sublist (name : String) (value : Option Json) :
    ((optional name value).map Prod.fst).Sublist [name] := by
  cases value <;> simp [optional]

theorem Members.lookup_optional_append (name key : String) (value : Option Json)
    (members : Members) :
    (optional key value ++ members).lookup name =
      if name = key then value <|> members.lookup name else members.lookup name := by
  cases value with
  | none => simp [optional]
  | some value =>
      by_cases same : name = key
      · simp [optional, same]
      · simp [optional, same, List.lookup_cons, beq_false_of_ne same]

open Json (Form Regained Slot)

/-! ## Channels -/

namespace Roster

theorem regained (roster : Roster) : Regained decoder toJson roster := by
  unfold Regained decoder toJson
  rw [Json.Decoder.record_ofValue_eq_make, Json.map_eq_ok]
  refine ⟨(roster.participants, ()), ?_, rfl⟩
  rw [Form.make_defaulting]
  exact ⟨Json.list_any_eq_ok.mpr rfl, Form.make_done _⟩

end Roster

namespace Channel

/-- The members that a channel keeps as they are bear no name that it knows. -/
def IsTidy (channel : Channel) : Prop :=
  ∀ member ∈ channel.extra, form.knows member.1 = false

theorem knows_eq_true_iff {name : String} :
    form.knows name = true ↔
      name ∈ ["id", "title", "type", "status", "users", "createdAt", "updatedAt"] := by
  simp [form, Form.knows, Form.required, Form.defaulting, @eq_comm _ name]

/-- What the members of an object make of a channel: each slot is filled by what is under its name,
and the rest is kept. -/
structure MadeOf (members : Members) (channel : Channel) : Prop where
  id : (⟨"id", .text, none, none⟩ : Slot _).given (members.named "id") = .ok channel.id
  title : (⟨"title", .optional .text, some none, none⟩ : Slot _).given (members.named "title") =
    .ok channel.title
  kind : (⟨"type", .optional .text, some none, none⟩ : Slot _).given (members.named "type") =
    .ok channel.kind
  status : (⟨"status", .optional .text, some none, none⟩ : Slot _).given
    (members.named "status") = .ok channel.status
  users : (⟨"users", .optional Roster.decoder, some none, none⟩ : Slot _).given
    (members.named "users") = .ok channel.users
  createdAt : (⟨"createdAt", .optional .text, some none, none⟩ : Slot _).given
    (members.named "createdAt") = .ok channel.createdAt
  updatedAt : (⟨"updatedAt", .optional .text, some none, none⟩ : Slot _).given
    (members.named "updatedAt") = .ok channel.updatedAt
  extra : form.others members = channel.extra

theorem ofValue_eq_ok {members : Members} {channel : Channel} :
    decoder.ofValue (.object members) = .ok channel ↔ MadeOf members channel := by
  unfold decoder
  rw [Json.Decoder.openRecord_ofValue_eq_make, Json.map_eq_ok]
  constructor
  · rintro ⟨⟨id, title, kind, status, users, createdAt, updatedAt, ⟨⟩⟩, made, rfl⟩
    simp only [form, Form.make_required, Form.make_defaulting, Form.make_done, and_true,
      Members.named_without, ne_eq, String.reduceEq, not_false_eq_true] at made
    obtain ⟨id, title, kind, status, users, createdAt, updatedAt⟩ := made
    exact ⟨id, title, kind, status, users, createdAt, updatedAt, rfl⟩
  · intro made
    refine ⟨(channel.id, channel.title, channel.kind, channel.status, channel.users,
      channel.createdAt, channel.updatedAt, ()), ?_, by rw [made.extra]⟩
    simp [form, Form.make_required, Form.make_defaulting, Form.make_done, made.id, made.title,
      made.kind, made.status, made.users, made.createdAt, made.updatedAt]

/-- **A channel is regained from its encoding.** -/
theorem regained {channel : Channel} (tidy : channel.IsTidy) :
    Regained decoder toJson channel := by
  have nothing : ∀ name, form.knows name = true → channel.extra.named name = [] :=
    fun _ => Form.named_eq_nil tidy
  simp only [knows_eq_true_iff, List.forall_mem_cons] at nothing
  have users : (⟨"users", .optional Roster.decoder, some none, none⟩ : Slot _).given
      (channel.users.map Roster.toJson).toList = .ok channel.users :=
    Regained.given_optional (fun roster _ => roster.regained) fun _ => nofun
  unfold Regained toJson
  rw [ofValue_eq_ok]
  constructor
  case extra =>
    refine Form.others_append ?_ tidy
    simp only [List.forall_mem_append, List.forall_mem_cons, Members.forall_mem_optional]
    simp [knows_eq_true_iff]
  all_goals simp [nothing, users]

theorem lookup_extra {channel : Channel} (tidy : channel.IsTidy) {name : String}
    (known : form.knows name = true) : channel.extra.lookup name = none := by
  rw [← Members.head?_named, Form.named_eq_nil tidy known]
  rfl

/-- A member of the encoding is the one that the channel has for it, or none. -/
theorem member?_toJson {channel : Channel} (tidy : channel.IsTidy) :
    channel.toJson.member? "id" = some (.string channel.id) ∧
    channel.toJson.member? "title" = channel.title.map .string ∧
    channel.toJson.member? "type" = channel.kind.map .string ∧
    channel.toJson.member? "status" = channel.status.map .string ∧
    channel.toJson.member? "users" = channel.users.map Roster.toJson ∧
    channel.toJson.member? "createdAt" = channel.createdAt.map .string ∧
    channel.toJson.member? "updatedAt" = channel.updatedAt.map .string := by
  have title := lookup_extra tidy (show form.knows "title" = true from rfl)
  have type := lookup_extra tidy (show form.knows "type" = true from rfl)
  have status := lookup_extra tidy (show form.knows "status" = true from rfl)
  have users := lookup_extra tidy (show form.knows "users" = true from rfl)
  have createdAt := lookup_extra tidy (show form.knows "createdAt" = true from rfl)
  have updatedAt := lookup_extra tidy (show form.knows "updatedAt" = true from rfl)
  simp [toJson, Json.member?, List.lookup_cons, Members.lookup_optional_append, title, type, status,
    users, createdAt, updatedAt]

/-- A member that the channel does not know is the one kept. -/
theorem member?_toJson_of_not_knows {channel : Channel} {name : String}
    (unknown : form.knows name = false) :
    channel.toJson.member? name = channel.extra.lookup name := by
  have other : name ∉ _ := fun listed => by
    rw [knows_eq_true_iff.mpr listed] at unknown
    cases unknown
  simp only [List.mem_cons, not_or] at other
  simp [toJson, Json.member?, List.lookup_cons, Members.lookup_optional_append, other,
    beq_false_of_ne other.1]

end Channel

/-! ## Tasks -/

theorem Member.regained (member : Member) : Regained decoder toJson member := by
  unfold Regained decoder toJson
  rw [Json.Decoder.record_ofValue_eq_make, Json.map_eq_ok]
  refine ⟨(member.organizationMemberId, member.name, ()), ?_, rfl⟩
  simp [Form.make_required, Form.make_defaulting, Form.make_done]

theorem Workflow.regained (workflow : Workflow) : Regained decoder toJson workflow := by
  unfold Regained decoder toJson
  rw [Json.Decoder.record_ofValue_eq_make, Json.map_eq_ok]
  refine ⟨(workflow.id, workflow.name, ()), ?_, rfl⟩
  simp [Form.make_required, Form.make_defaulting, Form.make_done]

namespace Addressee

/-- The members that an addressee keeps as they are bear no name that it knows. -/
def IsTidy (addressee : Addressee) : Prop :=
  ∀ member ∈ addressee.extra, form.knows member.1 = false

theorem knows_eq_true_iff {name : String} :
    form.knows name = true ↔ name ∈ ["type", "member"] := by
  simp [form, Form.knows, Form.required, Form.defaulting, @eq_comm _ name]

theorem regained {addressee : Addressee} (tidy : addressee.IsTidy) :
    Regained decoder toJson addressee := by
  have nothing : ∀ name, form.knows name = true → addressee.extra.named name = [] :=
    fun _ => Form.named_eq_nil tidy
  simp only [knows_eq_true_iff, List.forall_mem_cons] at nothing
  have member : (⟨"member", .optional Member.decoder, some none, none⟩ : Slot _).given
      (addressee.member.map Member.toJson).toList = .ok addressee.member :=
    Regained.given_optional (fun member _ => member.regained) fun _ => nofun
  unfold Regained decoder toJson
  rw [Json.Decoder.openRecord_ofValue_eq_make, Json.map_eq_ok]
  refine ⟨(addressee.kind, addressee.member, ()), ?_, ?_⟩
  · simp [form, Form.make_required, Form.make_defaulting, Form.make_done, nothing, member]
  · rw [Form.others_append ?_ tidy]
    simp only [List.forall_mem_cons, Members.forall_mem_optional]
    simp [knows_eq_true_iff]

end Addressee

namespace Addressees

/-- Everyone among the people of a task is tidy. -/
structure IsTidy (addressees : Addressees) : Prop where
  sender : ∀ addressee ∈ addressees.sender, addressee.IsTidy
  recipients : ∀ addressee ∈ addressees.recipients, addressee.IsTidy
  cc : ∀ addressee ∈ addressees.cc, addressee.IsTidy

theorem regained {addressees : Addressees} (tidy : addressees.IsTidy) :
    Regained decoder toJson addressees := by
  have sender : (⟨"from", .optional Addressee.decoder, some .none, .none⟩ : Slot _).given
      (addressees.sender.map Addressee.toJson).toList = .ok addressees.sender :=
    Regained.given_optional
      (fun addressee found => Addressee.regained (tidy.sender addressee found)) fun _ => nofun
  have recipients : (⟨"to", .list Addressee.decoder, some [], .none⟩ : Slot _).given
      [.array (addressees.recipients.map Addressee.toJson)] = .ok addressees.recipients :=
    Regained.list fun addressee found => Addressee.regained (tidy.recipients addressee found)
  have cc : (⟨"cc", .list Addressee.decoder, some [], .none⟩ : Slot _).given
      [.array (addressees.cc.map Addressee.toJson)] = .ok addressees.cc :=
    Regained.list fun addressee found => Addressee.regained (tidy.cc addressee found)
  unfold Regained decoder toJson
  rw [Json.Decoder.record_ofValue_eq_make, Json.map_eq_ok]
  refine ⟨(addressees.sender, addressees.recipients, addressees.cc, ()), ?_, rfl⟩
  simp [Form.make_defaulting, Form.make_done, sender, recipients, cc]

end Addressees

namespace Post

/-- The members that a task keeps as they are bear no name that it knows, and everyone among its
people is tidy. -/
structure IsTidy (post : Post) : Prop where
  own : ∀ member ∈ post.extra, form.knows member.1 = false
  users : post.users.IsTidy

theorem knows_eq_true_iff {name : String} :
    form.knows name = true ↔
      name ∈ ["id", "subject", "taskNumber", "workflowClass", "workflow", "users", "priority",
        "dueDate", "createdAt", "updatedAt"] := by
  simp [form, Form.knows, Form.required, Form.defaulting, @eq_comm _ name]

/-- **A task is regained from its encoding.** -/
theorem regained {post : Post} (tidy : post.IsTidy) : Regained decoder toJson post := by
  have nothing : ∀ name, form.knows name = true → post.extra.named name = [] :=
    fun _ => Form.named_eq_nil tidy.own
  simp only [knows_eq_true_iff, List.forall_mem_cons] at nothing
  have workflow : (⟨"workflow", .optional Workflow.decoder, some none, none⟩ : Slot _).given
      [.orNull (post.workflow.map Workflow.toJson)] = .ok post.workflow :=
    Regained.given_orNull (fun workflow _ => workflow.regained) fun _ => nofun
  have users : (⟨"users", Addressees.decoder, some .none, none⟩ : Slot _).given
      [post.users.toJson] = .ok post.users :=
    Addressees.regained tidy.users
  unfold Regained decoder toJson
  rw [Json.Decoder.openRecord_ofValue_eq_make, Json.map_eq_ok]
  refine ⟨(post.id, post.subject, post.taskNumber, post.workflowClass, post.workflow, post.users,
    post.priority, post.dueDate, post.createdAt, post.updatedAt, ()), ?_, ?_⟩
  · simp [form, Form.make_required, Form.make_defaulting, Form.make_done, nothing, workflow, users]
  · rw [Form.others_append ?_ tidy.own]
    simp [knows_eq_true_iff]

end Post

/-! ## Both -/

/-- **Decoding undoes encoding.** Every channel and every task is regained from its encoding, as
long as the members kept beside the known ones bear names of their own. -/
theorem entities_regained :
    (∀ channel : Channel, channel.IsTidy →
      Channel.decoder.ofValue channel.toJson = .ok channel) ∧
    ∀ post : Post, post.IsTidy → Post.decoder.ofValue post.toJson = .ok post :=
  ⟨fun _ tidy => Channel.regained tidy, fun _ tidy => Post.regained tidy⟩

/-- A channel without a title, with an empty roster and two members of its own. -/
def unnamedChannel : Channel where
  id := "c-1"
  title := none
  kind := some "private"
  status := none
  users := some ⟨[]⟩
  createdAt := none
  updatedAt := some "2024-02-29T06:00:00+09:00"
  extra := [("me", .object [("role", .string "member"), ("id", .null)]), ("capacity", .nat 100)]

/-- A task from a member to a group and a member, both with members of their own. -/
def sharedPost : Post where
  id := "p-1"
  subject := "release"
  taskNumber := none
  workflowClass := some "working"
  workflow := some ⟨"w-1", none⟩
  users := {
    sender := some ⟨"member", some ⟨"m-1", some "Ann"⟩, []⟩
    recipients := [
      ⟨"group", none, [("group", .object [("id", .string "g-1"), ("members", .array [])])]⟩,
      ⟨"member", some ⟨"m-2", none⟩, [("workflow", .null), ("id", .string "u-2")]⟩]
    cc := [] }
  priority := none
  dueDate := none
  createdAt := some "2024-02-29T06:00:00+09:00"
  updatedAt := none
  extra := [("tags", .array [.nat 7, .string "a"]), ("parent", .null)]

theorem entities_regained_shared :
    unnamedChannel.IsTidy ∧ sharedPost.IsTidy ∧
    Channel.decoder.ofValue unnamedChannel.toJson = .ok unnamedChannel ∧
    Post.decoder.ofValue sharedPost.toJson = .ok sharedPost := by
  have channel : unnamedChannel.IsTidy := by
    unfold Channel.IsTidy
    decide
  have post : sharedPost.IsTidy := by
    refine ⟨by decide, ⟨?_, ?_, ?_⟩⟩ <;> unfold Addressee.IsTidy <;> decide
  exact ⟨channel, post, entities_regained.1 _ channel, entities_regained.2 _ post⟩

end SuiteBridge
