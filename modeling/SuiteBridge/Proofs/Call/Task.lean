import SuiteBridge.Proofs.Call.Endings
import SuiteBridge.Proofs.Call.Schema
import SuiteBridge.Proofs.Entity.Encoding

/-!
# Tasks as they are written

One tool creates a task, and another one replaces what is written in it. Both send a document with
the same members. `Portrays` says, member by member, what such a document has of the arguments; it
holds of every document that is written from them (`Project.locally_portrays`). When nothing is
said of a parent or a version, both tools send one and the same document or fail with the same
fault (`Project.written_alike`).
-/

namespace SuiteBridge

/-! ## What arguments say -/

namespace Arguments

/-- An argument says a text: a text that is not blank says itself, and a number its own text. -/
inductive Says (args : Arguments) (name : String) : String → Prop where
  | text {s : String} (given : args.value? name = some (.string s))
      (visible : Text.isBlank s = false) : Says args name s
  | number {n : Number} (given : args.value? name = some (.number n)) :
      Says args name (String.ofList n.text)

/-- An argument chooses a text: it says it, or the text is the usual one and nothing is said. -/
def Chooses (args : Arguments) (name usual s : String) : Prop :=
  args.Says name s ∨ args.IsUnsaid name ∧ s = usual

variable {args : Arguments} {name s : String}

theorem text?_eq_some_iff : args.text? name = .ok (some s) ↔ args.Says name s := by
  constructor
  · intro read
    unfold text? at read
    split at read
    · cases read
    · rename_i own given
      cases blank : Text.isBlank own with
      | true => simp [blank] at read
      | false =>
          rw [blank] at read
          cases read
          exact .text given blank
    · rename_i n given
      cases read
      exact .number given
    · cases read
  · intro said
    cases said with
    | text given visible => simp [text?, given, visible]
    | number given => simp [text?, given]

theorem text_eq_ok_iff : args.text name = .ok s ↔ args.Says name s := by
  rw [← text?_eq_some_iff]
  unfold text
  split <;> simp_all

theorem oneOf?_eq_some_iff {allowed : List String} :
    args.oneOf? name allowed = .ok (some s) ↔ args.Says name s ∧ s ∈ allowed := by
  rw [← text?_eq_some_iff]
  unfold oneOf?
  split
  · simp_all
  · simp_all
  · rename_i own given
    by_cases listed : own ∈ allowed <;> simp [given, listed]
    all_goals
      rintro rfl
      exact listed

theorem list_eq_ok_iff {entries : List String} :
    args.list name = .ok entries ↔ args.list? name = .ok (some entries) ∧ entries ≠ [] := by
  unfold list
  cases args.list? name with
  | error fault => simp
  | ok own =>
      rcases own with _ | _ | ⟨entry, others⟩
      · simp
      · simp [eq_comm]
      · simp only [Except.ok.injEq, Option.some.injEq, iff_self_and]
        rintro rfl
        exact List.cons_ne_nil entry others

/-- What was read of an argument is what it says, if it says something. -/
theorem map_string_eq_some_iff {given : Option String} (read : args.text? name = .ok given)
    (value : Json) :
    given.map Json.string = some value ↔ ∃ s, args.Says name s ∧ value = .string s := by
  simp only [← text?_eq_some_iff, read, Except.ok.injEq, Option.map_eq_some_iff, eq_comm]

/-- What is chosen, or else the usual one of those allowed. -/
theorem chooses_getD {allowed : List String} {usual : String} (listed : usual ∈ allowed)
    {choice : Option String} (read : args.oneOf? name allowed = .ok choice) :
    choice.getD usual ∈ allowed ∧ args.Chooses name usual (choice.getD usual) := by
  cases choice with
  | none => exact ⟨listed, Or.inr ⟨oneOf?_eq_none_iff.mp read, rfl⟩⟩
  | some s =>
      obtain ⟨said, allows⟩ := oneOf?_eq_some_iff.mp read
      exact ⟨allows, Or.inl said⟩

end Arguments

namespace Suite.Project

variable {args : Arguments}

/-! ## What is written -/

/-- A document has of some arguments what a task is written with: it has a flag for the day the task
is due, and otherwise what is said, listed and chosen. -/
structure Portrays (task : Members) (args : Arguments) : Prop where
  names : (task.map Prod.fst).Sublist
    ["users", "subject", "body", "dueDateFlag", "tagIds", "priority", "dueDate", "milestoneId"]
  subject : ∃ s, args.Says "subject" s ∧ task.lookup "subject" = some (.string s)
  body : ∃ mimeType content, mimeType ∈ mimeTypes ∧
    args.Chooses "mime_type" usualMimeType mimeType ∧ args.Says "body" content ∧
    task.lookup "body" = some (formatted mimeType content)
  users : ∃ recipients cc, args.list? "to_member_ids" = .ok (some recipients) ∧ recipients ≠ [] ∧
    args.list? "cc_member_ids" = .ok cc ∧ task.lookup "users" =
      some (.object [("to", memberEntries recipients), ("cc", memberEntries (cc.getD []))])
  tags : ∃ tags, args.list? "tag_ids" = .ok tags ∧
    task.lookup "tagIds" = some (.texts (tags.getD []))
  priority : ∃ s, s ∈ priorities ∧ args.Chooses "priority" "none" s ∧
    task.lookup "priority" = some (.string s)
  dueDate : ∀ value, task.lookup "dueDate" = some value ↔
    ∃ s, args.Says "due_date" s ∧ value = .string s
  flagged : task.lookup "dueDateFlag" = some (.bool (task.lookup "dueDate").isSome)
  milestone : ∀ value, task.lookup "milestoneId" = some value ↔
    ∃ s, args.Says "milestone_id" s ∧ value = .string s

/-- Either something of the arguments cannot be used, or all of it is written. -/
theorem locally_portrays (args : Arguments) :
    Locally (fun task => Portrays task args) (writtenPost args) := by
  simp only [writtenPost, locally_bind, Arguments.locally_text, Arguments.locally_list,
    Arguments.locally_list?, Arguments.locally_oneOf?, Arguments.locally_text?, locally_pure]
  intro subject subjectSaid content contentSaid recipients listed cc ccRead mimeType mimeTypeRead
    priority priorityRead dueDate dueDateRead tags tagsRead milestone milestoneRead
  obtain ⟨recipientsRead, filled⟩ := Arguments.list_eq_ok_iff.mp listed
  obtain ⟨formats, format⟩ :=
    Arguments.chooses_getD (by decide : usualMimeType ∈ mimeTypes) mimeTypeRead
  obtain ⟨ranks, rank⟩ := Arguments.chooses_getD (by decide : "none" ∈ priorities) priorityRead
  generalize written : ([("users", _), _, _, _, _, _] : Members)
    ++ Members.optional "dueDate" (dueDate.map .string)
    ++ Members.optional "milestoneId" (milestone.map .string) = task
  have due : task.lookup "dueDate" = dueDate.map .string := by
    rw [← written]
    cases dueDate <;> cases milestone <;> rfl
  have planned : task.lookup "milestoneId" = milestone.map .string := by
    rw [← written]
    cases dueDate <;> cases milestone <;> rfl
  constructor
  case names =>
    rw [← written, List.map_append, List.map_append]
    exact ((List.Sublist.refl _).append (Members.map_fst_optional_sublist _ _)).append
      (Members.map_fst_optional_sublist _ _)
  case subject =>
    exact ⟨subject, Arguments.text_eq_ok_iff.mp subjectSaid, written ▸ rfl⟩
  case body =>
    exact ⟨_, content, formats, format, Arguments.text_eq_ok_iff.mp contentSaid, written ▸ rfl⟩
  case users => exact ⟨recipients, cc, recipientsRead, filled, ccRead, written ▸ rfl⟩
  case tags => exact ⟨tags, tagsRead, written ▸ rfl⟩
  case priority => exact ⟨_, ranks, rank, written ▸ rfl⟩
  case dueDate =>
    rw [due]
    exact Arguments.map_string_eq_some_iff dueDateRead
  case flagged =>
    rw [due, Option.isSome_map, ← written]
    rfl
  case milestone =>
    rw [planned]
    exact Arguments.map_string_eq_some_iff milestoneRead

/-! ## Both tools -/

/-- A task that is no part of another one is created with what is written, and nothing else. -/
theorem createPost_plan {project : String} (within : args.Says "project_id" project)
    (apart : args.IsUnsaid "parent_post_id") :
    createPost.plan args = (writtenPost args).map fun task =>
      ⟨sending .post (postsPath project []) (.object task),
        .value fun created => ⟨created, "task created"⟩⟩ := by
  have projectRead := Arguments.text_eq_ok_iff.mpr within
  have parentRead := Arguments.text?_eq_none_iff.mpr apart
  simp only [createPost, projectRead, parentRead]
  cases writtenPost args with
  | error fault => rfl
  | ok task => simp [bind, Except.bind, pure, Except.pure, Except.map, Members.optional]

/-- A task of which no version is named is replaced with what is written, and nothing else. -/
theorem updatePost_plan {project post : String} (within : args.Says "project_id" project)
    (named : args.Says "post_id" post) (unversioned : args.IsUnsaid "version") :
    updatePost.plan args = (writtenPost args).map fun task =>
      ⟨sending .put (postsPath project [post]) (.object task),
        .acknowledged fun _ =>
          ⟨.object [("projectId", .string project), ("postId", .string post)],
            "task updated"⟩⟩ := by
  have projectRead := Arguments.text_eq_ok_iff.mpr within
  have postRead := Arguments.text_eq_ok_iff.mpr named
  have versionRead := Arguments.number?_eq_none_iff.mpr unversioned
  simp only [updatePost, projectRead, postRead, versionRead]
  cases writtenPost args with
  | error fault => rfl
  | ok task => simp [bind, Except.bind, pure, Except.pure, Except.map, Members.optional]

/-- A task with a due date, for two members who are named in one text. -/
def plannedTask : Arguments :=
  ⟨[("project_id", .string "1"), ("post_id", .string "2"), ("version", .null),
    ("subject", .string " s "), ("body", .nat 7), ("to_member_ids", .string "3,, 4 "),
    ("due_date", .string "2025-12-31"), ("tag_ids", .array [.string " ", .nat 5]),
    ("milestone_id", .string "\t")]⟩

/-- A task with a priority that there is not. -/
def urgentTask : Arguments :=
  plannedTask.insert "priority" (.string "urgent")

end Suite.Project

end SuiteBridge
