import SuiteBridge.Json.Decoder

/-!
# Project tasks

A task of a project as the suite reports it, the people and the state of work that belong to it,
and the short view of it for listings.
-/

namespace SuiteBridge

/-- A member of the organization. -/
structure Member where
  organizationMemberId : String
  name : Option String
  deriving DecidableEq, Repr

/-- A state of work. -/
structure Workflow where
  id : String
  name : Option String
  deriving DecidableEq, Repr

/-- Someone a task is addressed to or comes from: a member, an outside address or a group. -/
structure Addressee where
  kind : String
  member : Option Member
  /-- The members not named above, in their order. -/
  extra : Members
  deriving Repr

/-- The people of a task. -/
structure Addressees where
  sender : Option Addressee
  recipients : List Addressee
  cc : List Addressee
  deriving Repr

/-- A task of a project. -/
structure Post where
  id : String
  subject : String
  taskNumber : Option String
  /-- One of backlog, registered, working and closed. -/
  workflowClass : Option String
  workflow : Option Workflow
  users : Addressees
  priority : Option String
  dueDate : Option String
  createdAt : Option String
  updatedAt : Option String
  /-- The members not named above, in their order. -/
  extra : Members
  deriving Repr

/-- The short view of a task: what it is, how it stands and who works on it. -/
structure PostSummary where
  id : String
  subject : String
  taskNumber : Option String
  workflowClass : Option String
  workflow : Option Workflow
  assignees : List Member
  priority : Option String
  dueDate : Option String
  createdAt : Option String
  updatedAt : Option String
  deriving DecidableEq, Repr

namespace Member

/-- A member is decoded from an object with the member's id. -/
def decoder : Json.Decoder Member :=
  .record "struct Member"
    (.required "organizationMemberId" .text <| .defaulting "name" (.optional .text) none .done)
    fun (organizationMemberId, name, ()) => ⟨organizationMemberId, name⟩

/-- A member as JSON. -/
def toJson (member : Member) : Json :=
  .object (("organizationMemberId", .string member.organizationMemberId)
    :: Members.optional "name" (member.name.map .string))

end Member

namespace Workflow

/-- A state of work is decoded from an object with its id. -/
def decoder : Json.Decoder Workflow :=
  .record "struct Workflow"
    (.required "id" .text <| .defaulting "name" (.optional .text) none .done)
    fun (id, name, ()) => ⟨id, name⟩

/-- A state of work as JSON. -/
def toJson (workflow : Workflow) : Json :=
  .object (("id", .string workflow.id) :: Members.optional "name" (workflow.name.map .string))

end Workflow

namespace Addressee

/-- The slots of an addressee. -/
def form : Json.Form (String × Option Member × Unit) :=
  .required "type" .text <| .defaulting "member" (.optional Member.decoder) none .done

/-- An addressee is decoded from an object with a type. -/
def decoder : Json.Decoder Addressee :=
  .openRecord "struct PostUser" form fun (kind, member, ()) extra => ⟨kind, member, extra⟩

/-- An addressee as JSON: what is known first, then the rest. -/
def toJson (addressee : Addressee) : Json :=
  .object (("type", .string addressee.kind)
    :: Members.optional "member" (addressee.member.map Member.toJson) ++ addressee.extra)

end Addressee

namespace Addressees

/-- Nobody. -/
def none : Addressees :=
  ⟨.none, [], []⟩

/-- The people of a task are decoded from an object that may leave out any of them. -/
def decoder : Json.Decoder Addressees :=
  .record "struct PostUsers"
    (.defaulting "from" (.optional Addressee.decoder) .none <|
      .defaulting "to" (.list Addressee.decoder) [] <|
      .defaulting "cc" (.list Addressee.decoder) [] .done)
    fun (sender, recipients, cc, ()) => ⟨sender, recipients, cc⟩

/-- The people of a task as JSON. -/
def toJson (addressees : Addressees) : Json :=
  .object (Members.optional "from" (addressees.sender.map Addressee.toJson) ++ [
    ("to", .array (addressees.recipients.map Addressee.toJson)),
    ("cc", .array (addressees.cc.map Addressee.toJson))])

end Addressees

namespace Post

/-- The slots of a task. -/
def form : Json.Form (String × String × Option String × Option String × Option Workflow
    × Addressees × Option String × Option String × Option String × Option String × Unit) :=
  .required "id" .text <|
  .required "subject" .text <|
  .defaulting "taskNumber" (.optional .text) none <|
  .defaulting "workflowClass" (.optional .text) none <|
  .defaulting "workflow" (.optional Workflow.decoder) none <|
  .defaulting "users" Addressees.decoder .none <|
  .defaulting "priority" (.optional .text) none <|
  .defaulting "dueDate" (.optional .text) none <|
  .defaulting "createdAt" (.optional .text) none <|
  .defaulting "updatedAt" (.optional .text) none .done

/-- A task is decoded from an object with an id and a subject. -/
def decoder : Json.Decoder Post :=
  .openRecord "struct Post" form
    fun (id, subject, taskNumber, workflowClass, workflow, users, priority, dueDate, createdAt,
        updatedAt, ()) extra =>
      ⟨id, subject, taskNumber, workflowClass, workflow, users, priority, dueDate, createdAt,
        updatedAt, extra⟩

/-- A task as JSON: what is known first, with null for what is not given, then the rest. -/
def toJson (post : Post) : Json :=
  .object ([
    ("id", .string post.id),
    ("subject", .string post.subject),
    ("taskNumber", .textOrNull post.taskNumber),
    ("workflowClass", .textOrNull post.workflowClass),
    ("workflow", .orNull (post.workflow.map Workflow.toJson)),
    ("users", post.users.toJson),
    ("priority", .textOrNull post.priority),
    ("dueDate", .textOrNull post.dueDate),
    ("createdAt", .textOrNull post.createdAt),
    ("updatedAt", .textOrNull post.updatedAt)] ++ post.extra)

/-- The short view of a task. Its assignees are the members it is addressed to. -/
def summary (post : Post) : PostSummary where
  id := post.id
  subject := post.subject
  taskNumber := post.taskNumber
  workflowClass := post.workflowClass
  workflow := post.workflow
  assignees := post.users.recipients.filterMap Addressee.member
  priority := post.priority
  dueDate := post.dueDate
  createdAt := post.createdAt
  updatedAt := post.updatedAt

end Post

namespace PostSummary

/-- A short view is decoded from an object with an id, a subject and the assignees. -/
def decoder : Json.Decoder PostSummary :=
  .record "struct PostSummary"
    (.required "id" .text <|
      .required "subject" .text <|
      .required "taskNumber" (.optional .text) <|
      .required "workflowClass" (.optional .text) <|
      .required "workflow" (.optional Workflow.decoder) <|
      .required "assignees" (.list Member.decoder) <|
      .required "priority" (.optional .text) <|
      .required "dueDate" (.optional .text) <|
      .required "createdAt" (.optional .text) <|
      .required "updatedAt" (.optional .text) .done)
    fun (id, subject, taskNumber, workflowClass, workflow, assignees, priority, dueDate, createdAt,
        updatedAt, ()) =>
      ⟨id, subject, taskNumber, workflowClass, workflow, assignees, priority, dueDate, createdAt,
        updatedAt⟩

/-- A short view as JSON, with null for what is not known. -/
def toJson (summary : PostSummary) : Json :=
  .object [
    ("id", .string summary.id),
    ("subject", .string summary.subject),
    ("taskNumber", .textOrNull summary.taskNumber),
    ("workflowClass", .textOrNull summary.workflowClass),
    ("workflow", .orNull (summary.workflow.map Workflow.toJson)),
    ("assignees", .array (summary.assignees.map Member.toJson)),
    ("priority", .textOrNull summary.priority),
    ("dueDate", .textOrNull summary.dueDate),
    ("createdAt", .textOrNull summary.createdAt),
    ("updatedAt", .textOrNull summary.updatedAt)]

end PostSummary

end SuiteBridge
