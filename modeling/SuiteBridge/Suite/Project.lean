import SuiteBridge.Suite.Basic

/-!
# Project tools
-/

namespace SuiteBridge.Suite.Project

open Remote (listParameter parameter)

/-- The formats of texts, the usual one first. -/
def mimeTypes : List String := ["text/x-markdown", "text/html"]

/-- The usual format of texts. -/
def usualMimeType : String := "text/x-markdown"

/-- The priorities of a task. -/
def priorities : List String := ["highest", "high", "normal", "low", "lowest", "none"]

/-- The states of a project. -/
def projectStates : List String := ["active", "archived", "deleted"]

/-- The parameters of a project and a task in it. -/
def taskParameters : List Parameter := [
  (Parameter.text "project_id" "Project ID").mandatory,
  (Parameter.text "post_id" "Task ID").mandatory]

/-- The path of the tasks of a project. -/
def postsPath (projectId : String) (below : List String) : List String :=
  ["project", "v1", "projects", projectId, "posts"] ++ below

/-- Lists the projects of the caller. -/
def listProjects : Tool where
  category := .project
  name := "dooray_project_list_projects"
  description := "List the projects the caller is a member of."
  parameters := [
    .page,
    .size 20,
    .choice "type" "Project type" ["public", "private"],
    .choice "scope" "Project scope" ["private", "public"],
    .choice "state" "Project state" projectStates]
  plan args := do
    let page ← args.number? "page"
    let size ← args.number? "size"
    let kind ← args.oneOf? "type" ["public", "private"]
    let scope ← args.oneOf? "scope" ["private", "public"]
    let state ← args.oneOf? "state" projectStates
    return {
      call := reading ["project", "v1", "projects"]
        ([("member", "me")] ++ numberParameter "page" page ++ numberParameter "size" size
          ++ parameter "type" kind ++ parameter "scope" scope ++ parameter "state" state)
      reading := .page (listing "projects" "projects") }

/-- Lists the tasks of a project in short. -/
def listPosts : Tool where
  category := .project
  name := "dooray_project_list_posts"
  description := "List the tasks of a project as compact summaries (id, subject, task number, "
    ++ "workflow, assignees, priority, dates). Use dooray_project_get_post for details."
  parameters := [
    (Parameter.text "project_id" "Project ID").mandatory,
    .page,
    .size 20,
    .texts "from_member_ids" "Author member IDs",
    .texts "to_member_ids" "Assignee member IDs",
    .texts "cc_member_ids" "CC member IDs",
    .texts "tag_ids" "Tag IDs",
    .text "parent_post_id" "Only list subtasks of this task",
    .number "post_number" "Task number within the project",
    .texts "post_workflow_classes" "Workflow classes: backlog, registered, working, closed",
    .texts "post_workflow_ids" "Workflow IDs",
    .texts "milestone_ids" "Milestone IDs",
    .text "subjects" "Text contained in the task title",
    .text "created_at" "Creation date range filter, e.g. prev-7d or an ISO range",
    .text "updated_at" "Update date range filter",
    .text "due_at" "Due date range filter",
    .text "order"
      "Sort key: postDueAt, postUpdatedAt or createdAt, prefix '-' for descending"]
  plan args := do
    let projectId ← args.text "project_id"
    let page := (← args.number? "page").getD 0
    let sender ← args.list? "from_member_ids"
    let recipients ← args.list? "to_member_ids"
    let cc ← args.list? "cc_member_ids"
    let tags ← args.list? "tag_ids"
    let classes ← args.list? "post_workflow_classes"
    let workflows ← args.list? "post_workflow_ids"
    let milestones ← args.list? "milestone_ids"
    let size := (← args.number? "size").getD 20
    let parent ← args.text? "parent_post_id"
    let number ← args.number? "post_number"
    let subjects ← args.text? "subjects"
    let createdAt ← args.text? "created_at"
    let updatedAt ← args.text? "updated_at"
    let dueAt ← args.text? "due_at"
    let order ← args.text? "order"
    return {
      call := reading (postsPath projectId [])
        (numberParameter "page" (some page) ++ numberParameter "size" (some size)
          ++ listParameter "fromMemberIds" sender ++ listParameter "toMemberIds" recipients
          ++ listParameter "ccMemberIds" cc ++ listParameter "tagIds" tags
          ++ parameter "parentPostId" parent ++ numberParameter "postNumber" number
          ++ listParameter "postWorkflowClasses" classes
          ++ listParameter "postWorkflowIds" workflows ++ listParameter "milestoneIds" milestones
          ++ parameter "subjects" subjects ++ parameter "createdAt" createdAt
          ++ parameter "updatedAt" updatedAt ++ parameter "dueAt" dueAt
          ++ parameter "order" order)
      reading := .posts fun posts =>
        ⟨.array (posts.items.map fun post => post.summary.toJson),
          "page " ++ numeral page ++ " of tasks: " ++ numeral posts.items.length ++ " shown, "
            ++ numeral posts.total ++ " in total"⟩ }

/-- Gets a task. -/
def getPost : Tool where
  category := .project
  name := "dooray_project_get_post"
  description := "Get a task with its body, users and attachments."
  parameters := taskParameters
  plan args := do
    let projectId ← args.text "project_id"
    let postId ← args.text "post_id"
    return {
      call := reading (postsPath projectId [postId]) []
      reading := .value fun post => ⟨post, "task retrieved"⟩ }

/-- The parameters with which a task is written. -/
def writtenParameters : List Parameter := [
  (Parameter.text "project_id" "Project ID").mandatory,
  (Parameter.text "subject" "Task title").mandatory,
  (Parameter.text "body" "Task description").mandatory,
  .choice "mime_type" "Body format (default text/x-markdown)" mimeTypes,
  (Parameter.texts "to_member_ids" "Assignee member IDs").mandatory,
  .texts "cc_member_ids" "CC member IDs",
  .text "due_date" "Due date, ISO 8601 (e.g. 2025-12-31T18:00:00+09:00)",
  .text "milestone_id" "Milestone ID",
  .texts "tag_ids" "Tag IDs",
  .choice "priority" "Priority (default none)" priorities]

/-- A task as it is written, whether it is new or not. -/
def writtenPost (args : Arguments) : Except Fault Members := do
  let subject ← args.text "subject"
  let body ← args.text "body"
  let recipients ← args.list "to_member_ids"
  let cc ← args.list? "cc_member_ids"
  let mimeType ← args.oneOf? "mime_type" mimeTypes
  let priority ← args.oneOf? "priority" priorities
  let dueDate ← args.text? "due_date"
  let tags ← args.list? "tag_ids"
  let milestone ← args.text? "milestone_id"
  return [
    ("users", .object [("to", memberEntries recipients), ("cc", memberEntries (cc.getD []))]),
    ("subject", .string subject),
    ("body", formatted (mimeType.getD usualMimeType) body),
    ("dueDateFlag", .bool dueDate.isSome),
    ("tagIds", .texts (tags.getD [])),
    ("priority", .string (priority.getD "none"))]
    ++ Members.optional "dueDate" (dueDate.map .string)
    ++ Members.optional "milestoneId" (milestone.map .string)

/-- Creates a task. -/
def createPost : Tool where
  category := .project
  name := "dooray_project_create_post"
  description := "Create a task in a project."
  parameters := writtenParameters ++ [.text "parent_post_id" "Create as a subtask of this task"]
  plan args := do
    let projectId ← args.text "project_id"
    let post ← writtenPost args
    let parent ← args.text? "parent_post_id"
    return {
      call := sending .post (postsPath projectId [])
        (.object (post ++ Members.optional "parentPostId" (parent.map .string)))
      reading := .value fun created => ⟨created, "task created"⟩ }

/-- Replaces what is written in a task. -/
def updatePost : Tool where
  category := .project
  name := "dooray_project_update_post"
  description := "Replace the subject, body, users and planning fields of a task."
  parameters := writtenParameters ++ [
    (Parameter.text "post_id" "Task ID").mandatory,
    .number "version" "Version read with dooray_project_get_post, for conflict detection"]
  plan args := do
    let projectId ← args.text "project_id"
    let postId ← args.text "post_id"
    let post ← writtenPost args
    let version ← args.number? "version"
    return {
      call := sending .put (postsPath projectId [postId])
        (.object (post ++ Members.optional "version" (version.map .nat)))
      reading := .acknowledged fun _ =>
        ⟨.object [("projectId", .string projectId), ("postId", .string postId)], "task updated"⟩ }

/-- Moves a task to another state of work. -/
def setPostWorkflow : Tool where
  category := .project
  name := "dooray_project_set_post_workflow"
  description := "Move a task to another workflow state."
  parameters := taskParameters ++ [(Parameter.text "workflow_id" "Target workflow ID").mandatory]
  plan args := do
    let projectId ← args.text "project_id"
    let postId ← args.text "post_id"
    let workflowId ← args.text "workflow_id"
    return {
      call := sending .post (postsPath projectId [postId, "set-workflow"])
        (.object [("workflowId", .string workflowId)])
      reading := .acknowledged fun _ =>
        ⟨.object [("postId", .string postId), ("workflowId", .string workflowId)],
          "task workflow changed"⟩ }

/-- Marks a task as done. -/
def setPostDone : Tool where
  category := .project
  name := "dooray_project_set_post_done"
  description := "Mark a task as done."
  parameters := taskParameters
  plan args := do
    let projectId ← args.text "project_id"
    let postId ← args.text "post_id"
    return {
      call := call .post (postsPath projectId [postId, "set-done"])
      reading := .acknowledged fun _ =>
        ⟨.object [("postId", .string postId)], "task marked as done"⟩ }

/-- A comment as it is written. -/
def writtenComment (args : Arguments) : Except Fault Json := do
  let content ← args.text "content"
  let mimeType ← args.oneOf? "mime_type" mimeTypes
  return .object [("body", formatted (mimeType.getD usualMimeType) content)]

/-- Adds a comment to a task. -/
def createPostComment : Tool where
  category := .project
  name := "dooray_project_create_post_comment"
  description := "Add a comment to a task."
  parameters := taskParameters ++ [
    (Parameter.text "content" "Comment text").mandatory,
    .choice "mime_type" "Content format (default text/x-markdown)" mimeTypes]
  plan args := do
    let projectId ← args.text "project_id"
    let postId ← args.text "post_id"
    let comment ← writtenComment args
    return {
      call := sending .post (postsPath projectId [postId, "logs"]) comment
      reading := .value fun created => ⟨created, "comment added"⟩ }

/-- Lists the comments of a task. -/
def getPostComments : Tool where
  category := .project
  name := "dooray_project_get_post_comments"
  description := "List the comments of a task."
  parameters := taskParameters ++ [
    .page,
    .size 20,
    .choice "order" "Sort order" ["createdAt", "-createdAt"]]
  plan args := do
    let projectId ← args.text "project_id"
    let postId ← args.text "post_id"
    let page := (← args.number? "page").getD 0
    let size := (← args.number? "size").getD 20
    let order ← args.oneOf? "order" ["createdAt", "-createdAt"]
    return {
      call := reading (postsPath projectId [postId, "logs"])
        (numberParameter "page" (some page) ++ numberParameter "size" (some size)
          ++ parameter "order" order)
      reading := .page fun comments =>
        ⟨.object [
          ("comments", .array comments.items),
          ("totalCount", .nat comments.total),
          ("currentPage", .nat page),
          ("pageSize", .nat size)],
          numeral comments.items.length ++ " comments shown, " ++ numeral comments.total
            ++ " in total"⟩ }

/-- Replaces a comment. -/
def updatePostComment : Tool where
  category := .project
  name := "dooray_project_update_post_comment"
  description := "Replace the text of a task comment."
  parameters := taskParameters ++ [
    (Parameter.text "log_id" "Comment ID").mandatory,
    (Parameter.text "content" "New comment text").mandatory,
    .choice "mime_type" "Content format (default text/x-markdown)" mimeTypes]
  plan args := do
    let projectId ← args.text "project_id"
    let postId ← args.text "post_id"
    let logId ← args.text "log_id"
    let comment ← writtenComment args
    return {
      call := sending .put (postsPath projectId [postId, "logs", logId]) comment
      reading := .acknowledged fun _ =>
        ⟨.object [("postId", .string postId), ("logId", .string logId)], "comment updated"⟩ }

/-- Deletes a comment. -/
def deletePostComment : Tool where
  category := .project
  name := "dooray_project_delete_post_comment"
  description := "Delete a task comment."
  parameters := taskParameters ++ [(Parameter.text "log_id" "Comment ID").mandatory]
  plan args := do
    let projectId ← args.text "project_id"
    let postId ← args.text "post_id"
    let logId ← args.text "log_id"
    return {
      call := call .delete (postsPath projectId [postId, "logs", logId])
      reading := .acknowledged fun _ =>
        ⟨.object [("postId", .string postId), ("logId", .string logId)], "comment deleted"⟩ }

/-- All project tools. -/
def tools : List Tool :=
  [listProjects, listPosts, getPost, createPost, updatePost, setPostWorkflow, setPostDone,
    createPostComment, getPostComments, updatePostComment, deletePostComment]

end SuiteBridge.Suite.Project
