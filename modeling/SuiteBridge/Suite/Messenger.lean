import SuiteBridge.Suite.Basic

/-!
# Messenger tools
-/

namespace SuiteBridge.Suite.Messenger

open Remote (Page listParameter parameter)

/-- The kinds of channels that can be created. -/
def channelKinds : List String := ["private", "direct"]

/-- The ways to name members. -/
def idTypes : List String := ["email", "memberId"]

/-- The path of the channels. -/
def channelsPath (below : List String) : List String :=
  ["messenger", "v1", "channels"] ++ below

/-- The parameter of a channel. -/
def channelParameter : Parameter :=
  (Parameter.text "channel_id" "Channel ID").mandatory

/-- Looks for members of the organization. -/
def searchMembers : Tool where
  category := .messenger
  name := "dooray_messenger_search_members"
  description :=
    "Search organization members by name, email address, user code or IdP user ID."
  parameters := [
    .text "name" "Member name",
    .texts "email" "External email addresses",
    .text "user_code" "User code (login ID)",
    .text "id_provider_user_id" "Identity provider user ID",
    .page,
    .size 20]
  plan args := do
    let emails ← args.list? "email"
    let name ← args.text? "name"
    let userCode ← args.text? "user_code"
    let idProviderUserId ← args.text? "id_provider_user_id"
    let page ← args.number? "page"
    let size ← args.number? "size"
    return {
      call := reading ["common", "v1", "members"]
        (parameter "name" name ++ listParameter "externalEmailAddresses" emails
          ++ parameter "userCode" userCode ++ parameter "idProviderUserId" idProviderUserId
          ++ numberParameter "page" page ++ numberParameter "size" size)
      reading := .page (listing "members" "members") }

/-- Sends a message to one member. -/
def sendDirectMessage : Tool where
  category := .messenger
  name := "dooray_messenger_send_direct_message"
  description := "Send a 1:1 message to an organization member."
  parameters := [
    (Parameter.text "organization_member_id" "Recipient member ID").mandatory,
    (Parameter.text "text" "Message text").mandatory]
  plan args := do
    let memberId ← args.text "organization_member_id"
    let text ← args.text "text"
    return {
      call := sending .post (channelsPath ["direct-send"])
        (.object [("text", .string text), ("organizationMemberId", .string memberId)])
      reading := .acknowledged fun sent =>
        ⟨.object [("organizationMemberId", .string memberId), ("result", .orNull sent)],
          "direct message sent"⟩ }

/-- The parameters of the lists of channels. -/
def channelListParameters : List Parameter := [
  .page,
  .size 200,
  .number "recent_months" "Only keep channels updated within this many months"]

/-- Reads a page of the caller's channels; no months, or none at all, keep all of them. -/
def channelList (finish : Page Channel → Success) (args : Arguments) : Except Fault Plan := do
  let months ← args.number? "recent_months"
  let page ← args.number? "page"
  let size ← args.number? "size"
  return {
    call := reading (channelsPath []) (numberParameter "page" page ++ numberParameter "size" size)
    reading := .channels (months.filter (0 < ·)) finish }

/-- Channels as they are shown, with their number. -/
def channelListing (view : Channel → Json) (page : Page Channel) : Success :=
  ⟨.object [("channels", .array (page.items.map view)), ("totalCount", .nat page.total)],
    "found " ++ numeral page.total ++ " channels"⟩

/-- Lists the caller's channels in full. -/
def getChannels : Tool where
  category := .messenger
  name := "dooray_messenger_get_channels"
  description := "List the channels the caller belongs to, with full channel details. "
    ++ "recent_months keeps only channels updated within that many months."
  parameters := channelListParameters
  plan := channelList (channelListing Channel.toJson)

/-- Lists the caller's channels in short. -/
def getSimpleChannels : Tool where
  category := .messenger
  name := "dooray_messenger_get_simple_channels"
  description := "List channels as compact summaries (id, title, type, status, updatedAt, "
    ++ "participantCount). recent_months keeps only recently updated channels."
  parameters := channelListParameters
  plan := channelList (channelListing fun channel => channel.summary.toJson)

/-- Gets one of the caller's channels, by looking for it among all of them. -/
def getChannel : Tool where
  category := .messenger
  name := "dooray_messenger_get_channel"
  description := "Get one channel the caller belongs to."
  parameters := [channelParameter]
  plan args := do
    let channelId ← args.text "channel_id"
    return {
      call := reading (channelsPath []) []
      reading := .channel channelId }

/-- The fault of members to mention that cannot be used. -/
def invalidMentions : Fault :=
  (Fault.validation ("the 'mention_members' parameter must be an array of "
    ++ "\x7bid, name, organizationId\x7d objects")).withCode "INVALID_MENTION_MEMBERS"

/-- The link that mentions a member. -/
def mention? (member : Json) : Option String := do
  let id ← (member.member? "id").bind Json.text?
  let name ← (member.member? "name").bind Json.text?
  let organization ← (member.member? "organizationId").bind Json.text?
  return "[@" ++ name ++ "](dooray://" ++ organization ++ "/members/" ++ id ++ " \"member\")"

/-- A message with a line before it for each member to mention. -/
def withMentions (args : Arguments) (text : String) : Except Fault String :=
  match args.value? "mention_members" with
  | none => .ok text
  | some (.array members) =>
    match members.mapM mention? with
    | some mentions => .ok (Text.join "\n" (mentions ++ [text]))
    | none => .error invalidMentions
  | some _ => .error invalidMentions

/-- Posts a message to a channel. -/
def sendChannelMessage : Tool where
  category := .messenger
  name := "dooray_messenger_send_channel_message"
  description := "Post a message to a channel, optionally mentioning members."
  parameters := [
    channelParameter,
    (Parameter.text "text" "Message text").mandatory,
    ⟨"mention_members", .mentions,
      "Members to mention; each needs id, name and organizationId", false⟩]
  plan args := do
    let channelId ← args.text "channel_id"
    let text ← withMentions args (← args.text "text")
    return {
      call := sending .post (channelsPath [channelId, "logs"]) (.object [("text", .string text)])
      reading := .acknowledged fun _ =>
        ⟨.object [("channelId", .string channelId), ("text", .string text)], "message sent"⟩ }

/-- Creates a channel. -/
def createChannel : Tool where
  category := .messenger
  name := "dooray_messenger_create_channel"
  description := "Create a private or direct channel."
  parameters := [
    (Parameter.choice "type" "Channel type" channelKinds).mandatory,
    .text "title" "Channel title",
    .texts "member_ids" "Members to add",
    .number "capacity" "Maximum number of participants",
    .choice "id_type" "How member_ids are given (default memberId)" idTypes]
  plan args := do
    let kind ← match ← args.oneOf? "type" channelKinds with
      | some kind => pure kind
      | none => throw (Fault.parameterMissing "type")
    let idType ← args.oneOf? "id_type" idTypes
    let title ← args.text? "title"
    let capacity ← args.number? "capacity"
    let members ← args.list? "member_ids"
    return {
      call := { sending .post (channelsPath [])
          (.object ([("type", .string kind)]
            ++ Members.optional "title" (title.map .string)
            ++ Members.optional "capacity" (capacity.map fun n => .string (numeral n))
            ++ Members.optional "memberIds" (members.map .texts)))
        with parameters := parameter "idType" idType }
      reading := .value fun created => ⟨created, kind ++ " channel created"⟩ }

/-- The parameters of a change of who is in a channel. -/
def membershipParameters : List Parameter := [
  channelParameter,
  (Parameter.texts "member_ids" "Organization member IDs").mandatory]

/-- Changes who is in a channel. -/
def changeMembership (action : String) (args : Arguments) : Except Fault Plan := do
  let channelId ← args.text "channel_id"
  let members ← args.list "member_ids"
  return {
    call := sending .post (channelsPath [channelId, "members", action])
      (.object [("memberIds", .texts members)])
    reading := .acknowledged fun _ =>
      ⟨.object [("channelId", .string channelId), ("memberIds", .texts members)],
        "channel membership updated (" ++ action ++ ", " ++ numeral members.length
          ++ " members)"⟩ }

/-- Adds members to a channel. -/
def joinChannel : Tool where
  category := .messenger
  name := "dooray_messenger_join_channel"
  description := "Add members to a channel."
  parameters := membershipParameters
  plan := changeMembership "join"

/-- Removes members from a channel. -/
def leaveChannel : Tool where
  category := .messenger
  name := "dooray_messenger_leave_channel"
  description := "Remove members from a channel."
  parameters := membershipParameters
  plan := changeMembership "leave"

/-- Starts a thread. -/
def createThread : Tool where
  category := .messenger
  name := "dooray_messenger_create_thread"
  description := "Start a thread in a channel with a first message."
  parameters := [
    channelParameter,
    (Parameter.text "text" "First message of the thread").mandatory]
  plan args := do
    let channelId ← args.text "channel_id"
    let text ← args.text "text"
    return {
      call := sending .post (channelsPath [channelId, "threads"])
        (.object [("text", .string text)])
      reading := .value fun created =>
        ⟨.object [
          ("channelId", .string channelId),
          ("threadId", .orNull (created.member? "threadId")),
          ("logId", .orNull (created.member? "logId")),
          ("text", .string text)],
          "thread created"⟩ }

/-- Changes a message. -/
def updateMessage : Tool where
  category := .messenger
  name := "dooray_messenger_update_message"
  description := "Edit a message previously posted to a channel."
  parameters := [
    channelParameter,
    (Parameter.text "log_id" "Message (log) ID").mandatory,
    (Parameter.text "text" "New message text").mandatory]
  plan args := do
    let channelId ← args.text "channel_id"
    let logId ← args.text "log_id"
    let text ← args.text "text"
    return {
      call := sending .put (channelsPath [channelId, "logs", logId])
        (.object [("text", .string text)])
      reading := .acknowledged fun _ =>
        ⟨.object [("channelId", .string channelId), ("logId", .string logId),
          ("text", .string text)], "message updated"⟩ }

/-- Deletes a message. -/
def deleteMessage : Tool where
  category := .messenger
  name := "dooray_messenger_delete_message"
  description := "Delete a message from a channel."
  parameters := [channelParameter, (Parameter.text "log_id" "Message (log) ID").mandatory]
  plan args := do
    let channelId ← args.text "channel_id"
    let logId ← args.text "log_id"
    return {
      call := call .delete (channelsPath [channelId, "logs", logId])
      reading := .acknowledged fun _ =>
        ⟨.object [("channelId", .string channelId), ("logId", .string logId)],
          "message deleted"⟩ }

/-- All messenger tools. -/
def tools : List Tool :=
  [searchMembers, sendDirectMessage, getChannels, getSimpleChannels, getChannel,
    sendChannelMessage, createChannel, joinChannel, leaveChannel, createThread, updateMessage,
    deleteMessage]

end SuiteBridge.Suite.Messenger
