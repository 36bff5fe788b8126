import SuiteBridge.Suite.Basic

/-!
# Calendar tools
-/

namespace SuiteBridge.Suite.Calendar

open Remote (listParameter parameter)

/-- Which events to list, by the caller's part in them. -/
def postTypes : List String := ["toMe", "toCcMe", "fromToCcMe"]

/-- The kinds of events. -/
def eventCategories : List String := ["general", "post", "milestone"]

/-- Lists the calendars of the caller. -/
def listCalendars : Tool where
  category := .calendar
  name := "dooray_calendar_list"
  description := "List the calendars the caller can access."
  parameters := []
  plan _ := do
    return {
      call := reading ["calendar", "v1", "calendars"] []
      reading := .page (listing "calendars" "calendars") }

/-- Gets a calendar. -/
def calendarDetail : Tool where
  category := .calendar
  name := "dooray_calendar_detail"
  description := "Get a calendar with its members and the caller's settings."
  parameters := [(Parameter.text "calendar_id" "Calendar ID").mandatory]
  plan args := do
    let calendarId ← args.text "calendar_id"
    return {
      call := reading ["calendar", "v1", "calendars", calendarId] []
      reading := .value fun calendar => ⟨calendar, "calendar retrieved"⟩ }

/-- Lists events between two instants. -/
def calendarEvents : Tool where
  category := .calendar
  name := "dooray_calendar_events"
  description := "List events between two instants, across all or selected calendars."
  parameters := [
    (Parameter.text "time_min"
      "Range start, ISO 8601 (e.g. 2025-04-11T00:00:00+09:00)").mandatory,
    (Parameter.text "time_max" "Range end, ISO 8601").mandatory,
    .texts "calendars" "Calendar IDs; all calendars when omitted",
    .choice "post_type" "Which events to include by attendance" postTypes,
    .choice "category" "Event category" eventCategories]
  plan args := do
    let timeMin ← args.text "time_min"
    let timeMax ← args.text "time_max"
    let calendars ← args.list? "calendars"
    let postType ← args.oneOf? "post_type" postTypes
    let category ← args.oneOf? "category" eventCategories
    return {
      call := reading ["calendar", "v1", "calendars", "*", "events"]
        ([("timeMin", timeMin), ("timeMax", timeMax)] ++ listParameter "calendars" calendars
          ++ parameter "postType" postType ++ parameter "category" category)
      reading := .items fun events =>
        ⟨.object [("events", .array events), ("totalCount", .nat events.length)],
          "found " ++ numeral events.length ++ " events between " ++ timeMin
            ++ " and " ++ timeMax⟩ }

/-- Gets an event. -/
def eventDetail : Tool where
  category := .calendar
  name := "dooray_calendar_event_detail"
  description := "Get one calendar event."
  parameters := [
    (Parameter.text "calendar_id" "Calendar ID").mandatory,
    (Parameter.text "event_id" "Event ID").mandatory]
  plan args := do
    let calendarId ← args.text "calendar_id"
    let eventId ← args.text "event_id"
    return {
      call := reading ["calendar", "v1", "calendars", calendarId, "events", eventId] []
      reading := .value fun event => ⟨event, "event retrieved"⟩ }

/-- Creates an event. -/
def createEvent : Tool where
  category := .calendar
  name := "dooray_calendar_create_event"
  description := "Create an event in a calendar and invite members."
  parameters := [
    (Parameter.text "calendar_id" "Calendar ID").mandatory,
    (Parameter.text "subject" "Event title").mandatory,
    (Parameter.text "content" "Event description (HTML)").mandatory,
    (Parameter.text "started_at" "Start, ISO 8601").mandatory,
    (Parameter.text "ended_at" "End, ISO 8601").mandatory,
    (Parameter.texts "to_member_ids" "Attendee member IDs").mandatory,
    .texts "cc_member_ids" "Optional attendee member IDs",
    .flag "whole_day" "All-day event (default false)",
    .text "location" "Location"]
  plan args := do
    let calendarId ← args.text "calendar_id"
    let subject ← args.text "subject"
    let content ← args.text "content"
    let startedAt ← args.text "started_at"
    let endedAt ← args.text "ended_at"
    let recipients ← args.list "to_member_ids"
    let cc ← args.list? "cc_member_ids"
    let wholeDay ← args.flag? "whole_day"
    let location ← args.text? "location"
    return {
      call := sending .post ["calendar", "v1", "calendars", calendarId, "events"]
        (.object ([
          ("users", .object [("to", memberEntries recipients), ("cc", memberEntries (cc.getD []))]),
          ("subject", .string subject),
          ("body", formatted "text/html" content),
          ("startedAt", .string startedAt),
          ("endedAt", .string endedAt),
          ("wholeDayFlag", .bool (wholeDay.getD false))]
          ++ Members.optional "location" (location.map .string)))
      reading := .value fun created =>
        ⟨.object [
          ("event", created),
          ("calendarId", .string calendarId),
          ("subject", .string subject),
          ("startedAt", .string startedAt),
          ("endedAt", .string endedAt)],
          "event '" ++ subject ++ "' created"⟩ }

/-- All calendar tools. -/
def tools : List Tool :=
  [listCalendars, calendarDetail, calendarEvents, eventDetail, createEvent]

end SuiteBridge.Suite.Calendar
