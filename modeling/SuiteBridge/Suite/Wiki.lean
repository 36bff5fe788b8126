import SuiteBridge.Suite.Basic

/-!
# Wiki tools
-/

namespace SuiteBridge.Suite.Wiki

open Remote (parameter)

/-- The format of wiki pages. -/
def markdown : String := "text/x-markdown"

/-- The members to notify about a page, if they are given. -/
def referrers (args : Arguments) : Except Fault (Option Json) := do
  return (← args.list? "referrer_member_ids").map memberEntries

/-- Lists the wikis of the caller. -/
def listProjects : Tool where
  category := .wiki
  name := "dooray_wiki_list_projects"
  description := "List the wikis (one per project) the caller can access."
  parameters := [.page, .size 20]
  plan args := do
    let page ← args.number? "page"
    let size ← args.number? "size"
    return {
      call := reading ["wiki", "v1", "wikis"]
        (numberParameter "page" page ++ numberParameter "size" size)
      reading := .page (listing "wikis" "wikis") }

/-- Lists the pages of a wiki, or the pages below one of them. -/
def listPages : Tool where
  category := .wiki
  name := "dooray_wiki_list_pages"
  description := "List the pages of a wiki. Without parent_page_id the root pages are returned."
  parameters := [
    (Parameter.text "wiki_id" "Wiki ID").mandatory,
    .text "parent_page_id" "Only list children of this page"]
  plan args := do
    let wikiId ← args.text "wiki_id"
    let parent ← args.text? "parent_page_id"
    return {
      call := reading ["wiki", "v1", "wikis", wikiId, "pages"] (parameter "parentPageId" parent)
      reading := .items fun pages =>
        ⟨.array pages, "found " ++ numeral pages.length ++ " pages"⟩ }

/-- Gets a page. -/
def getPage : Tool where
  category := .wiki
  name := "dooray_wiki_get_page"
  description := "Get a wiki page including its body."
  parameters := [
    (Parameter.text "wiki_id" "Wiki ID").mandatory,
    (Parameter.text "page_id" "Page ID").mandatory]
  plan args := do
    let wikiId ← args.text "wiki_id"
    let pageId ← args.text "page_id"
    return {
      call := reading ["wiki", "v1", "wikis", wikiId, "pages", pageId] []
      reading := .value fun page => ⟨page, "wiki page retrieved"⟩ }

/-- Creates a page below another. -/
def createPage : Tool where
  category := .wiki
  name := "dooray_wiki_create_page"
  description := "Create a wiki page under a parent page. The body is markdown."
  parameters := [
    (Parameter.text "wiki_id" "Wiki ID").mandatory,
    (Parameter.text "parent_page_id" "Parent page ID").mandatory,
    (Parameter.text "subject" "Page title").mandatory,
    (Parameter.text "body" "Page content (markdown)").mandatory,
    .texts "referrer_member_ids" "Organization member IDs to notify"]
  plan args := do
    let wikiId ← args.text "wiki_id"
    let parent ← args.text "parent_page_id"
    let subject ← args.text "subject"
    let body ← args.text "body"
    let referrers ← referrers args
    return {
      call := { sending .post ["wiki", "v1", "wikis", wikiId, "pages"]
          (.object ([("subject", .string subject), ("body", formatted markdown body),
            ("parentPageId", .string parent)] ++ Members.optional "referrers" referrers))
        with expected := 201 }
      reading := .value fun page => ⟨page, "wiki page '" ++ subject ++ "' created"⟩ }

/-- Changes what is given of a page. -/
def updatePage : Tool where
  category := .wiki
  name := "dooray_wiki_update_page"
  description := "Update the title and/or body of a wiki page."
  parameters := [
    (Parameter.text "wiki_id" "Wiki ID").mandatory,
    (Parameter.text "page_id" "Page ID").mandatory,
    .text "subject" "New title",
    .text "body" "New content (markdown)",
    .texts "referrer_member_ids" "Organization member IDs to notify"]
  plan args := do
    let wikiId ← args.text "wiki_id"
    let pageId ← args.text "page_id"
    let subject ← args.text? "subject"
    let body ← args.text? "body"
    let referrers ← referrers args
    let changes := Members.optional "subject" (subject.map .string)
      ++ Members.optional "body" (body.map (formatted markdown))
      ++ Members.optional "referrers" referrers
    if changes.isEmpty then
      throw (nothingToUpdate "give at least one of subject, body or referrer_member_ids")
    return {
      call := sending .put ["wiki", "v1", "wikis", wikiId, "pages", pageId] (.object changes)
      reading := .acknowledged fun _ =>
        ⟨.object [("wikiId", .string wikiId), ("pageId", .string pageId)], "wiki page updated"⟩ }

/-- All wiki tools. -/
def tools : List Tool :=
  [listProjects, listPages, getPage, createPage, updatePage]

end SuiteBridge.Suite.Wiki
