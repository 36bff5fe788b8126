import SuiteBridge.Capability.Basic

/-!
# What the tools of the suite have in common

Short ways to write the calls, the documents and the messages of the tools.
-/

namespace SuiteBridge.Suite

open Remote (Call Method Page)

/-- A call without parameters and document that is answered with 200 when granted. -/
def call (method : Method) (segments : List String) : Call :=
  ⟨method, segments, [], none, 200⟩

/-- A call that reads. -/
def reading (segments : List String) (parameters : List (String × String)) : Call :=
  { call .get segments with parameters }

/-- A call that sends a document. -/
def sending (method : Method) (segments : List String) (body : Json) : Call :=
  { call method segments with body := some body }

/-- A number in a text. -/
def numeral (n : Nat) : String :=
  String.ofList (Text.decimal n)

/-- The parameter of a number, when there is one. -/
def numberParameter (name : String) (value : Option Nat) : List (String × String) :=
  Remote.parameter name (value.map numeral)

/-- A member of the organization in a document. -/
def memberEntry (id : String) : Json :=
  .object [("type", .string "member"),
    ("member", .object [("organizationMemberId", .string id)])]

/-- Some members of the organization in a document. -/
def memberEntries (ids : List String) : Json :=
  .array (ids.map memberEntry)

/-- A text with its format in a document. -/
def formatted (mimeType content : String) : Json :=
  .object [("mimeType", .string mimeType), ("content", .string content)]

/-- A page of items under a name with their number, and the message that so many were found. -/
def listing (key things : String) (page : Page Json) : Success :=
  ⟨.object [(key, .array page.items), ("totalCount", .nat page.total)],
    "found " ++ numeral page.total ++ " " ++ things⟩

/-- The fault of an update that changes nothing. -/
def nothingToUpdate (hint : String) : Fault :=
  (Fault.validation ("nothing to update: " ++ hint)).withCode "NOTHING_TO_UPDATE"

end SuiteBridge.Suite
