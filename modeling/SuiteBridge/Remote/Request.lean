import SuiteBridge.Json.Printer
import SuiteBridge.Settings
import SuiteBridge.Text.Base64

/-!
# Requests

A call to the suite is a method, the segments of a path, the parameters of a query and perhaps a
JSON document. With the settings it becomes a request as it goes over the wire.
-/

namespace SuiteBridge.Remote

/-- The method of a request. -/
inductive Method where
  | get
  | post
  | put
  | delete
  | other (name : String)
  deriving DecidableEq, Repr

/-- The name of a method. -/
def Method.name : Method → String
  | .get => "GET"
  | .post => "POST"
  | .put => "PUT"
  | .delete => "DELETE"
  | .other name => name

/-- A request as it goes over the wire. -/
structure Request where
  method : Method
  path : String
  query : Option String
  authorization : String
  contentType : Option String
  body : Option String
  deriving DecidableEq, Repr

/-- A call to the suite. -/
structure Call where
  method : Method
  segments : List String
  /-- The parameters of the query, in order. -/
  parameters : List (String × String)
  body : Option Json
  /-- The status that a granted call is answered with. -/
  expected : Nat
  deriving Repr

/-- The parameter of a list: its entries with commas between them, when there are any. -/
def listParameter (name : String) (entries : Option (List String)) : List (String × String) :=
  match entries with
  | none | some [] => []
  | some entries => [(name, Text.join "," entries)]

/-- The parameter of a text, when there is one. -/
def parameter (name : String) (value : Option String) : List (String × String) :=
  match value with
  | none => []
  | some value => [(name, value)]

/-- The text that an encoded user name or password stands for. -/
def decodedPart? (encoded : String) : Option String :=
  Text.Utf8.decode? (Text.Percent.decode encoded.toList)

/-- What a request is authorized by: the user named in the address, or else the key. -/
def authorization (settings : Settings) : String :=
  let byKey := "dooray-api " ++ settings.key
  match decodedPart? settings.base.username with
  | none => byKey
  | some user =>
    let password := settings.base.password.bind decodedPart?
    if user = "" ∧ password.isNone then byKey
    else "Basic " ++ String.ofList
      (Text.Base64.encode (Text.Utf8.encode (user ++ ":" ++ password.getD "").toList))

namespace Call

/-- The address of a call. -/
def url (settings : Settings) (call : Call) : Url :=
  settings.base.endpoint call.segments

/-- How a call is named in messages: its method and its path. -/
def description (settings : Settings) (call : Call) : String :=
  call.method.name ++ " " ++ Url.pathText (call.url settings).path

/-- A call as it goes over the wire. -/
def request (settings : Settings) (call : Call) : Request where
  method := call.method
  path := Url.pathText (call.url settings).path
  query := Url.appendPairs (call.url settings).query call.parameters
  authorization := authorization settings
  contentType := call.body.map fun _ => "application/json"
  body := call.body.map Json.render

end Call

end SuiteBridge.Remote
