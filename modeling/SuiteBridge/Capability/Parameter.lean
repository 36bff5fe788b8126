import SuiteBridge.Json.Printer

/-!
# Parameters

What a capability takes: named parameters, each of a shape and with a description for people. The
schema that hosts read is made from them, and a parameter is required exactly when it says so.
-/

namespace SuiteBridge

/-- The shape of a parameter. -/
inductive Shape where
  | text
  | number
  | flag
  | texts
  | choice (values : List String)
  /-- Members to mention: each an id, a name and an organization. -/
  | mentions
  deriving DecidableEq, Repr

/-- A parameter of a capability. -/
structure Parameter where
  name : String
  shape : Shape
  description : String
  required : Bool
  deriving DecidableEq, Repr

namespace Parameter

/-- A text that may be left out. -/
def text (name description : String) : Parameter :=
  ⟨name, .text, description, false⟩

/-- A number from zero up that may be left out. -/
def number (name description : String) : Parameter :=
  ⟨name, .number, description, false⟩

/-- A truth value that may be left out. -/
def flag (name description : String) : Parameter :=
  ⟨name, .flag, description, false⟩

/-- A list of texts that may be left out. -/
def texts (name description : String) : Parameter :=
  ⟨name, .texts, description, false⟩

/-- One of several texts that may be left out. -/
def choice (name description : String) (values : List String) : Parameter :=
  ⟨name, .choice values, description, false⟩

/-- The parameter, now required. -/
def mandatory (parameter : Parameter) : Parameter :=
  { parameter with required := true }

/-- Which page of a list. -/
def page : Parameter :=
  number "page" "Page number, starting at 0"

/-- How many items a page has. -/
def size (usual : Nat) : Parameter :=
  number "size" ("Page size (default " ++ String.ofList (Text.decimal usual) ++ ", max 100)")

/-- The schema of one text. -/
def textSchema : Json :=
  .object [("type", .string "string")]

/-- The schema of a parameter's values. -/
def schema (parameter : Parameter) : Json :=
  let description := ("description", Json.string parameter.description)
  match parameter.shape with
  | .text => .object [("type", .string "string"), description]
  | .number => .object [("type", .string "integer"), ("minimum", .nat 0), description]
  | .flag => .object [("type", .string "boolean"), description]
  | .texts => .object [("type", .string "array"), ("items", textSchema), description]
  | .choice values => .object [("type", .string "string"), ("enum", .texts values), description]
  | .mentions => .object [("type", .string "array"), description,
      ("items", .object [("type", .string "object"),
        ("properties", .object
          [("id", textSchema), ("name", textSchema), ("organizationId", textSchema)]),
        ("required", .texts ["id", "name", "organizationId"])])]

/-- The schema of an object with some parameters as members. -/
def objectSchema (parameters : List Parameter) : Json :=
  .object [("type", .string "object"),
    ("properties", .object (parameters.map fun p => (p.name, p.schema))),
    ("required", .texts ((parameters.filter Parameter.required).map Parameter.name))]

end Parameter

end SuiteBridge
