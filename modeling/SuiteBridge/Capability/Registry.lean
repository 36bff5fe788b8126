import SuiteBridge.Capability.Basic

/-!
# The registry

The capabilities a host can use, in their order. A registry is built from a catalogue whose names
are all different and whose schemas are all well formed, including those of capabilities that are
not enabled.
-/

namespace SuiteBridge

/-- What is wrong with a schema. -/
inductive SchemaProblem where
  | notObject
  | typeNotObject
  | propertiesNotObject
  | requiredNotArray
  | requiredNotText
  | requiredUndeclared (field : String)
  deriving DecidableEq, Repr

/-- The wording of a problem. -/
def SchemaProblem.message : SchemaProblem → String
  | .notObject => "schema must be a JSON object"
  | .typeNotObject => "schema type must be \"object\""
  | .propertiesNotObject => "\"properties\" must be an object"
  | .requiredNotArray => "\"required\" must be an array"
  | .requiredNotText => "\"required\" entries must be strings"
  | .requiredUndeclared field => "required field '" ++ field ++ "' is not a declared property"

/-- Why a catalogue makes no registry. -/
inductive RegistryProblem where
  | duplicate (name : String)
  | schema (name : String) (problem : SchemaProblem)
  deriving DecidableEq, Repr

namespace RegistryProblem

/-- The wording of a problem. -/
def message : RegistryProblem → String
  | .duplicate name => "duplicate capability name: '" ++ name ++ "'"
  | .schema name problem =>
    "invalid input schema for capability '" ++ name ++ "': " ++ problem.message

/-- The code of a problem. -/
def code : RegistryProblem → String
  | .duplicate _ => "DUPLICATE_CAPABILITY"
  | .schema _ _ => "INVALID_SCHEMA"

/-- A problem as a fault. -/
def fault (problem : RegistryProblem) : Fault :=
  (Fault.internal problem.message).withCode problem.code

end RegistryProblem

/-- What is wrong with the entries of a schema's list of required members. -/
def requiredProblem (properties : Members) : List Json → Option SchemaProblem
  | [] => none
  | .string field :: rest =>
    if (properties.lookup field).isSome then requiredProblem properties rest
    else some (.requiredUndeclared field)
  | _ :: _ => some .requiredNotText

/-- What is wrong with a schema. -/
def schemaProblem : Json → Option SchemaProblem
  | .object schema =>
    if (schema.lookup "type").bind Json.text? ≠ some "object" then some .typeNotObject
    else match schema.lookup "properties" with
      | some (.object properties) =>
        match schema.lookup "required" with
        | none => none
        | some (.array required) => requiredProblem properties required
        | some _ => some .requiredNotArray
      | _ => some .propertiesNotObject
  | _ => some .notObject

/-- The capabilities a host can use, in their order. -/
structure Registry where
  entries : List Capability

namespace Registry

/-- What is wrong with a catalogue: the first capability that repeats a name of one before it, or
has a bad schema. -/
def problem (seen : List String) : List Capability → Option RegistryProblem
  | [] => none
  | capability :: rest =>
    let name := capability.descriptor.name
    if name ∈ seen then some (.duplicate name)
    else match schemaProblem capability.descriptor.schema with
      | some problem => some (.schema name problem)
      | none => Registry.problem (name :: seen) rest

/-- Whether a capability is of an enabled category. -/
def isEnabled (enabled : List Category) (capability : Capability) : Bool :=
  enabled.contains capability.descriptor.category

/-- The registry of a catalogue's enabled capabilities. -/
def build (catalogue : List Capability) (enabled : List Category) :
    Except RegistryProblem Registry :=
  match problem [] catalogue with
  | some problem => .error problem
  | none => .ok ⟨catalogue.filter (isEnabled enabled)⟩

/-- What is reported about the capabilities before the first problem: those that are not enabled. -/
def disabledEvents (enabled : List Category) (seen : List String) :
    List Capability → List Event
  | [] => []
  | capability :: rest =>
    if (problem seen [capability]).isSome then []
    else
      let later := disabledEvents enabled (capability.descriptor.name :: seen) rest
      if isEnabled enabled capability then later
      else .capabilityDisabled capability.descriptor.name capability.descriptor.category :: later

/-- What is reported while a registry is built. -/
def buildEvents (catalogue : List Capability) (enabled : List Category) : List Event :=
  disabledEvents enabled [] catalogue
    ++ match build catalogue enabled with
      | .ok registry => [.registryBuilt registry.entries.length catalogue.length]
      | .error _ => []

/-- How many capabilities there are. -/
def size (registry : Registry) : Nat :=
  registry.entries.length

/-- The names of the capabilities. -/
def names (registry : Registry) : List String :=
  registry.entries.map fun capability => capability.descriptor.name

/-- The capability of a name. -/
def get? (registry : Registry) (name : String) : Option Capability :=
  registry.entries.find? fun capability => capability.descriptor.name == name

/-- The capabilities as a host lists them. -/
def tools (registry : Registry) : List Json :=
  registry.entries.map fun capability => capability.descriptor.toTool

/-- The categories that have a capability. -/
def categories (registry : Registry) : List Category :=
  Category.all.filter fun category =>
    registry.entries.any fun capability => capability.descriptor.category == category

/-- What a call does. An unknown name and arguments that are no object end it at once. -/
def dispatch (registry : Registry) (name : String) (arguments : Json) : Activity :=
  match registry.get? name with
  | none => .ends (.returned (.error ((Fault.validation
      ("unknown capability '" ++ name ++ "'")).withCode "UNKNOWN_CAPABILITY")))
  | some capability =>
    match Arguments.ofJson arguments with
    | .error fault => .ends (.returned (.error fault))
    | .ok args => capability.run args

/-- What is reported when a call has ended. -/
def endEvent (name : String) : Except Fault Json → Event
  | .ok _ => .capabilitySucceeded name
  | .error fault => .capabilityFailed name fault

/-- What a host gets for a call that ends at once. -/
def call? (registry : Registry) (world : World) (name : String) (arguments : Json) :
    Option ToolAnswer :=
  ((registry.dispatch name arguments).ending? world).map fun ending =>
    .ofResult (ending.result name)

/-- What is reported during a call, as far as it goes at once. -/
def callEvents (registry : Registry) (world : World) (name : String) (arguments : Json) :
    List Event :=
  let activity := registry.dispatch name arguments
  .capabilityCalled name :: activity.events world
    ++ match activity.ending? world with
      | some ending => [endEvent name (ending.result name)]
      | none => []

end Registry

end SuiteBridge
