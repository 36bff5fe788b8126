import SuiteBridge.Proofs.Json.Distinct

/-!
# Schemas

Hosts are told in a JSON schema what arguments a capability takes. `Json.accepts` says which values
are valid against a schema, for the keywords that restrict a value here: `type`, `minimum`, `enum`,
`items`, `properties` and `required`. Members that a schema does not mention are left alone.

A number without a fraction counts as an integer however it is written. A value is listed in an
`enum` if it is written like one of the options; for options without doubles that is the same value
(`Json.acceptsAll_enum`).
-/

namespace SuiteBridge

/-- A numerator and a denominator of a number. -/
def Number.ratio : Number → Int × Nat
  | .integer i => (i, 1)
  | .real x =>
    let (numerator, denominator) := Binary64.ratio x.mantissa x.exponent
    (if x.negative then -numerator else numerator, denominator)

/-- Whether a number is at least another one. -/
def Number.isAtLeast (least n : Number) : Bool :=
  least.ratio.1 * n.ratio.2 ≤ n.ratio.1 * least.ratio.2

namespace Json

/-- Whether a value is a number without a fraction, however it is written. -/
def isWhole : Json → Bool
  | .number n => n.ratio.1 % n.ratio.2 == 0
  | _ => false

/-- Whether a value is of a type that schemas name. -/
def isOfType (value : Json) : Json → Bool
  | .string "integer" => value.isWhole
  | .string type => type == value.kindName
  | _ => true

/-- Whether a number is not below a bound. Other values have none. -/
def isAtLeast (value : Json) : Json → Bool
  | .number least => match value with
    | .number n => least.isAtLeast n
    | _ => true
  | _ => true

/-- Whether a value is among those listed. -/
def isListed (value : Json) : Json → Bool
  | .array options => options.any fun option => option.render == value.render
  | _ => true

/-- Whether an object has the members that are listed. Other values need none. -/
def hasListed (value : Json) : Json → Bool
  | .array names => match value with
    | .object members =>
      names.all fun name => (name.text?.bind fun key => members.lookup key).isSome
    | _ => true
  | _ => true

mutual

/-- Whether a value is valid against a schema. -/
def accepts : (schema value : Json) → Bool
  | .object keywords, value => acceptsAll keywords value
  | _, _ => true

/-- Whether a value is valid against each keyword of a schema. Keywords that are for people accept
everything. -/
def acceptsAll : (keywords : Members) → (value : Json) → Bool
  | [], _ => true
  | (keyword, operand) :: rest, value =>
    (match keyword with
      | "type" => value.isOfType operand
      | "minimum" => value.isAtLeast operand
      | "enum" => value.isListed operand
      | "required" => value.hasListed operand
      | "items" => match value with
        | .array items => items.all fun item => accepts operand item
        | _ => true
      | "properties" => match operand with
        | .object properties => acceptsMembers properties value
        | _ => true
      | _ => true)
    && acceptsAll rest value

/-- Whether the members of an object are valid against their schemas. -/
def acceptsMembers : (properties : Members) → (value : Json) → Bool
  | [], _ => true
  | (name, schema) :: rest, value =>
    (match value.member? name with
      | some found => accepts schema found
      | none => true)
    && acceptsMembers rest value

end

theorem acceptsMembers_iff {properties : Members} {value : Json} :
    acceptsMembers properties value = true ↔
      ∀ property ∈ properties, ∀ found, value.member? property.1 = some found →
        accepts property.2 found = true := by
  induction properties with
  | nil => simp [acceptsMembers]
  | cons property rest ih =>
      rw [acceptsMembers, Bool.and_eq_true, ih, List.forall_mem_cons]
      refine and_congr_left' ?_
      cases value.member? property.1 <;> simp

section Keywords

variable {type : String} {operand value : Json} {rest : Members}

@[simp] theorem acceptsAll_nil : acceptsAll [] value = true := by
  rw [acceptsAll]

@[simp] theorem acceptsAll_type (plain : type ≠ "integer") :
    acceptsAll (("type", .string type) :: rest) value = true ↔
      value.kindName = type ∧ acceptsAll rest value = true := by
  rw [acceptsAll, Bool.and_eq_true]
  refine and_congr_left' ?_
  simp only [isOfType]
  rw [beq_iff_eq, eq_comm]

@[simp] theorem acceptsAll_description :
    acceptsAll (("description", operand) :: rest) value = acceptsAll rest value := by
  simp [acceptsAll]

@[simp] theorem acceptsAll_enum {options : List String} :
    acceptsAll (("enum", .texts options) :: rest) value = true ↔
      (∃ s ∈ options, value = .string s) ∧ acceptsAll rest value = true := by
  -- Texts hold no doubles, so that a value written like one of them is that text.
  have alike : ∀ s, (Json.string s).render = value.render ↔ value = .string s := fun s =>
    ⟨fun same => (eq_of_render_eq (by rfl) same).symm, fun same => by rw [same]⟩
  simp [acceptsAll, isListed, texts, alike]

@[simp] theorem acceptsAll_items {items : List Json} :
    acceptsAll (("items", operand) :: rest) (.array items) = true ↔
      (∀ item ∈ items, operand.accepts item = true) ∧ acceptsAll rest (.array items) = true := by
  simp [acceptsAll]

/-- What the schema of an object with some properties, some of them required, accepts. -/
theorem accepts_object_iff {properties : Members} {names : List String} :
    (Json.object [("type", .string "object"), ("properties", .object properties),
      ("required", .texts names)]).accepts value = true ↔
      ∃ members, value = .object members ∧
        (∀ property ∈ properties, ∀ found, members.lookup property.1 = some found →
          property.2.accepts found = true) ∧
        ∀ name ∈ names, ∃ found, members.lookup name = some found := by
  cases value with
  | object members =>
      simp [accepts, acceptsAll, acceptsMembers_iff, isOfType, hasListed, texts, kindName, member?,
        text?, Option.isSome_iff_exists]
  | null | bool | number | string | array => simp [accepts, kindName]

end Keywords

end Json

end SuiteBridge
