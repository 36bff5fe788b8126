import Mathlib.Data.List.Nodup
import SuiteBridge.Capability.Registry

/-!
# Which catalogues make a registry

A catalogue is in order (`Registry.InOrder`) when no name in it is repeated and every schema in it
is the schema of an argument object (`Json.IsArgumentSchema`). Both are asked of the whole
catalogue, so what is enabled makes no difference to whether it is in order.

Building a registry walks through the catalogue and stops at the first capability that is out of
order. `Registry.problem_cases` carries the capabilities passed so far along this walk: they are in
order, and the names seen are theirs. From it comes what building gives (`Registry.build_admits`).
-/

namespace SuiteBridge

/-! ## Schemas of argument objects -/

/-- A schema of argument objects: of type `object`, with properties, and with no required name that
is not a property. -/
def Json.IsArgumentSchema (schema : Json) : Prop :=
  ∃ keywords properties : Members, schema = .object keywords ∧
    keywords.lookup "type" = some (.string "object") ∧
    keywords.lookup "properties" = some (.object properties) ∧
    ∀ required, keywords.lookup "required" = some required →
      ∃ names : List String, required = .texts names ∧
        ∀ name ∈ names, name ∈ properties.map Prod.fst

/-- What a problem says about a schema. -/
def SchemaProblem.Of : SchemaProblem → Json → Prop
  | .notObject, schema => ∀ keywords, schema ≠ .object keywords
  | .typeNotObject, schema => schema.member? "type" ≠ some (.string "object")
  | .propertiesNotObject, schema =>
    ∀ properties, schema.member? "properties" ≠ some (.object properties)
  | .requiredNotArray, schema =>
    ∃ required, schema.member? "required" = some required ∧ ∀ items, required ≠ .array items
  | .requiredNotText, schema =>
    ∃ items, schema.member? "required" = some (.array items) ∧
      ∃ item ∈ items, ∀ name, item ≠ .string name
  | .requiredUndeclared name, schema =>
    ∃ items properties, schema.member? "required" = some (.array items) ∧ .string name ∈ items ∧
      schema.member? "properties" = some (.object properties) ∧ name ∉ properties.map Prod.fst

/-- No problem can be told of a schema of argument objects. -/
theorem SchemaProblem.Of.not_isArgumentSchema {problem : SchemaProblem} {schema : Json}
    (told : problem.Of schema) : ¬ schema.IsArgumentSchema := by
  rintro ⟨keywords, properties, rfl, typed, declared, required⟩
  cases problem with
  | notObject => exact told keywords rfl
  | typeNotObject => exact told typed
  | propertiesNotObject => exact told properties declared
  | requiredNotArray =>
      obtain ⟨value, given, other⟩ := told
      obtain ⟨names, rfl, -⟩ := required value given
      exact other _ rfl
  | requiredNotText =>
      obtain ⟨items, given, item, member, other⟩ := told
      obtain ⟨names, same, -⟩ := required _ given
      cases same
      obtain ⟨name, -, rfl⟩ := List.mem_map.mp member
      exact other name rfl
  | requiredUndeclared name =>
      obtain ⟨items, others, given, member, also, undeclared⟩ := told
      cases declared.symm.trans also
      obtain ⟨names, same, within⟩ := required _ given
      cases same
      obtain ⟨found, listed, same⟩ := List.mem_map.mp member
      cases same
      exact undeclared (within name listed)

theorem Members.isSome_lookup_iff {members : Members} {name : String} :
    (members.lookup name).isSome = true ↔ name ∈ members.map Prod.fst := by
  rw [List.lookup_isSome_iff, List.mem_map]
  constructor
  · intro found
    obtain ⟨member, listed, same⟩ := found
    exact ⟨member, listed, (beq_iff_eq.mp same).symm⟩
  · intro found
    obtain ⟨member, listed, same⟩ := found
    exact ⟨member, listed, beq_iff_eq.mpr same.symm⟩

/-- The list of required names is looked through up to the first entry that is no property. -/
theorem requiredProblem_cases (properties : Members) (items : List Json) :
    (requiredProblem properties items = none ∧
      ∃ names : List String, items = names.map .string ∧
        ∀ name ∈ names, name ∈ properties.map Prod.fst) ∨
    (requiredProblem properties items = some .requiredNotText ∧
      ∃ item ∈ items, ∀ name, item ≠ .string name) ∨
    ∃ name, requiredProblem properties items = some (.requiredUndeclared name) ∧
      .string name ∈ items ∧ name ∉ properties.map Prod.fst := by
  induction items with
  | nil => exact Or.inl ⟨rfl, [], rfl, by simp⟩
  | cons item items ih =>
      cases item with
      | string name =>
          unfold requiredProblem
          by_cases declared : name ∈ properties.map Prod.fst
          · rw [if_pos (Members.isSome_lookup_iff.mpr declared)]
            rcases ih with ⟨fine, names, rfl, within⟩ | ⟨failed, item, member, other⟩ |
              ⟨other, failed, member, undeclared⟩
            · refine Or.inl ⟨fine, name :: names, rfl, ?_⟩
              exact List.forall_mem_cons.mpr ⟨declared, within⟩
            · exact Or.inr (Or.inl ⟨failed, item, List.mem_cons_of_mem _ member, other⟩)
            · exact Or.inr (Or.inr ⟨other, failed, List.mem_cons_of_mem _ member, undeclared⟩)
          · rw [if_neg (mt Members.isSome_lookup_iff.mp declared)]
            exact Or.inr (Or.inr ⟨name, rfl, List.mem_cons_self, declared⟩)
      | _ => exact Or.inr (Or.inl ⟨rfl, _, List.mem_cons_self, fun _ same => by cases same⟩)

/-- A schema is one of argument objects, or what is wrong with it is told. -/
theorem schemaProblem_cases (schema : Json) :
    (schemaProblem schema = none ∧ schema.IsArgumentSchema) ∨
      ∃ problem, schemaProblem schema = some problem ∧ problem.Of schema := by
  unfold schemaProblem
  split
  · rename_i keywords
    split
    · rename_i untyped
      refine Or.inr ⟨_, rfl, fun typed => untyped ?_⟩
      have found : keywords.lookup "type" = some (.string "object") := typed
      rw [found]
      rfl
    · rename_i typed
      have found : keywords.lookup "type" = some (.string "object") := by
        obtain ⟨value, given, text⟩ := Option.bind_eq_some_iff.mp (not_not.mp typed)
        cases value with
        | string text => cases text; exact given
        | _ => cases text
      split
      · rename_i properties declared
        split
        · rename_i absent
          refine Or.inl ⟨rfl, keywords, properties, rfl, found, declared, fun required given => ?_⟩
          cases absent.symm.trans given
        · rename_i items given
          rcases requiredProblem_cases properties items with ⟨fine, names, rfl, within⟩ |
            ⟨failed, item, member, other⟩ | ⟨name, failed, member, undeclared⟩
          · refine Or.inl ⟨fine, keywords, properties, rfl, found, declared, ?_⟩
            intro required also
            cases given.symm.trans also
            exact ⟨names, rfl, within⟩
          · exact Or.inr ⟨_, failed, items, given, item, member, other⟩
          · exact Or.inr ⟨_, failed, items, properties, given, member, declared, undeclared⟩
        · rename_i required other given
          exact Or.inr ⟨_, rfl, required, given, fun items same => other items same⟩
      · rename_i other
        exact Or.inr ⟨_, rfl, fun properties declared => other properties declared⟩
  · rename_i other
    exact Or.inr ⟨_, rfl, fun keywords same => other keywords same⟩

/-! ## Catalogues -/

namespace Registry

/-- The names in a catalogue. -/
def namesIn (catalogue : List Capability) : List String :=
  catalogue.map fun capability => capability.descriptor.name

/-- A catalogue in which no name is repeated and every schema is one of argument objects. -/
structure InOrder (catalogue : List Capability) : Prop where
  distinct : (namesIn catalogue).Nodup
  schemas : ∀ capability ∈ catalogue, capability.descriptor.schema.IsArgumentSchema

/-- A problem is about the first capability that is out of order: all before it are in order, and
it repeats a name of theirs, whatever its schema, or else its schema is at fault. -/
inductive FirstOffence : List Capability → RegistryProblem → Prop
  | duplicate {before after : List Capability} {capability : Capability} :
    InOrder before → capability.descriptor.name ∈ namesIn before →
    FirstOffence (before ++ capability :: after) (.duplicate capability.descriptor.name)
  | schema {before after : List Capability} {capability : Capability} {problem : SchemaProblem} :
    InOrder before → capability.descriptor.name ∉ namesIn before →
    ¬ capability.descriptor.schema.IsArgumentSchema → problem.Of capability.descriptor.schema →
    FirstOffence (before ++ capability :: after) (.schema capability.descriptor.name problem)

variable {catalogue before : List Capability} {enabled : List Category} {registry : Registry}

theorem inOrder_nil : InOrder [] :=
  ⟨List.nodup_nil, by simp⟩

theorem InOrder.concat {capability : Capability} (fine : InOrder before)
    (new : capability.descriptor.name ∉ namesIn before)
    (schema : capability.descriptor.schema.IsArgumentSchema) :
    InOrder (before ++ [capability]) := by
  constructor
  · rw [namesIn, List.map_append]
    exact fine.distinct.append (List.nodup_singleton _) (by simpa using new)
  · intro other member
    rcases List.mem_append.mp member with earlier | last
    · exact fine.schemas other earlier
    · rw [List.mem_singleton.mp last]
      exact schema

/-- A catalogue with a first offence is out of order. -/
theorem FirstOffence.not_inOrder {problem : RegistryProblem}
    (offence : FirstOffence catalogue problem) : ¬ InOrder catalogue := by
  intro fine
  cases offence with
  | @duplicate before after capability _ repeated =>
      have distinct := fine.distinct
      rw [namesIn, List.map_append, List.nodup_append] at distinct
      exact distinct.2.2 _ repeated _ List.mem_cons_self rfl
  | schema _ _ unfit _ =>
      exact unfit (fine.schemas _ (List.mem_append_right _ List.mem_cons_self))

/-- **The walk through a catalogue.** With the capabilities passed so far in order and their names
seen, either the rest is in order as well or the walk stops at the first offence. -/
theorem problem_cases {seen : List String} (fine : InOrder before)
    (seen_iff : ∀ name, name ∈ seen ↔ name ∈ namesIn before) (rest : List Capability) :
    (problem seen rest = none ∧ InOrder (before ++ rest)) ∨
      ∃ found, problem seen rest = some found ∧ FirstOffence (before ++ rest) found := by
  induction rest generalizing before seen with
  | nil => exact Or.inl ⟨rfl, by rwa [List.append_nil]⟩
  | cons capability rest ih =>
      unfold problem
      by_cases repeated : capability.descriptor.name ∈ seen
      · have earlier := (seen_iff _).mp repeated
        exact Or.inr ⟨_, if_pos repeated, .duplicate fine earlier⟩
      · have new : capability.descriptor.name ∉ namesIn before := mt (seen_iff _).mpr repeated
        simp only [if_neg repeated]
        rcases schemaProblem_cases capability.descriptor.schema with ⟨fits, fit⟩ |
          ⟨found, fails, told⟩
        · have passed : ∀ name, name ∈ capability.descriptor.name :: seen ↔
              name ∈ namesIn (before ++ [capability]) := by
            intro name
            rw [namesIn, List.map_append, List.mem_append, List.mem_cons, seen_iff, or_comm]
            simp [namesIn]
          rw [fits, List.append_cons]
          exact ih (fine.concat new fit) passed
        · rw [fails]
          exact Or.inr ⟨_, rfl, .schema fine new told.not_isArgumentSchema told⟩

theorem build_cases (catalogue : List Capability) (enabled : List Category) :
    (InOrder catalogue ∧
      build catalogue enabled = .ok ⟨catalogue.filter (isEnabled enabled)⟩) ∨
    ∃ found, FirstOffence catalogue found ∧ build catalogue enabled = .error found := by
  have unseen : ∀ name, name ∈ ([] : List String) ↔ name ∈ namesIn [] := fun _ => Iff.rfl
  unfold build
  rcases problem_cases inOrder_nil unseen catalogue with ⟨passed, fine⟩ | ⟨found, stopped, offence⟩
  · rw [passed]
    exact Or.inl ⟨fine, rfl⟩
  · rw [stopped]
    exact Or.inr ⟨found, offence, rfl⟩

theorem isEnabled_iff {capability : Capability} :
    isEnabled enabled capability = true ↔ capability.descriptor.category ∈ enabled := by
  simp [isEnabled]

/-- A registry that is built has the enabled capabilities of its catalogue, no name twice. -/
theorem build_eq_ok (built : build catalogue enabled = .ok registry) :
    (namesIn registry.entries).Nodup ∧
      ∀ entry, entry ∈ registry.entries ↔
        entry ∈ catalogue ∧ entry.descriptor.category ∈ enabled := by
  rcases build_cases catalogue enabled with ⟨fine, made⟩ | ⟨found, -, failed⟩
  · cases made.symm.trans built
    refine ⟨fine.distinct.sublist (List.filter_sublist.map _), fun entry => ?_⟩
    rw [List.mem_filter, isEnabled_iff]
  · cases failed.symm.trans built

/-- With no name twice, the capability of a name is the only one that bears it. -/
theorem get?_eq_some_iff (distinct : (namesIn registry.entries).Nodup) {name : String}
    {entry : Capability} :
    registry.get? name = some entry ↔ entry ∈ registry.entries ∧ entry.descriptor.name = name := by
  constructor
  · intro found
    have named := List.find?_some found
    exact ⟨List.mem_of_find?_eq_some found, by simpa using named⟩
  · rintro ⟨member, rfl⟩
    cases found : registry.get? entry.descriptor.name with
    | none =>
        have unnamed := List.find?_eq_none.mp found entry member
        simp at unnamed
    | some other =>
        have named : other.descriptor.name = entry.descriptor.name := by
          simpa using List.find?_some found
        have registered := List.mem_of_find?_eq_some found
        rw [List.inj_on_of_nodup_map distinct registered member named]

/-- **A registry is built exactly from a catalogue that is in order**, whatever is enabled. It then
has the names of the enabled capabilities in the order of the catalogue, and under each of them the
capability that bears it there. Otherwise what is told is the first offence in the catalogue, also
when it is about capabilities that are not enabled. -/
theorem build_admits (catalogue : List Capability) (enabled : List Category) :
    ((∃ registry, build catalogue enabled = .ok registry) ↔ InOrder catalogue) ∧
    (∀ registry, build catalogue enabled = .ok registry →
      registry.names =
        namesIn (catalogue.filter fun capability => capability.descriptor.category ∈ enabled) ∧
      ∀ name capability, registry.get? name = some capability ↔
        capability ∈ catalogue ∧ capability.descriptor.name = name ∧
          capability.descriptor.category ∈ enabled) ∧
    ∀ found, build catalogue enabled = .error found → FirstOffence catalogue found := by
  rcases build_cases catalogue enabled with ⟨fine, built⟩ | ⟨found, offence, failed⟩
  · refine ⟨iff_of_true ⟨_, built⟩ fine, fun registry same => ?_, fun found failed => ?_⟩
    · have registered := build_eq_ok same
      cases built.symm.trans same
      constructor
      · unfold names namesIn isEnabled
        simp
      · intro name capability
        rw [get?_eq_some_iff registered.1, registered.2, and_right_comm, and_assoc]
    · cases built.symm.trans failed
  · refine ⟨iff_of_false ?_ offence.not_inOrder, fun registry built => ?_, fun other same => ?_⟩
    · intro ⟨registry, built⟩
      cases failed.symm.trans built
    · cases failed.symm.trans built
    · cases failed.symm.trans same
      exact offence

/-- A schema without properties. -/
def bareSchema : Json :=
  .object [("type", .string "object"), ("properties", .object [])]

/-- A capability that never ends. -/
def idle (category : Category) (name : String) (schema : Json) : Capability :=
  ⟨⟨name, "waits for ever", schema, category⟩, fun _ => .hangs⟩

/-- Three capabilities, two of them of the wiki. -/
def trio : List Capability :=
  [idle .wiki "first" bareSchema, idle .drive "second" bareSchema, idle .wiki "third" bareSchema]

/-- With the wiki enabled, the three make a registry of two. With a namesake of the one that is not
enabled, they make none; that the namesake has no schema at all is not what is told. -/
theorem build_admits_trio :
    (∃ registry, build trio [.wiki] = .ok registry ∧ registry.names = ["first", "third"] ∧
      registry.get? "second" = none) ∧
    build (trio ++ [idle .calendar "second" .null]) [.wiki] = .error (.duplicate "second") ∧
    FirstOffence (trio ++ [idle .calendar "second" .null]) (.duplicate "second") ∧
    ¬ InOrder (trio ++ [idle .calendar "second" .null]) := by
  obtain ⟨-, registered, -⟩ := build_admits trio [.wiki]
  obtain ⟨admitted, -, told⟩ := build_admits (trio ++ [idle .calendar "second" .null]) [.wiki]
  have built : build trio [.wiki] = .ok ⟨trio.filter (isEnabled [.wiki])⟩ := rfl
  have failed : build (trio ++ [idle .calendar "second" .null]) [.wiki] =
      .error (.duplicate "second") := rfl
  obtain ⟨named, -⟩ := registered _ built
  refine ⟨⟨_, built, named, rfl⟩, failed, told _ failed, fun fine => ?_⟩
  obtain ⟨registry, also⟩ := admitted.mpr fine
  cases failed.symm.trans also

end Registry

end SuiteBridge
