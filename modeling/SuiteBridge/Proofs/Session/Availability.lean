import SuiteBridge.Category.Selection
import SuiteBridge.Host.Service
import SuiteBridge.Proofs.Registry.Admission
import SuiteBridge.Suite.Catalogue

/-!
# Listed, enabled, callable

A setting selects categories, a registry is built from a catalogue and the selection, and a host
both lists the registry and calls into it. All four agree on what there is: a name is listed exactly
if the catalogue has a capability of that name in a selected category, and exactly then a call of it
runs that capability. Any other call is refused before a capability runs (`Host.available_iff`).

Which capability runs is told by rewiring a registry: another behaviour is put behind each name, and
a call comes out as the behaviour behind one of them (`Service.Runs`) or does not change at all
(`Service.Refuses`).
-/

namespace SuiteBridge

/-! ## Registries -/

namespace Registry

variable {registry : Registry}

/-- A registry with another behaviour behind each name. -/
def rewired (behave : String → Arguments → Activity) (registry : Registry) : Registry :=
  ⟨registry.entries.map fun capability =>
    ⟨capability.descriptor, behave capability.descriptor.name⟩⟩

theorem get?_rewired (behave : String → Arguments → Activity) (name : String) :
    (registry.rewired behave).get? name = (registry.get? name).map fun capability =>
      ⟨capability.descriptor, behave capability.descriptor.name⟩ :=
  List.find?_map

end Registry

namespace Host

/-! ## Calls -/

/-- The arguments of a call, if they are left out, null or an object. -/
def argumentsIn? (params : Json) : Option Arguments :=
  match params.member? "arguments" with
  | none | some .null => some .none
  | some (.object members) => some ⟨members⟩
  | some _ => none

theorem ofJson_of_argumentsIn?_eq_some {params : Json} {args : Arguments}
    (given : argumentsIn? params = some args) :
    Arguments.ofJson (Json.orNull (params.member? "arguments")) = .ok args := by
  unfold argumentsIn? at given
  split at given
  · rename_i absent
    cases given
    rw [absent]
    rfl
  · rename_i null
    cases given
    rw [null]
    rfl
  · rename_i members object
    cases given
    rw [object]
    rfl
  · cases given

theorem ofJson_of_argumentsIn?_eq_none {params : Json} (unfit : argumentsIn? params = none) :
    ∃ fault : Fault, Arguments.ofJson (Json.orNull (params.member? "arguments")) = .error fault ∧
      fault.kind = .validation ∧ fault.code = some "INVALID_ARGUMENTS" := by
  unfold argumentsIn? at unfit
  split at unfit
  · cases unfit
  · cases unfit
  · cases unfit
  · rename_i value notNull notObject given
    rw [given]
    cases value with
    | null => exact absurd rfl notNull
    | object members => exact absurd rfl (notObject members)
    | _ => exact ⟨_, rfl, rfl, rfl⟩

namespace Service

variable {service : Service} {name : String} {params : Json}

/-- A service with another behaviour behind each name. -/
def rewired (behave : String → Arguments → Activity) (service : Service) : Service :=
  { service with registry := service.registry.rewired behave }

/-- A name is among the tools that a host is told about. -/
def Lists (service : Service) (name : String) : Prop :=
  ∃ tools,
    (∀ id params, service.work ⟨id, "tools/list", params⟩ =
      .replies (.result id (.object [("tools", .array tools)]))) ∧
    ∃ tool ∈ tools, tool.member? "name" = some (.string name)

/-- A request sets a capability to work on some arguments, and no other: with another behaviour
behind each name, it sets off the one behind the name of the capability. -/
structure Runs (service : Service) (request : Request) (entry : Capability) (args : Arguments) :
    Prop where
  work_eq : service.work request = .runs request.id entry.descriptor.name (entry.run args)
  only : ∀ behave, (service.rewired behave).work request =
    .runs request.id entry.descriptor.name (behave entry.descriptor.name args)

/-- A request is answered with the report of what is wrong with it, and no capability is set to
work: with another behaviour behind each name, the same happens. -/
structure Refuses (service : Service) (request : Request) (code : String) : Prop where
  reply : ∃ report : FaultReport, report.kind = .validation ∧ report.code = some code ∧
    ∀ world, (service.work request).reply? world =
      some (.result request.id (ToolAnswer.failure report).toolResult)
  unchanged : ∀ behave, (service.rewired behave).work request = service.work request

theorem Refuses.not_runs {request : Request} {code : String} {entry : Capability}
    {args : Arguments} (refuses : service.Refuses request code) :
    ¬ service.Runs request entry args := by
  intro runs
  have hanging := (runs.only fun _ _ => .hangs).symm.trans (refuses.unchanged _)
  have breaking := (runs.only fun _ _ => .ends (.brokeOff none)).symm.trans (refuses.unchanged _)
  cases hanging.trans breaking.symm

theorem lists_iff : service.Lists name ↔
    ∃ entry ∈ service.registry.entries, entry.descriptor.name = name := by
  constructor
  · rintro ⟨tools, told, tool, member, named⟩
    have listed : tools = service.registry.tools := by
      have same := told .null .null
      simp only [work, Work.replies.injEq, Reply.result.injEq, Json.object.injEq, List.cons.injEq,
        Prod.mk.injEq, Json.array.injEq, true_and, and_true] at same
      exact same.symm
    rw [listed] at member
    obtain ⟨entry, registered, rfl⟩ := List.mem_map.mp member
    exact ⟨entry, registered, Json.string.inj (Option.some.inj named)⟩
  · rintro ⟨entry, registered, rfl⟩
    exact ⟨service.registry.tools, fun _ _ => rfl, entry.descriptor.toTool,
      List.mem_map_of_mem registered, rfl⟩

theorem work_call (service : Service) (id : Json)
    (named : params.member? "name" = some (.string name)) :
    service.work ⟨id, "tools/call", params⟩ = .runs id name
      (service.registry.dispatch name (Json.orNull (params.member? "arguments"))) := by
  simp [work, toolWork, named, Json.text?]

/-- A call of a registered name with arguments runs the capability of that name. -/
theorem runs_of_get? {entry : Capability} {args : Arguments}
    (found : service.registry.get? name = some entry)
    (named : params.member? "name" = some (.string name))
    (given : argumentsIn? params = some args) (id : Json) :
    service.Runs ⟨id, "tools/call", params⟩ entry args := by
  have own : entry.descriptor.name = name := by
    simpa using List.find?_some found
  have read := ofJson_of_argumentsIn?_eq_some given
  constructor
  · rw [work_call service id named, Registry.dispatch, found, own]
    simp only [read]
  · intro behave
    rw [work_call (service.rewired behave) id named, Registry.dispatch, rewired,
      Registry.get?_rewired, found]
    simp only [Option.map_some, read, own]

/-- A call that fails over its name or its arguments is refused whatever the capabilities do. -/
theorem refuses_of_dispatch (fault : Fault) {code : String}
    (named : params.member? "name" = some (.string name)) (kind : fault.kind = .validation)
    (coded : fault.code = some code)
    (failed : ∀ behave, (service.registry.rewired behave).dispatch name
      (Json.orNull (params.member? "arguments")) = .ends (.returned (.error fault)))
    (also : service.registry.dispatch name (Json.orNull (params.member? "arguments")) =
      .ends (.returned (.error fault))) (id : Json) :
    service.Refuses ⟨id, "tools/call", params⟩ code := by
  constructor
  · refine ⟨fault.report, kind, coded, fun world => ?_⟩
    rw [work_call service id named, also]
    rfl
  · intro behave
    rw [work_call (service.rewired behave) id named, work_call service id named, also]
    exact congrArg _ (failed behave)

theorem refuses_unknown (unknown : service.registry.get? name = none)
    (named : params.member? "name" = some (.string name)) (id : Json) :
    service.Refuses ⟨id, "tools/call", params⟩ "UNKNOWN_CAPABILITY" := by
  refine refuses_of_dispatch ((Fault.validation ("unknown capability '" ++ name ++ "'")).withCode
    "UNKNOWN_CAPABILITY") named rfl rfl (fun behave => ?_) ?_ id
  · rw [Registry.dispatch, Registry.get?_rewired, unknown]
    rfl
  · rw [Registry.dispatch, unknown]

theorem refuses_arguments {entry : Capability} (found : service.registry.get? name = some entry)
    (named : params.member? "name" = some (.string name)) (unfit : argumentsIn? params = none)
    (id : Json) : service.Refuses ⟨id, "tools/call", params⟩ "INVALID_ARGUMENTS" := by
  obtain ⟨fault, failed, kind, coded⟩ := ofJson_of_argumentsIn?_eq_none unfit
  refine refuses_of_dispatch fault named kind coded (fun behave => ?_) ?_ id
  · rw [Registry.dispatch, Registry.get?_rewired, found]
    simp only [Option.map_some, failed]
  · rw [Registry.dispatch, found]
    simp only [failed]

end Service

/-- **Listed, enabled and callable are the same.** In a service over the registry of a catalogue and
a setting, a name is listed exactly if the catalogue has a capability of that name in a selected
category, and exactly if a call of it, with arguments that are left out, null or an object, runs
that capability and no other. A call of any other name is refused whatever its arguments, and so is
a call of a listed name with arguments of another kind. -/
theorem available_iff {raw : Option String} {catalogue : List Capability} {service : Service}
    (built : Registry.build catalogue (Selection.ofSetting raw).enabled = .ok service.registry)
    (name : String) :
    (service.Lists name ↔ ∃ entry ∈ catalogue, entry.descriptor.name = name ∧
      entry.descriptor.category ∈ (Selection.ofSetting raw).enabled) ∧
    (service.Lists name ↔ ∃ entry ∈ catalogue, entry.descriptor.name = name ∧
      ∀ id params args, params.member? "name" = some (.string name) →
        argumentsIn? params = some args → service.Runs ⟨id, "tools/call", params⟩ entry args) ∧
    (¬ service.Lists name → ∀ id params, params.member? "name" = some (.string name) →
      service.Refuses ⟨id, "tools/call", params⟩ "UNKNOWN_CAPABILITY") ∧
    (service.Lists name → ∀ id params, params.member? "name" = some (.string name) →
      argumentsIn? params = none →
        service.Refuses ⟨id, "tools/call", params⟩ "INVALID_ARGUMENTS") := by
  obtain ⟨distinct, registered⟩ := Registry.build_eq_ok built
  have found : service.Lists name ↔ ∃ entry, service.registry.get? name = some entry := by
    rw [Service.lists_iff]
    exact exists_congr fun entry => (Registry.get?_eq_some_iff distinct).symm
  have refused : ¬ service.Lists name → ∀ id params,
      params.member? "name" = some (.string name) →
        service.Refuses ⟨id, "tools/call", params⟩ "UNKNOWN_CAPABILITY" := by
    intro unlisted id params named
    have unknown : service.registry.get? name = none := by
      rw [found, not_exists] at unlisted
      exact Option.eq_none_iff_forall_ne_some.mpr unlisted
    exact Service.refuses_unknown unknown named id
  refine ⟨?_, ⟨fun listed => ?_, ?_⟩, refused, fun listed id params named unfit => ?_⟩
  · rw [Service.lists_iff]
    constructor
    · rintro ⟨entry, member, named⟩
      obtain ⟨offered, enabled⟩ := (registered entry).mp member
      exact ⟨entry, offered, named, enabled⟩
    · rintro ⟨entry, offered, named, enabled⟩
      exact ⟨entry, (registered entry).mpr ⟨offered, enabled⟩, named⟩
  · obtain ⟨entry, known⟩ := found.mp listed
    obtain ⟨member, own⟩ := (Registry.get?_eq_some_iff distinct).mp known
    refine ⟨entry, ((registered entry).mp member).1, own, ?_⟩
    intro id params args named given
    exact Service.runs_of_get? known named given id
  · -- A call without arguments tells whether the name is known.
    rintro ⟨entry, -, -, runs⟩
    by_contra unlisted
    have refuses := refused unlisted .null (.object [("name", .string name)]) rfl
    exact refuses.not_runs (runs .null _ .none rfl rfl)
  · obtain ⟨entry, known⟩ := found.mp listed
    exact Service.refuses_arguments known named unfit id

/-- A service with the wiki tools alone. -/
def wikiService : Service :=
  .ofRegistry ⟨Suite.catalogue.filter (Registry.isEnabled [.wiki])⟩ none

/-- With the wiki selected and a name that is no category, a wiki tool can be called, but not with a
list for its arguments, and the calendar cannot be called at all. -/
theorem available_iff_wikiService :
    wikiService.Lists "dooray_wiki_list_projects" ∧
    (∃ entry ∈ Suite.catalogue, entry.descriptor.name = "dooray_wiki_list_projects" ∧
      wikiService.Runs ⟨.null, "tools/call", .object [
        ("name", .string "dooray_wiki_list_projects"), ("arguments", .null)]⟩ entry .none) ∧
    wikiService.Refuses ⟨.null, "tools/call", .object [
      ("name", .string "dooray_calendar_list")]⟩ "UNKNOWN_CAPABILITY" ∧
    wikiService.Refuses ⟨.null, "tools/call", .object [
      ("name", .string "dooray_wiki_list_projects"), ("arguments", .array [])]⟩
      "INVALID_ARGUMENTS" := by
  have enabled : (Selection.ofSetting (some " Wiki, mail")).enabled = [.wiki] := by decide +kernel
  have built : Registry.build Suite.catalogue (Selection.ofSetting (some " Wiki, mail")).enabled =
      .ok wikiService.registry := by
    have fine : Registry.problem [] Suite.catalogue = none := by decide +kernel
    rw [enabled, Registry.build, fine]
    rfl
  have offered : Suite.Wiki.listProjects.toCapability ∈ Suite.catalogue :=
    List.mem_map_of_mem (by simp [Suite.tools, Suite.Wiki.tools])
  obtain ⟨listed, runs, -, unfit⟩ := available_iff built "dooray_wiki_list_projects"
  obtain ⟨calendar, -, refused, -⟩ := available_iff built "dooray_calendar_list"
  have lists := listed.mpr ⟨_, offered, rfl, by rw [enabled]; decide⟩
  have unlisted : ¬ wikiService.Lists "dooray_calendar_list" := by
    have other : ∀ entry ∈ Suite.catalogue, entry.descriptor.name = "dooray_calendar_list" →
        entry.descriptor.category ∉ [Category.wiki] := by
      decide +kernel
    rw [calendar, enabled]
    rintro ⟨entry, member, named, selected⟩
    exact other entry member named selected
  obtain ⟨entry, member, named, called⟩ := runs.mp lists
  exact ⟨lists, ⟨entry, member, named, called .null _ .none rfl rfl⟩,
    refused unlisted .null _ rfl, unfit lists .null _ rfl rfl⟩

end Host

end SuiteBridge
