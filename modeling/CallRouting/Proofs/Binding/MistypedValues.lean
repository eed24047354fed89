import CallRouting.Proofs.Binding.Acceptance
import CallRouting.Proofs.Binding.Assignments

/-!
# Values that make a run fail

A run takes values from three places: the built-in values map by map, the client's configuration in
the order in which the service declares its client parameters, and the bound members of the input in
their order. `Service.taken` lists them in the order in which they are taken, and `Taken.Fails` says
of one value what is wrong with it. Neither mentions the steps of a program.

A run ends with the first fault of that list. So a value of the wrong type makes it fail even if a
later source has another value for the parameter, and what is passed over never does: a built-in
value for a parameter that is not built-in, and a value of the client for anything but a client
parameter that is not built-in.
-/

namespace CallRouting

open Binding

open Call (Input)

namespace Binding

/-- A value that a run takes, with the name of the parameter that it is for. -/
inductive Taken where
  /-- A built-in value. -/
  | builtIn (name : String) (value : ParameterValue)
  /-- The client's value for a client parameter. -/
  | client (name : String) (value : ParameterValue)
  /-- What a member of the input holds. -/
  | member (member name : String) (raw : Json.Value)

/-- What is wrong with a value that a run takes. -/
inductive Taken.Fails (catalog : Catalog) : Taken → Failure → Prop
  /-- A built-in value is not of the type of its parameter, which is built-in. -/
  | builtIn {name : String} {value : ParameterValue} {p : Parameter} (hp : p ∈ catalog.parameters)
      (hname : p.name = name) (hbuiltIn : p.isBuiltIn = true) (htype : value.type ≠ p.type) :
      Fails catalog (.builtIn name value) (.mistyped name .builtIn p.type value.type)
  /-- A value of the client is not of the type of its parameter, which is not built-in. -/
  | client {name : String} {value : ParameterValue} {p : Parameter} (hp : p ∈ catalog.parameters)
      (hname : p.name = name) (hopen : p.isBuiltIn = false) (htype : value.type ≠ p.type) :
      Fails catalog (.client name value) (.mistyped name .clientContext p.type value.type)
  /-- A member of the input is not exactly of the type of its parameter. -/
  | member {member name : String} {raw : Json.Value} {p : Parameter} (hp : p ∈ catalog.parameters)
      (hname : p.name = name) (htype : ¬p.type.Admits raw) :
      Fails catalog (.member member name raw) (.invalidMember member name ⟨p.type, raw.kindName⟩)

end Binding

/-- The values that a run of an operation takes, in the order in which it takes them. -/
def Service.taken (s : Service) (o : Operation) (builtIns : BuiltInValues)
    (client : OrderedMap ParameterValue) (input : Input) : List Taken :=
  (builtIns.flatMap OrderedMap.entries).map (fun e ↦ .builtIn e.1 e.2)
    ++ s.clientParameters.keys.filterMap (fun name ↦ (client.get? name).map (.client name))
    ++ o.bindings.filterMap fun b ↦ (input.given? b.1).map (.member b.1 b.2)

namespace Binding

/-! ## The fault of one value -/

/-- What a run finds wrong with a value that it takes, if anything is. -/
private def Taken.fault (p : Program) : Taken → Option Failure
  | .builtIn name value => p.builtInFault (name, value)
  | .client name value =>
    if p.catalog.isOpen name then p.typeFault name value .clientContext else none
  | .member m name raw =>
    (p.catalog.get? name).bind fun declared ↦
      match ParameterValue.ofJson declared.type raw with
      | .ok _ => none
      | .error cause => some (.invalidMember m name cause)

section DistinctNames

variable {p : Program} (hnodup : p.catalog.names.Nodup)

include hnodup

private theorem typeFault_eq_some_iff {name : String} {value : ParameterValue} {origin : Source}
    {failure : Failure} :
    p.typeFault name value origin = some failure ↔
      ∃ declared ∈ p.catalog.parameters, declared.name = name ∧ value.type ≠ declared.type ∧
        failure = .mistyped name origin declared.type value.type := by
  constructor
  · intro h
    obtain ⟨declared, hget, htype, rfl⟩ := p.exists_of_typeFault h
    obtain ⟨hdeclared, hname⟩ := Catalog.of_get?_eq_some hget
    exact ⟨declared, hdeclared, hname, htype, rfl⟩
  · rintro ⟨declared, hdeclared, hname, htype, rfl⟩
    rw [Program.typeFault, (get?_eq_some_iff_of_nodup hnodup).mpr ⟨hdeclared, hname⟩]
    exact if_neg htype

private theorem Taken.fault_eq_some_iff (taken : Taken) (failure : Failure) :
    taken.fault p = some failure ↔ taken.Fails p.catalog failure := by
  have hfind : ∀ {declared : Parameter} {name : String}, declared ∈ p.catalog.parameters →
      declared.name = name → p.catalog.get? name = some declared :=
    fun hdeclared hname ↦ (get?_eq_some_iff_of_nodup hnodup).mpr ⟨hdeclared, hname⟩
  cases taken with
  | builtIn name value =>
    rw [fault, Program.builtInFault, Program.isBuiltIn]
    constructor
    · intro h
      split_ifs at h with hbuiltIn
      obtain ⟨declared, hdeclared, hname, htype, rfl⟩ := (typeFault_eq_some_iff hnodup).mp h
      rw [hfind hdeclared hname] at hbuiltIn
      exact .builtIn hdeclared hname hbuiltIn htype
    · intro h
      cases h with
      | builtIn hdeclared hname hbuiltIn htype =>
        rw [hfind hdeclared hname, if_pos hbuiltIn]
        exact (typeFault_eq_some_iff hnodup).mpr ⟨_, hdeclared, hname, htype, rfl⟩
  | client name value =>
    rw [fault, Catalog.isOpen]
    constructor
    · intro h
      split_ifs at h with hopen
      obtain ⟨declared, hdeclared, hname, htype, rfl⟩ := (typeFault_eq_some_iff hnodup).mp h
      rw [hfind hdeclared hname] at hopen
      exact .client hdeclared hname (by simpa using hopen) htype
    · intro h
      cases h with
      | client hdeclared hname hopen htype =>
        rw [hfind hdeclared hname, if_pos (by simpa using hopen)]
        exact (typeFault_eq_some_iff hnodup).mpr ⟨_, hdeclared, hname, htype, rfl⟩
  | member m name raw =>
    rw [fault, Option.bind_eq_some_iff]
    constructor
    · rintro ⟨declared, hget, h⟩
      obtain ⟨hdeclared, hname⟩ := Catalog.of_get?_eq_some hget
      cases hread : ParameterValue.ofJson declared.type raw with
      | ok v => simp [hread] at h
      | error cause =>
        rw [hread] at h
        obtain ⟨htype, rfl⟩ := ofJson_eq_error_iff.mp hread
        obtain rfl := Option.some.inj h
        exact .member hdeclared hname htype
    · intro h
      cases h with
      | member hdeclared hname htype =>
        refine ⟨_, hfind hdeclared hname, ?_⟩
        rw [ofJson_eq_error_iff.mpr ⟨htype, rfl⟩]

end DistinctNames

/-! ## The first fault of a run -/

section Run

variable (service : Service) (catalog : Catalog) (o : Operation) (builtIns : BuiltInValues)
  (client : OrderedMap ParameterValue) (input : Input)

private theorem findSome?_builtIns :
    (if catalog.hasBuiltIns then [Step.builtIns] else []).findSome?
        ((programOf service catalog o).stepFault builtIns client input)
      = (builtIns.flatMap OrderedMap.entries).findSome?
          (programOf service catalog o).builtInFault := by
  cases hhas : catalog.hasBuiltIns with
  | true => exact List.findSome?_singleton
  | false =>
    -- Without built-in parameters there is no step that takes built-in values, and no fault either.
    refine (List.findSome?_eq_none_iff.mpr fun e _ ↦ ?_).symm
    rw [Program.builtInFault, Program.isBuiltIn, catalog_programOf]
    cases hget : catalog.get? e.1 with
    | none => rfl
    | some declared =>
      have hnone := List.any_eq_false.mp hhas declared (Catalog.of_get?_eq_some hget).1
      exact if_neg hnone

private theorem findSome?_stepFault :
    (programOf service catalog o).steps.findSome?
        ((programOf service catalog o).stepFault builtIns client input)
      = (service.taken o builtIns client input).findSome?
          (Taken.fault (programOf service catalog o)) := by
  have hclients : ((openClientNames catalog service.clientParameters.entries).map
        Step.clientContext).findSome? ((programOf service catalog o).stepFault builtIns client input)
      = (service.clientParameters.keys.filterMap fun name ↦
          (client.get? name).map (.client name)).findSome?
            (Taken.fault (programOf service catalog o)) := by
    rw [List.findSome?_map, openClientNames, findSome?_filter, findSome?_filterMap]
    refine findSome?_congr fun name _ ↦ ?_
    rw [Function.comp_apply, Program.stepFault]
    cases client.get? name with
    | none => exact ite_self none
    | some v => rfl
  have hmembers : (o.bindings.map fun b ↦ Step.inputContext b.1 b.2).findSome?
        ((programOf service catalog o).stepFault builtIns client input)
      = (o.bindings.filterMap fun b ↦ (input.given? b.1).map (.member b.1 b.2)).findSome?
          (Taken.fault (programOf service catalog o)) := by
    rw [List.findSome?_map, findSome?_filterMap]
    refine findSome?_congr fun b _ ↦ ?_
    rw [Function.comp_apply, Program.stepFault, Program.memberFault]
    cases input.given? b.1 with
    | none => rfl
    | some raw =>
      rw [Option.map_some, Option.bind_some, Taken.fault]
      cases (programOf service catalog o).catalog.get? b.2 <;> rfl
  -- values that an operation fixes were checked when the service was accepted
  have hstatics : (catalog.parameters.filterMap (staticStep o.staticParams)).findSome?
      ((programOf service catalog o).stepFault builtIns client input) = none := by
    refine List.findSome?_eq_none_iff.mpr fun step hstep ↦ ?_
    obtain ⟨p, -, hp⟩ := List.mem_filterMap.mp hstep
    obtain ⟨v, -, rfl⟩ := Option.map_eq_some_iff.mp hp
    rfl
  rw [steps_programOf, stepsOf, List.findSome?_append, List.findSome?_append,
    List.findSome?_append, findSome?_builtIns, hclients, hmembers, hstatics, Option.or_none,
    Service.taken, List.findSome?_append, List.findSome?_append, List.findSome?_map]
  rfl

variable {service catalog o builtIns client input}

theorem resolve_eq_error_iff (hsound : Sound service catalog) {failure : Failure} :
    (programOf service catalog o).resolve builtIns client input = .error failure ↔
      FirstFault (Taken.Fails catalog) (service.taken o builtIns client input) failure := by
  rw [Program.resolve_eq, unlessFault_eq_error_iff, findSome?_stepFault]
  exact findSome?_eq_some_iff_firstFault (Taken.fault_eq_some_iff hsound.nodup)

theorem exists_fails_of_mem_taken_iff :
    (∃ taken ∈ service.taken o builtIns client input, ∃ failure, taken.Fails catalog failure) ↔
      (∃ m ∈ builtIns, ∃ p ∈ catalog.parameters, p.isBuiltIn = true ∧
        ∃ v, m.get? p.name = some v ∧ v.type ≠ p.type) ∨
      (∃ p ∈ catalog.parameters, p.isBuiltIn = false ∧
        service.isClientParameter p.name = true ∧
          ∃ v, client.get? p.name = some v ∧ v.type ≠ p.type) ∨
      ∃ b ∈ o.bindings, ∃ p ∈ catalog.parameters, p.name = b.2 ∧
        ∃ raw, input.given? b.1 = some raw ∧ ¬p.type.Admits raw := by
  simp only [Service.taken, List.mem_append, List.mem_map, List.mem_flatMap, List.mem_filterMap,
    Option.map_eq_some_iff]
  constructor
  · rintro ⟨taken, htaken, failure, hfails⟩
    cases hfails with
    | builtIn hp hname hbuiltIn htype =>
      left
      simp only [Taken.builtIn.injEq, reduceCtorEq, and_false, exists_false, or_false] at htaken
      obtain ⟨e, ⟨m, hm, he⟩, rfl, rfl⟩ := htaken
      refine ⟨m, hm, _, hp, hbuiltIn, e.2, ?_, htype⟩
      rw [hname]
      exact OrderedMap.get?_eq_some_iff.mpr he
    | client hp hname hopen htype =>
      right; left
      simp only [Taken.client.injEq, reduceCtorEq, and_false, exists_false, or_false,
        false_or] at htaken
      obtain ⟨name, hmem, v, hv, rfl, rfl⟩ := htaken
      refine ⟨_, hp, hopen, ?_, v, hname ▸ hv, htype⟩
      rw [hname]
      exact OrderedMap.contains_iff.mpr hmem
    | member hp hname htype =>
      right; right
      simp only [Taken.member.injEq, reduceCtorEq, and_false, exists_false, false_or] at htaken
      obtain ⟨b, hb, raw, hraw, rfl, rfl, rfl⟩ := htaken
      exact ⟨b, hb, _, hp, hname, raw, hraw, htype⟩
  · rintro (⟨m, hm, p, hp, hbuiltIn, v, hv, htype⟩ | ⟨p, hp, hopen, hclient, v, hv, htype⟩ |
      ⟨b, hb, p, hp, hname, raw, hraw, htype⟩)
    · exact ⟨_, .inl (.inl ⟨_, ⟨m, hm, OrderedMap.get?_eq_some_iff.mp hv⟩, rfl⟩), _,
        .builtIn hp rfl hbuiltIn htype⟩
    · exact ⟨_, .inl (.inr ⟨_, OrderedMap.contains_iff.mp hclient, v, hv, rfl⟩), _,
        .client hp rfl hopen htype⟩
    · exact ⟨_, .inr ⟨b, hb, raw, hraw, rfl⟩, _, .member hp hname htype⟩

/-- What is passed over among the built-in values and the client's configuration does not matter. -/
theorem resolve_programOf_congr {others : BuiltInValues} {other : OrderedMap ParameterValue}
    (hbuiltIns : (others.flatMap OrderedMap.entries).filter
        (fun e ↦ (programOf service catalog o).isBuiltIn e.1)
      = (builtIns.flatMap OrderedMap.entries).filter
        fun e ↦ (programOf service catalog o).isBuiltIn e.1)
    (hclient : ∀ p ∈ catalog.parameters, p.isBuiltIn = false →
      service.isClientParameter p.name = true → other.get? p.name = client.get? p.name) :
    (programOf service catalog o).resolve others other input
      = (programOf service catalog o).resolve builtIns client input := by
  refine Program.resolve_congr ((Program.assignments_congr_builtIns _ _ hbuiltIns).trans ?_)
  refine Program.assignments_congr_client _ _ fun name hstep ↦ ?_
  rw [steps_programOf] at hstep
  obtain ⟨hname, hisOpen⟩ := List.mem_filter.mp (mem_openClientNames_of_mem_stepsOf hstep)
  obtain ⟨p, hget, hopen⟩ := Catalog.exists_of_isOpen hisOpen
  obtain ⟨hp, rfl⟩ := Catalog.of_get?_eq_some hget
  exact hclient p hp hopen (OrderedMap.contains_iff.mpr hname)

end Run

/-- **When a run fails, and on what.** A program in the table of an accepted service is that of the
last operation of its name. A run of it fails exactly if

* a built-in value for a built-in parameter,
* a value of the client for a client parameter that is not built-in, or
* what a bound member of the input holds, unless that is null,

is not of the type of the parameter, whatever a later source has for it. It fails with the first
fault of the values in the order in which they are taken: built-in values first, then the client's,
then members.

All other built-in values and values of the client are passed over: a run with others in their place
ends in the same way. -/
theorem run_fails_on_first_mistyped_value {service : Service}
    {integrations : List Call.Integration} {compiled : Compiled} {name : String} {program : Program}
    (hcompile : compile service integrations = .ok compiled)
    (hprogram : compiled.program? name = some program) :
    ∃ catalog o, service.catalog? = some catalog ∧ service.lastOperation? name = some o ∧
      ∀ (builtIns : BuiltInValues) (client : OrderedMap ParameterValue) (input : Input),
        ((∃ failure, program.resolve builtIns client input = .error failure) ↔
          (∃ m ∈ builtIns, ∃ p ∈ catalog.parameters, p.isBuiltIn = true ∧
            ∃ v, m.get? p.name = some v ∧ v.type ≠ p.type) ∨
          (∃ p ∈ catalog.parameters, p.isBuiltIn = false ∧
            service.isClientParameter p.name = true ∧
              ∃ v, client.get? p.name = some v ∧ v.type ≠ p.type) ∨
          ∃ b ∈ o.bindings, ∃ p ∈ catalog.parameters, p.name = b.2 ∧
            ∃ raw, input.given? b.1 = some raw ∧ ¬p.type.Admits raw) ∧
        (∀ failure, program.resolve builtIns client input = .error failure ↔
          FirstFault (Taken.Fails catalog) (service.taken o builtIns client input) failure) ∧
        ∀ (others : BuiltInValues) (other : OrderedMap ParameterValue),
          (others.flatMap OrderedMap.entries).filter (fun e ↦ program.isBuiltIn e.1)
            = (builtIns.flatMap OrderedMap.entries).filter (fun e ↦ program.isBuiltIn e.1) →
          (∀ p ∈ catalog.parameters, p.isBuiltIn = false →
            service.isClientParameter p.name = true → other.get? p.name = client.get? p.name) →
          program.resolve others other input = program.resolve builtIns client input := by
  obtain ⟨catalog, o, hcatalog, hsound, hlast, rfl⟩ :=
    exists_operation_of_program? hcompile hprogram
  refine ⟨catalog, o, hcatalog, hlast, fun builtIns client input ↦ ⟨?_, fun failure ↦ ?_, ?_⟩⟩
  · rw [← exists_fails_of_mem_taken_iff, ← exists_firstFault_iff]
    exact exists_congr fun failure ↦ resolve_eq_error_iff hsound
  · exact resolve_eq_error_iff hsound
  · intro others other hbuiltIns hclient
    exact resolve_programOf_congr hbuiltIns hclient

/-! ### A depot where several values are wrong -/

private def depotCatalog : Catalog :=
  ⟨[⟨"Region", .string, some "SDK::Region", true, none⟩, .plain "Dock" .string,
    .plain "Fast" .boolean]⟩

private def depotLoad : Operation :=
  ⟨"Load", some ⟨"LoadInput", [⟨"Dock", some "Dock"⟩]⟩, .ofList [("Fast", .bool true)]⟩

private def depot : Service :=
  ⟨"Depot", some ⟨none, depotCatalog, .null⟩,
    some (.ofList [("Region", ⟨.boolean, none⟩), ("Fast", ⟨.boolean, none⟩)]), [depotLoad]⟩

private def depotValues : BuiltInValues :=
  [.ofList [("Dock", .boolean true), ("Region", .string "north")]]

private def depotClient : OrderedMap ParameterValue :=
  .ofList [("Region", .boolean true), ("Dock", .boolean true), ("Fast", .string "yes")]

private def depotInput : Input := ⟨"LoadInput", [("Dock", .number (.whole 7))]⟩

/-- Of all the values for the depot only two are at fault. The first of them is that of the client,
although the operation fixes another value in its place. -/
theorem load_fails_on_client_value :
    compile depot [] = .ok (compiledOf depot depotCatalog []) ∧
    (compiledOf depot depotCatalog []).program? "Load"
      = some (programOf depot depotCatalog depotLoad) ∧
    (programOf depot depotCatalog depotLoad).resolve depotValues depotClient depotInput
      = .error (.mistyped "Fast" .clientContext .boolean .string) ∧
    FirstFault (Taken.Fails depotCatalog)
      (depot.taken depotLoad depotValues depotClient depotInput)
      (.mistyped "Fast" .clientContext .boolean .string) := by
  have hcompile : compile depot [] = .ok (compiledOf depot depotCatalog []) :=
    compile_of_serviceFault_eq_none rfl rfl []
  have hprogram : (compiledOf depot depotCatalog []).program? "Load"
      = some (programOf depot depotCatalog depotLoad) :=
    program?_compiledOf_of_last rfl
  have hresolve : (programOf depot depotCatalog depotLoad).resolve depotValues depotClient
      depotInput = .error (.mistyped "Fast" .clientContext .boolean .string) := by
    rw [Program.resolve_eq, steps_programOf]
    rfl
  obtain ⟨catalog, o, hcatalog, ho, hrun⟩ := run_fails_on_first_mistyped_value hcompile hprogram
  obtain rfl := Option.some.inj hcatalog
  obtain rfl := Option.some.inj ho
  obtain ⟨-, hfirst, -⟩ := hrun depotValues depotClient depotInput
  exact ⟨hcompile, hprogram, hresolve, (hfirst _).mp hresolve⟩

end Binding

end CallRouting
