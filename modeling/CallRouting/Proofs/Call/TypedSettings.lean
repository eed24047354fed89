import CallRouting.Proofs.Binding.Assignments
import CallRouting.Proofs.Call.Checks
import CallRouting.Proofs.Call.Registrar
import CallRouting.Proofs.Settings.Options

/-!
# Accepted settings and the types of a call

The values of a client are checked twice: settings when the options are made, and values when the
parameters of a call are bound. The first check goes by what a name stands for in settings, the
second by the parameter that a value is for. They agree on client parameters. On built-in values
they do not: an identifier has the type of the first parameter that uses it, and its value is
supplied for every parameter that uses it. So a call fails on the type of a value only if two
built-in parameters of different types share an identifier, and then it can.
-/

namespace CallRouting

open Binding

/-- Built-in parameters that share an identifier are of one type. -/
def Catalog.IdentifiersAgree (c : Catalog) : Prop :=
  ∀ p ∈ c.builtIns, ∀ q ∈ c.builtIns, p.builtIn = q.builtIn → p.type = q.type

theorem exists_of_builtInType? {service : Service} {catalog : Catalog} {identifier : String}
    {type : ValueType} (hcatalog : service.catalog? = some catalog)
    (htype : service.builtInType? identifier = some type) :
    ∃ p ∈ catalog.builtIns, p.builtIn = some identifier ∧ p.type = type := by
  rw [Service.builtInType?, hcatalog] at htype
  obtain ⟨p, hfind, rfl⟩ := Option.map_eq_some_iff.mp htype
  exact ⟨p, List.mem_of_find?_eq_some hfind, by simpa using List.find?_some hfind, rfl⟩

theorem clientContextType?_of_get?_catalog {service : Service} {catalog : Catalog} {name : String}
    {p : Parameter} {type : ValueType} (hcatalog : service.catalog? = some catalog)
    (hp : catalog.get? name = some p) (htype : service.clientContextType? name = some type) :
    p.type = type := by
  rw [Service.clientContextType?] at htype
  cases hdeclared : service.clientParameters.get? name with
  | none =>
    rw [hdeclared] at htype
    cases htype
  | some declared =>
    rw [hdeclared, hcatalog, Option.bind_some, hp] at htype
    exact Option.some.inj htype

namespace Call

theorem exists_of_mem_settingsValues {catalog : Catalog} {options : ClientOptions}
    {e : String × ParameterValue} (h : e ∈ (settingsValues catalog options).entries) :
    ∃ p ∈ catalog.builtIns, p.name = e.1 ∧
      ∃ identifier, p.builtIn = some identifier ∧ options.builtIns.get? identifier = some e.2 := by
  have hmem := OrderedMap.mem_of_get?_ofList (OrderedMap.get?_eq_some_iff.mpr h)
  obtain ⟨p, hp, hvalue⟩ := List.mem_filterMap.mp hmem
  obtain ⟨v, hv, heq⟩ := Option.map_eq_some_iff.mp hvalue
  obtain ⟨identifier, hidentifier, hget⟩ := Option.bind_eq_some_iff.mp hv
  obtain ⟨hname, rfl⟩ := Prod.mk.inj heq
  exact ⟨p, hp, hname, identifier, hidentifier, hget⟩

theorem mem_settingsValues_of_supplied {program : Program} {options : ClientOptions} {hooks : Hooks}
    {x : Exchange} {e : String × ParameterValue}
    (h : e ∈ (((EndpointStage.ofOptions program options
        (Registrar.sourcesFor Integration.default program options) hooks).supplied x).map
          Supply.values).flatMap OrderedMap.entries) :
    e ∈ (settingsValues program.catalog options).entries := by
  obtain ⟨values, hvalues, he⟩ := List.mem_flatMap.mp h
  obtain ⟨supply, hsupply, rfl⟩ := List.mem_map.mp hvalues
  rw [Registrar.supplied_default] at hsupply
  split_ifs at hsupply
  · obtain rfl := List.mem_singleton.mp hsupply
    exact he
  · cases hsupply

section Accepted

variable {service : Service} {catalog : Catalog} {settings : Settings} {options : ClientOptions}
  (hcatalog : service.catalog? = some catalog)
  (haccepted : ClientOptions.ofSettings service settings = .ok options)

include hcatalog haccepted

private theorem typeFault_client_eq_none {o : Operation} {parameter : String} {v : ParameterValue}
    (hget : options.clientContext.get? parameter = some v) :
    (programOf service catalog o).typeFault parameter v .clientContext = none := by
  cases hfault : (programOf service catalog o).typeFault parameter v .clientContext with
  | none => rfl
  | some failure =>
    obtain ⟨declared, hdeclared, hne, -⟩ := Program.exists_of_typeFault _ hfault
    have htype := clientContextType?_of_get? haccepted hget
    exact absurd (clientContextType?_of_get?_catalog hcatalog hdeclared htype).symm hne

/-- A built-in value of accepted settings is at fault only if its parameter shares the identifier
with one of another type. -/
private theorem exists_of_builtInFault (hsound : Sound service catalog) {o : Operation}
    {e : String × ParameterValue} (he : e ∈ (settingsValues catalog options).entries)
    {failure : Failure} (hfault : (programOf service catalog o).builtInFault e = some failure) :
    ∃ p ∈ catalog.builtIns, ∃ q ∈ catalog.builtIns, p.builtIn = q.builtIn ∧ p.type ≠ q.type ∧
      failure = .mistyped p.name .builtIn p.type q.type := by
  rw [Program.builtInFault] at hfault
  split at hfault
  · obtain ⟨p, hp, hname, identifier, hidentifier, hget⟩ := exists_of_mem_settingsValues he
    obtain ⟨q, hq, hqidentifier, hqtype⟩ :=
      exists_of_builtInType? hcatalog (builtInType?_of_get? haccepted hget)
    obtain ⟨declared, hdeclared, hne, rfl⟩ := Program.exists_of_typeFault _ hfault
    -- names are distinct, so the parameter that is found under the name is the one supplied for
    have hdeclared' : catalog.get? e.1 = some p :=
      (get?_eq_some_iff_of_nodup hsound.nodup).mpr ⟨List.mem_of_mem_filter hp, hname⟩
    obtain rfl : declared = p := Option.some.inj (hdeclared.symm.trans hdeclared')
    rw [← hqtype] at hne ⊢
    exact ⟨declared, hp, q, hq, hidentifier.trans hqidentifier.symm, hne.symm, by rw [hname]⟩
  · cases hfault

/-- **Where a mistyped value comes from.** -/
private theorem exists_of_mistyped {resolver : Option Resolver} {r : Registrar} {operation : String}
    {built : Built} (hnew : Registrar.new service Integration.default = .ok r)
    (hbuild : r.build operation { options with resolver := resolver } = .ok (some built))
    {call : Call} {parameter : String} {origin : Source} {expected found : ValueType}
    (hfailure : (built.stage.run call).failure
      = some (.binding (.mistyped parameter origin expected found))) :
    origin = .builtIn ∧ ∃ p ∈ catalog.builtIns, ∃ q ∈ catalog.builtIns,
      p.builtIn = q.builtIn ∧ p.type ≠ q.type ∧
        p.name = parameter ∧ p.type = expected ∧ q.type = found := by
  obtain ⟨catalog', first, o, hcatalog', hsound, -, -, hstage⟩ :=
    Registrar.exists_operations_of_build hnew hbuild
  obtain rfl := Option.some.inj (hcatalog.symm.trans hcatalog')
  obtain ⟨request, -, hrecord⟩ := EndpointStage.boundRecord_of_failure_run hfailure
  rw [EndpointStage.boundRecord, Program.resolve_eq, unlessFault_eq_error_iff] at hrecord
  obtain ⟨step, -, hfault⟩ := List.exists_of_findSome?_eq_some hrecord
  cases step with
  | builtIns =>
    obtain ⟨e, he, hfault⟩ := List.exists_of_findSome?_eq_some hfault
    rw [hstage] at he hfault
    obtain ⟨p, hp, q, hq, hshared, hne, heq⟩ :=
      exists_of_builtInFault hcatalog haccepted hsound (mem_settingsValues_of_supplied he) hfault
    cases heq
    exact ⟨rfl, p, hp, q, hq, hshared, hne, rfl, rfl, rfl⟩
  | clientContext name =>
    obtain ⟨v, hv, hfault⟩ := Option.bind_eq_some_iff.mp hfault
    rw [hstage] at hv hfault
    have hnone := typeFault_client_eq_none hcatalog haccepted (o := o) hv
    cases hnone.symm.trans hfault
  | inputContext member name =>
    obtain ⟨cause, heq⟩ := Program.exists_of_memberFault _ _ hfault
    cases heq
  | staticContext name v => cases hfault

end Accepted

/-- **The types of accepted settings.** Take a client whose settings were accepted, with any
resolver, and a stage that is built for it with the default integrations. If the built-in parameters
that share an identifier are of one type, no call fails on the type of a value. Without that, a call
can fail so only on a built-in value, and only for a parameter that shares its identifier with one
of another type. -/
theorem mistyped_only_for_shared_identifier {service : Service} {settings : Settings}
    {options : ClientOptions} {resolver : Option Resolver} {r : Registrar} {operation : String}
    {built : Built} (haccepted : ClientOptions.ofSettings service settings = .ok options)
    (hnew : Registrar.new service Integration.default = .ok r)
    (hbuild : r.build operation { options with resolver := resolver } = .ok (some built)) :
    ∃ catalog, service.catalog? = some catalog ∧
      (catalog.IdentifiersAgree → ∀ (call : Call) parameter origin expected found,
        (built.stage.run call).failure
          ≠ some (.binding (.mistyped parameter origin expected found))) ∧
      ∀ (call : Call) parameter origin expected found,
        (built.stage.run call).failure
            = some (.binding (.mistyped parameter origin expected found)) →
          origin = .builtIn ∧ ∃ p ∈ catalog.builtIns, ∃ q ∈ catalog.builtIns,
            p.builtIn = q.builtIn ∧ p.type ≠ q.type ∧
              p.name = parameter ∧ p.type = expected ∧ q.type = found := by
  obtain ⟨catalog, -, -, hcatalog, -⟩ := Registrar.exists_operations_of_build hnew hbuild
  refine ⟨catalog, hcatalog, fun hagree call parameter origin expected found hfailure ↦ ?_,
    fun call parameter origin expected found hfailure ↦ ?_⟩
  · obtain ⟨-, p, hp, q, hq, hshared, hne, -⟩ :=
      exists_of_mistyped hcatalog haccepted hnew hbuild hfailure
    exact hne (hagree p hp q hq hshared)
  · exact exists_of_mistyped hcatalog haccepted hnew hbuild hfailure

/-! ### A store with two parameters of one identifier -/

private def regionCatalog (second : ValueType) : Catalog :=
  ⟨[⟨"Region", .string, some "SDK::Region", true, none⟩,
    ⟨"Regional", second, some "SDK::Region", false, none⟩]⟩

private def regionStore (second : ValueType) : Service :=
  ⟨"Store", some ⟨none, regionCatalog second, .null⟩, none, [⟨"Get", none, .ofList []⟩]⟩

private def regionSettings : Settings := ⟨.ofList [], .ofList [("SDK::Region", .string "north")]⟩

private def regionOptions : ClientOptions :=
  ⟨.empty, .ofList [("SDK::Region", .string "north")], none⟩

/-- A resolver that finds nothing: only how a call gets to it matters here. -/
private def noEndpoint : Resolver :=
  ⟨fun _ _ ↦ ⟨[], .answered false (.error (.plain "no rule matched"))⟩⟩

private def regionCall : Call :=
  ⟨.new "Get", .http ⟨"GET", ⟨"https", none, .segments [], none, none⟩, .empty⟩, .empty "GetInput"⟩

private def regionProgram (second : ValueType) : Program :=
  programOf (regionStore second) (regionCatalog second) ⟨"Get", none, .ofList []⟩

private def regionStage (second : ValueType) : EndpointStage :=
  .ofOptions (regionProgram second) { regionOptions with resolver := some noEndpoint }
    (Registrar.sourcesFor Integration.default (regionProgram second)
      { regionOptions with resolver := some noEndpoint }) .empty

private theorem build_regionStore (second : ValueType) :
    ClientOptions.ofSettings (regionStore second) regionSettings = .ok regionOptions ∧
    ∃ r built,
      Registrar.new (regionStore second) Integration.default = .ok r ∧
      r.build "Get" { regionOptions with resolver := some noEndpoint } = .ok (some built) ∧
      built.stage = regionStage second := by
  have hcatalog : (regionStore second).catalog? = some (regionCatalog second) := rfl
  have hfault : serviceFault (regionStore second) (regionCatalog second) = none := by
    cases second <;> rfl
  exact ⟨rfl, Registrar.exists_build hcatalog hfault rfl rfl Integration.default _⟩

/-- Two texts under one identifier: no call fails on a type. -/
theorem typed_call_of_region_store :
    ClientOptions.ofSettings (regionStore .string) regionSettings = .ok regionOptions ∧
    ∃ r built,
      Registrar.new (regionStore .string) Integration.default = .ok r ∧
      r.build "Get" { regionOptions with resolver := some noEndpoint } = .ok (some built) ∧
      (regionCatalog .string).IdentifiersAgree ∧
      ∀ (call : Call) parameter origin expected found,
        (built.stage.run call).failure
          ≠ some (.binding (.mistyped parameter origin expected found)) := by
  obtain ⟨haccepted, r, built, hnew, hbuild, -⟩ := build_regionStore .string
  obtain ⟨catalog, hcatalog, hagreed, -⟩ :=
    mistyped_only_for_shared_identifier haccepted hnew hbuild
  obtain rfl := Option.some.inj hcatalog
  have hagree : (regionCatalog .string).IdentifiersAgree := by
    rw [Catalog.IdentifiersAgree]
    decide
  exact ⟨haccepted, r, built, hnew, hbuild, hagree, hagreed hagree⟩

/-- A text and a truth value under one identifier: the settings are accepted, and a call fails on
the type of the second. -/
theorem mistyped_call_of_region_store :
    ClientOptions.ofSettings (regionStore .boolean) regionSettings = .ok regionOptions ∧
    ∃ r built,
      Registrar.new (regionStore .boolean) Integration.default = .ok r ∧
      r.build "Get" { regionOptions with resolver := some noEndpoint } = .ok (some built) ∧
      (built.stage.run regionCall).failure
        = some (.binding (.mistyped "Regional" .builtIn .boolean .string)) := by
  obtain ⟨haccepted, r, built, hnew, hbuild, hstage⟩ := build_regionStore .boolean
  refine ⟨haccepted, r, built, hnew, hbuild, ?_⟩
  have htakes : (regionProgram .boolean).takesBuiltIns = true := by
    rw [Program.takesBuiltIns, regionProgram, steps_programOf]
    rfl
  have hsupplied : ∀ x, (regionStage .boolean).supplied x
      = [⟨settingsValues (regionCatalog .boolean) regionOptions, false, []⟩] := by
    intro x
    rw [regionStage, Registrar.supplied_default, if_pos htakes]
    rfl
  have hrecord : ∀ x, (regionStage .boolean).boundRecord x
      = .error (.mistyped "Regional" .builtIn .boolean .string) := by
    intro x
    rw [EndpointStage.boundRecord, hsupplied, Program.resolve_eq, unlessFault_eq_error_iff]
    have hsteps : (regionStage .boolean).program.steps = [.builtIns] := steps_programOf _ _ _
    rw [hsteps]
    rfl
  rw [hstage]
  refine EndpointStage.failure_run_of_checkFault rfl ?_
  exact EndpointStage.checkFault_of_binding ⟨rfl, rfl, rfl⟩ (hrecord _)

end Call

end CallRouting
