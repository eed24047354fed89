import CallRouting.Call.Registrar
import CallRouting.Proofs.Binding.Acceptance
import CallRouting.Proofs.Call.Passage

/-!
# What a registrar builds

The stage of an operation has its program from the table of programs, and its hooks from the
declaration that the service finds under the name. The table has the program of the last operation
of a name, and the service finds the first. So the two are of one declaration if the name is that of
one operation only, and nothing sees to that: a service may declare a name twice, and then the stage
runs the program of one declaration with the hooks of another.
-/

namespace CallRouting

theorem Service.lastOperation?_eq_operation? {s : Service} {name : String}
    (honce : (s.operations.map Operation.name).count name = 1) :
    s.lastOperation? name = s.operation? name := by
  have hlength : (s.operations.filter fun o ↦ o.name = name).length = 1 := by
    rw [← honce, List.count, List.countP_map, List.countP_eq_length_filter]
    rfl
  obtain ⟨o, ho⟩ := List.length_eq_one_iff.mp hlength
  rw [lastOperation?, operation?, ← List.head?_filter, ← List.head?_filter, List.filter_reverse, ho]
  rfl

namespace Call.Registrar

open Binding

/-- The sources of built-in values for a program: those of all handlers, in the order of the
integrations. -/
def sourcesFor (integrations : List Integration) (program : Program) (options : ClientOptions) :
    List BuiltInSource :=
  if program.takesBuiltIns then
    (Integration.handlers integrations).map fun h ↦ (h.setUp program.catalog options).source
  else []

theorem map_source_setUps (r : Registrar) (program : Program) (options : ClientOptions) :
    (r.setUps program options).map SetUp.source = sourcesFor r.integrations program options := by
  rw [setUps, sourcesFor]
  by_cases htakes : program.takesBuiltIns = true
  · rw [if_pos htakes, if_pos htakes, List.map_map]
    rfl
  · rw [if_neg htakes, if_neg htakes, List.map_nil]

theorem sourcesFor_default (program : Program) (options : ClientOptions) :
    sourcesFor Integration.default program options
      = if program.takesBuiltIns then [.fixed (settingsValues program.catalog options)]
        else [] := rfl

theorem supplied_default (program : Program) (options : ClientOptions) (hooks : Hooks)
    (x : Exchange) :
    (EndpointStage.ofOptions program options (sourcesFor Integration.default program options)
        hooks).supplied x
      = if program.takesBuiltIns then [⟨settingsValues program.catalog options, false, []⟩]
        else [] := by
  rw [EndpointStage.supplied, EndpointStage.ofOptions, sourcesFor_default]
  by_cases htakes : program.takesBuiltIns = true
  · rw [if_pos htakes, if_pos htakes, if_pos htakes]
    rfl
  · rw [if_neg htakes, if_neg htakes]

theorem new_eq_ok_iff {service : Service} {integrations : List Integration} {r : Registrar} :
    new service integrations = .ok r ↔
      ∃ compiled, compile service integrations = .ok compiled ∧
        r = ⟨service, integrations, compiled⟩ := by
  rw [new]
  cases compile service integrations with
  | error e =>
    constructor
    · intro h
      cases h
    · rintro ⟨compiled, hcompile, -⟩
      cases hcompile
  | ok compiled =>
    constructor
    · intro h
      exact ⟨compiled, rfl, (Except.ok.inj h).symm⟩
    · rintro ⟨other, hother, rfl⟩
      obtain rfl := Except.ok.inj hother
      rfl

theorem build_eq_ok_some_iff {r : Registrar} {operation : String} {options : ClientOptions}
    {built : Built} :
    r.build operation options = .ok (some built) ↔
      ∃ model program, r.service.operation? operation = some model ∧
        r.compiled.program? operation = some program ∧
        built = ⟨.ofOptions program options (sourcesFor r.integrations program options)
            (.ofIntegrations r.integrations options r.service model),
          (r.setUps program options).flatMap SetUp.notes⟩ := by
  rw [build]
  cases r.service.operation? operation with
  | none =>
    constructor
    · intro h
      cases h
    · rintro ⟨model, program, hmodel, -⟩
      cases hmodel
  | some model =>
    cases r.compiled.program? operation with
    | none =>
      constructor
      · intro h
        cases Except.ok.inj h
      · rintro ⟨other, program, -, hprogram, -⟩
        cases hprogram
    | some program =>
      dsimp only
      rw [map_source_setUps]
      constructor
      · intro h
        exact ⟨model, program, rfl, rfl, (Option.some.inj (Except.ok.inj h)).symm⟩
      · rintro ⟨other, program', hother, hprogram, rfl⟩
        obtain rfl := Option.some.inj hother
        obtain rfl := Option.some.inj hprogram
        rfl

/-- **A sound service has a stage for each name that it declares.** The stage is the one that the
first and the last operation of the name make up together. -/
theorem exists_build {service : Service} {catalog : Catalog} {operation : String}
    {first last : Operation} (hcatalog : service.catalog? = some catalog)
    (hfault : serviceFault service catalog = none)
    (hfirst : service.operation? operation = some first)
    (hlast : service.lastOperation? operation = some last) (integrations : List Integration)
    (options : ClientOptions) :
    ∃ r built, new service integrations = .ok r ∧
      r.build operation options = .ok (some built) ∧
      built.stage
        = .ofOptions (programOf service catalog last) options
            (sourcesFor integrations (programOf service catalog last) options)
            (.ofIntegrations integrations options service first) := by
  have hcompile : compile service integrations
      = .ok (compiledOf service catalog integrations) :=
    compile_of_serviceFault_eq_none hcatalog hfault integrations
  exact ⟨_, _, new_eq_ok_iff.mpr ⟨_, hcompile, rfl⟩,
    build_eq_ok_some_iff.mpr ⟨first, _, hfirst, program?_compiledOf_of_last hlast, rfl⟩, rfl⟩

section Built

variable {service : Service} {integrations : List Integration} {r : Registrar} {operation : String}
  {options : ClientOptions} {built : Built} (hnew : new service integrations = .ok r)
  (hbuild : r.build operation options = .ok (some built))

include hnew hbuild

/-- **What a stage is built from.** -/
theorem exists_operations_of_build :
    ∃ catalog first last, service.catalog? = some catalog ∧ Sound service catalog ∧
      service.operation? operation = some first ∧ service.lastOperation? operation = some last ∧
      built.stage
        = .ofOptions (programOf service catalog last) options
            (sourcesFor integrations (programOf service catalog last) options)
            (.ofIntegrations integrations options service first) := by
  obtain ⟨compiled, hcompile, rfl⟩ := new_eq_ok_iff.mp hnew
  obtain ⟨first, program, hfirst, hprogram, rfl⟩ := build_eq_ok_some_iff.mp hbuild
  obtain ⟨catalog, last, hcatalog, hsound, hlast, rfl⟩ :=
    exists_operation_of_program? hcompile hprogram
  exact ⟨catalog, first, last, hcatalog, hsound, hfirst, hlast, rfl⟩

/-- **The program is that of the last declaration, the hooks are those of the first.** The stage of
an operation runs the program that the last operation of its name is compiled to, and has the hooks
that the integrations offer for the first, which is the one that the service finds. They are one and
the same declaration if the name is that of one operation only. -/
theorem built_stage_runs_last_declaration :
    ∃ catalog client first last overlaps,
      service.catalog? = some catalog ∧
      checkClientParameters service.name catalog service.clientParameters.entries = .ok client ∧
      service.operation? operation = some first ∧
      service.lastOperation? operation = some last ∧
      compileOperation service.name catalog client last = .ok (built.stage.program, overlaps) ∧
      built.stage.hooks = .ofIntegrations integrations options service first ∧
      ((service.operations.map Operation.name).count operation = 1 → first = last) := by
  obtain ⟨catalog, first, last, hcatalog, hsound, hfirst, hlast, hstage⟩ :=
    exists_operations_of_build hnew hbuild
  have hmem : last ∈ service.operations := Service.mem_of_lastOperation? hlast
  refine ⟨catalog, _, first, last, overlapsOf last.name (stepsOf service catalog last), hcatalog,
    checkClientParameters_of_sound hsound, hfirst, hlast, ?_, ?_, fun honce ↦ ?_⟩
  · rw [compileOperation_of_sound hsound hmem, hstage]
    rfl
  · rw [hstage]
    rfl
  · rw [Service.lastOperation?_eq_operation? honce, hfirst] at hlast
    exact Option.some.inj hlast

end Built

/-! ### A store that declares one name once or twice -/

private def tierCatalog : Catalog := ⟨[.plain "Tier" .string]⟩

private def tierGet (tier : String) : Operation :=
  ⟨"Get", none, .ofList [("Tier", .string tier)]⟩

private def tierStore (operations : List Operation) : Service :=
  ⟨"Store", some ⟨none, tierCatalog, .null⟩, none, operations⟩

private theorem new_tierStore (operations : List Operation)
    (hfault : operations.findSome? (operationFault "Store" tierCatalog) = none) :
    new (tierStore operations) []
      = .ok ⟨tierStore operations, [], compiledOf (tierStore operations) tierCatalog []⟩ := by
  -- there is nothing wrong with the catalog, and there are no client parameters
  have hnone : serviceFault (tierStore operations) tierCatalog = none := hfault
  exact new_eq_ok_iff.mpr ⟨_, compile_of_serviceFault_eq_none rfl hnone [], rfl⟩

private theorem build_tierStore (operations : List Operation) (first last : Operation)
    (hfirst : (tierStore operations).operation? "Get" = some first)
    (hlast : (tierStore operations).lastOperation? "Get" = some last) :
    ∃ built, Registrar.build
        ⟨tierStore operations, [], compiledOf (tierStore operations) tierCatalog []⟩ "Get" .empty
          = .ok (some built) ∧
      built.stage.program = programOf (tierStore operations) tierCatalog last := by
  exact ⟨_,
    build_eq_ok_some_iff.mpr ⟨first, _, hfirst, program?_compiledOf_of_last hlast, rfl⟩, rfl⟩

/-- With one declaration of the name, the stage has the program and the hooks of that one. -/
theorem built_stage_of_single_tier :
    ∃ r built overlaps,
      new (tierStore [tierGet "near"]) [] = .ok r ∧ r.build "Get" .empty = .ok (some built) ∧
      compileOperation "Store" tierCatalog [] (tierGet "near")
        = .ok (built.stage.program, overlaps) ∧
      built.stage.hooks
        = .ofIntegrations [] .empty (tierStore [tierGet "near"]) (tierGet "near") := by
  have hnew := new_tierStore [tierGet "near"] rfl
  obtain ⟨built, hbuild, -⟩ :=
    build_tierStore [tierGet "near"] (tierGet "near") (tierGet "near") rfl rfl
  obtain ⟨catalog, client, first, last, overlaps, hcatalog, hclient, hfirst, -, hprogram, hhooks,
    honce⟩ := built_stage_runs_last_declaration hnew hbuild
  obtain rfl := Option.some.inj hcatalog
  obtain rfl := Except.ok.inj hclient
  obtain rfl := Option.some.inj hfirst
  obtain rfl := honce (by decide)
  exact ⟨_, built, overlaps, hnew, hbuild, hprogram, hhooks⟩

/-- With two, the program is not that of the declaration that the service finds. -/
theorem built_stage_of_repeated_tier :
    ∃ r built program overlaps,
      new (tierStore [tierGet "near", tierGet "far"]) [] = .ok r ∧
      r.build "Get" .empty = .ok (some built) ∧
      r.service.operation? "Get" = some (tierGet "near") ∧
      compileOperation "Store" tierCatalog [] (tierGet "near") = .ok (program, overlaps) ∧
      program.steps = [.staticContext "Tier" (.string "near")] ∧
      built.stage.program.steps = [.staticContext "Tier" (.string "far")] := by
  have hnew := new_tierStore [tierGet "near", tierGet "far"] rfl
  obtain ⟨built, hbuild, hprogram⟩ :=
    build_tierStore [tierGet "near", tierGet "far"] (tierGet "near") (tierGet "far") rfl rfl
  refine ⟨_, built, programOf (tierStore []) tierCatalog (tierGet "near"), _, hnew, hbuild, rfl,
    compileOperation_eq (tierStore []) tierCatalog (tierGet "near"), ?_, ?_⟩
  · rw [steps_programOf]
    rfl
  · rw [hprogram, steps_programOf]
    rfl

end Call.Registrar

end CallRouting
