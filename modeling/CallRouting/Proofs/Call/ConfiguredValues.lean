import CallRouting.Proofs.Binding.Precedence
import CallRouting.Proofs.Call.Capabilities
import CallRouting.Proofs.Call.TypedSettings

/-!
# From settings to the record of a call

A configured value goes from the settings into the options of a client, where built-in values are
held under their identifiers; from there into the handler of a stage, which holds them under the
names of parameters; and at last into the record of a call, where other sources may have a say. The
first section follows built-in values up to the handler. `record_value` puts the hand-overs together
with the precedence of sources, for the record that a resolver is asked about.

What a stage does with the settings of a client depends on nothing else in them. Settings that say
the same for the identifiers that the catalog uses, and for its parameters that are not built-in,
are the same to every call: the handler holds the same values, and the program takes only the values
of such parameters from the client.
-/

namespace CallRouting

open Binding

/-- Settings that say the same where a catalog takes values from them. -/
structure Settings.SameFor (catalog : Catalog) (s t : Settings) : Prop where
  /-- They say the same for the identifiers of built-in parameters. -/
  builtIns : ∀ p ∈ catalog.builtIns, ∀ identifier, p.builtIn = some identifier →
    t.builtInValue? identifier = s.builtInValue? identifier
  /-- They say the same for the parameters that are not built-in. -/
  client : ∀ p ∈ catalog.parameters, p.isBuiltIn = false →
    t.clientValue? p.name = s.clientValue? p.name

theorem ParameterValue.toUntyped_injective : Function.Injective ParameterValue.toUntyped := by
  intro v w h
  have hread := congrArg ParameterValue.ofUntyped? h
  rw [ofUntyped?_toUntyped, ofUntyped?_toUntyped] at hread
  exact Option.some.inj hread

theorem builtInType?_isSome {service : Service} {catalog : Catalog} {p : Parameter}
    {identifier : String} (hcatalog : service.catalog? = some catalog) (hp : p ∈ catalog.builtIns)
    (hidentifier : p.builtIn = some identifier) :
    (service.builtInType? identifier).isSome = true := by
  rw [Service.builtInType?, hcatalog, Option.isSome_map, List.find?_isSome]
  exact ⟨p, hp, by simpa using hidentifier⟩

namespace Call

/-! ## The values of the handler for settings -/

theorem get?_settingsValues {catalog : Catalog} (hnodup : catalog.names.Nodup)
    (options : ClientOptions) {p : Parameter} (hp : p ∈ catalog.builtIns) :
    (settingsValues catalog options).get? p.name = p.builtIn.bind options.builtIns.get? := by
  have hbuiltIns : (catalog.builtIns.map Parameter.name).Nodup :=
    hnodup.sublist (List.filter_sublist.map _)
  have hentries := nodup_map_fst_filterMap hbuiltIns
    (f := fun p ↦ (p.builtIn.bind options.builtIns.get?).map fun v ↦ (p.name, v)) (by
      intro q e he
      obtain ⟨v, -, rfl⟩ := Option.map_eq_some_iff.mp he
      rfl)
  ext v
  rw [settingsValues, OrderedMap.get?_ofList_eq_some_iff hentries, List.mem_filterMap]
  constructor
  · rintro ⟨q, hq, hvalue⟩
    obtain ⟨w, hw, heq⟩ := Option.map_eq_some_iff.mp hvalue
    obtain ⟨hname, rfl⟩ := Prod.mk.inj heq
    rwa [List.inj_on_of_nodup_map hbuiltIns hq hp hname] at hw
  · intro hv
    exact ⟨p, hp, Option.map_eq_some_iff.mpr ⟨v, hv, rfl⟩⟩

section Accepted

variable {service : Service} {catalog : Catalog} {settings : Settings} {options : ClientOptions}
  (hcatalog : service.catalog? = some catalog)
  (haccepted : ClientOptions.ofSettings service settings = .ok options)

include hcatalog haccepted

theorem map_toUntyped_settingsValues (hnodup : catalog.names.Nodup) {p : Parameter}
    (hp : p ∈ catalog.builtIns) {identifier : String} (hidentifier : p.builtIn = some identifier) :
    ((settingsValues catalog options).get? p.name).map ParameterValue.toUntyped
      = settings.builtInValue? identifier := by
  rw [get?_settingsValues hnodup options hp, hidentifier, Option.bind_some]
  exact map_toUntyped_builtIns haccepted (builtInType?_isSome hcatalog hp hidentifier)

theorem settingsValues_eq_of_sameFor {settings' : Settings} {options' : ClientOptions}
    (haccepted' : ClientOptions.ofSettings service settings' = .ok options')
    (hsame : settings.SameFor catalog settings') :
    settingsValues catalog options' = settingsValues catalog options := by
  refine congrArg OrderedMap.ofList (List.filterMap_congr fun p hp ↦ ?_)
  cases hidentifier : p.builtIn with
  | none => rfl
  | some identifier =>
    have hused := builtInType?_isSome hcatalog hp hidentifier
    have hvalue := hsame.builtIns p hp identifier hidentifier
    rw [← map_toUntyped_builtIns haccepted' hused, ← map_toUntyped_builtIns haccepted hused]
      at hvalue
    rw [Option.bind_some, Option.bind_some,
      Option.map_injective ParameterValue.toUntyped_injective hvalue]

end Accepted

/-! ## The record that a resolver is asked about -/

namespace EndpointStage

/-- A stage does the same with other values of the client that agree where the program takes them.
-/
theorem run_congr_client {s : EndpointStage} {client : OrderedMap ParameterValue}
    (h : ∀ parameter, .clientContext parameter ∈ s.program.steps →
      client.get? parameter = s.clientContext.get? parameter) (call : Call) :
    { s with clientContext := client }.run call = s.run call := by
  have hbind : { s with clientContext := client }.bindParameters = s.bindParameters := by
    funext builtIns x
    have hassignments := Program.assignments_congr_client builtIns x.input h
    rw [bindParameters, bindParameters, Program.warnings, Program.warnings, hassignments,
      Program.resolve_congr hassignments]
  have hpass : { s with clientContext := client }.pass = s.pass := by
    rw [pass, pass, hbind]
    rfl
  rw [run, run, hpass]

end EndpointStage

namespace Registrar

section Built

variable {service : Service} {catalog : Catalog} {settings : Settings} {options : ClientOptions}
  {resolver : Option Resolver} {o : Operation} {hooks : Hooks}
  (hcatalog : service.catalog? = some catalog) (hsound : Sound service catalog)
  (haccepted : ClientOptions.ofSettings service settings = .ok options)

/-- The stage of an operation for a client with the handler for settings alone. -/
private def settingsStage (service : Service) (catalog : Catalog) (o : Operation)
    (options : ClientOptions) (hooks : Hooks) : EndpointStage :=
  .ofOptions (programOf service catalog o) options
    (sourcesFor Integration.default (programOf service catalog o) options) hooks

include hcatalog hsound haccepted

/-- **The configured values of a record.** A built-in parameter has what the settings say for its
identifier. A client parameter that is not built-in, and that the operation neither fixes nor binds
to a member, has what the settings say for its name. -/
private theorem record_value (ho : o ∈ service.operations) {x : Exchange} {record : Record}
    (hrecord : (settingsStage service catalog o { options with resolver := resolver } hooks
      ).boundRecord x = .ok record) :
    (∀ p ∈ catalog.builtIns, ∀ identifier, p.builtIn = some identifier →
      (record.get? p.name).map ParameterValue.toUntyped = settings.builtInValue? identifier) ∧
    ∀ p ∈ catalog.parameters, p.isBuiltIn = false → service.isClientParameter p.name = true →
      (∀ b ∈ o.bindings, b.2 ≠ p.name) → o.staticParams.get? p.name = none →
      (record.get? p.name).map ParameterValue.toUntyped = settings.clientValue? p.name := by
  obtain ⟨-, hvalue⟩ := names_and_values_of_resolve hsound ho hrecord
  constructor
  · intro p hp identifier hidentifier
    obtain ⟨hmem, hbuiltIn⟩ := List.mem_filter.mp hp
    have htakes : (programOf service catalog o).takesBuiltIns = true := by
      rw [takesBuiltIns_programOf, Catalog.hasBuiltIns, List.any_eq_true]
      exact ⟨p, hmem, hbuiltIn⟩
    -- The settings are the only source of the client, so the last source that supplies a value
    -- is the one that they make.
    rw [hvalue p hmem, Service.valueByPrecedence, if_pos hbuiltIn, settingsStage, supplied_default,
      if_pos htakes, List.map_singleton, List.reverse_singleton, List.findSome?_singleton,
      catalog_programOf]
    exact map_toUntyped_settingsValues hcatalog haccepted hsound.nodup hp hidentifier
  · intro p hp hbuiltIn hclient hmembers hstatic
    have hunbound : (o.bindings.reverse.find? fun b ↦ b.2 = p.name) = none := by
      rw [List.find?_eq_none]
      intro b hb
      simpa using hmembers b (List.mem_reverse.mp hb)
    rw [hvalue p hp, Service.valueByPrecedence, if_neg (Bool.eq_false_iff.mp hbuiltIn), hstatic,
      hunbound]
    dsimp only
    rw [if_pos hclient]
    exact map_toUntyped_clientContext haccepted p.name

omit hsound in
/-- **Nothing else in the settings matters.** -/
private theorem run_settingsStage_of_sameFor {settings' : Settings} {options' : ClientOptions}
    (haccepted' : ClientOptions.ofSettings service settings' = .ok options')
    (hsame : settings.SameFor catalog settings') (call : Call) :
    (settingsStage service catalog o { options' with resolver := resolver } hooks).run call
      = (settingsStage service catalog o { options with resolver := resolver } hooks).run call := by
  have hsources : sourcesFor Integration.default (programOf service catalog o)
        { options' with resolver := resolver }
      = sourcesFor Integration.default (programOf service catalog o)
        { options with resolver := resolver } := by
    have hvalues := settingsValues_eq_of_sameFor hcatalog haccepted haccepted' hsame
    rw [sourcesFor_default, sourcesFor_default, catalog_programOf]
    exact congrArg (fun values ↦ if (programOf service catalog o).takesBuiltIns then
      [BuiltInSource.fixed values] else []) hvalues
  -- The sources agree, so the two stages differ in the values of the client parameters at most, and
  -- the program takes those that are open only.
  have hstage : settingsStage service catalog o { options' with resolver := resolver } hooks
      = { settingsStage service catalog o { options with resolver := resolver } hooks with
          clientContext := options'.clientContext } := by
    rw [settingsStage, settingsStage, hsources]
    rfl
  rw [hstage]
  refine EndpointStage.run_congr_client (fun parameter hstep ↦ ?_) call
  have hstep' : .clientContext parameter ∈ stepsOf service catalog o := by
    rw [← steps_programOf]
    exact hstep
  obtain ⟨p, hp, hopen⟩ := Catalog.exists_of_isOpen (clientContext_mem_stepsOf hstep')
  obtain ⟨hmem, rfl⟩ := Catalog.of_get?_eq_some hp
  have hvalue := hsame.client p hmem hopen
  rw [← map_toUntyped_clientContext haccepted', ← map_toUntyped_clientContext haccepted] at hvalue
  exact Option.map_injective ParameterValue.toUntyped_injective hvalue

end Built

/-- **Configured values reach the resolver, and nothing else of the settings does.** Take a client
whose settings were accepted, with any resolver, and the stage of an operation that is built for it
with the default integrations. The operation is the last one declared with its name.

If a call reaches the resolver, every built-in parameter has in the record what the settings say for
its identifier, and every client parameter that is not built-in, and that the operation neither
binds to a member nor fixes, has what they say for its name; if they say nothing, or null, it is
unset.

Other accepted settings that say the same for the identifiers of built-in parameters and for the
parameters that are not built-in lead to a stage that does the same with every call. So it does not
matter what is set for a client parameter that is built-in, or for an identifier that no parameter
uses. -/
theorem configured_values_reach_resolver {service : Service} {settings : Settings}
    {options : ClientOptions} {resolver : Option Resolver} {r : Registrar} {operation : String}
    {built : Built} (haccepted : ClientOptions.ofSettings service settings = .ok options)
    (hnew : new service Integration.default = .ok r)
    (hbuild : r.build operation { options with resolver := resolver } = .ok (some built)) :
    ∃ catalog o, service.catalog? = some catalog ∧ service.lastOperation? operation = some o ∧
      ((service.operations.map Operation.name).count operation = 1 →
        service.operation? operation = some o) ∧
      (∀ (call : Call) record, record ∈ (built.stage.run call).log.filterMap Event.asked? →
        (∀ p ∈ catalog.builtIns, ∀ identifier, p.builtIn = some identifier →
          (record.get? p.name).map ParameterValue.toUntyped
            = settings.builtInValue? identifier) ∧
        ∀ p ∈ catalog.parameters, p.isBuiltIn = false →
          service.isClientParameter p.name = true → (∀ b ∈ o.bindings, b.2 ≠ p.name) →
          o.staticParams.get? p.name = none →
          (record.get? p.name).map ParameterValue.toUntyped = settings.clientValue? p.name) ∧
      ∀ settings' options', ClientOptions.ofSettings service settings' = .ok options' →
        settings.SameFor catalog settings' →
        ∃ built', r.build operation { options' with resolver := resolver } = .ok (some built') ∧
          ∀ call, built'.stage.run call = built.stage.run call := by
  obtain ⟨catalog, first, last, hcatalog, hsound, hfirst, hlast, hstage⟩ :=
    exists_operations_of_build hnew hbuild
  have hmem : last ∈ service.operations := Service.mem_of_lastOperation? hlast
  refine ⟨catalog, last, hcatalog, hlast, fun honce ↦ ?_, fun call record hrecord ↦ ?_,
    fun settings' options' haccepted' hsame ↦ ?_⟩
  · rw [← hlast, Service.lastOperation?_eq_operation? honce]
  · rw [hstage] at hrecord
    obtain ⟨request, asked, -, hasks, -⟩ := EndpointStage.mem_asked_run_iff.mp hrecord
    exact record_value hcatalog hsound haccepted hmem hasks.record
  · obtain ⟨model, program, hmodel, hprogram, -⟩ := build_eq_ok_some_iff.mp hbuild
    obtain ⟨built', hbuild'⟩ : ∃ built',
        r.build operation { options' with resolver := resolver } = .ok (some built') :=
      ⟨_, build_eq_ok_some_iff.mpr ⟨model, program, hmodel, hprogram, rfl⟩⟩
    refine ⟨built', hbuild', fun call ↦ ?_⟩
    obtain ⟨catalog', first', last', hcatalog', -, hfirst', hlast', hstage'⟩ :=
      exists_operations_of_build hnew hbuild'
    obtain rfl := Option.some.inj (hcatalog.symm.trans hcatalog')
    obtain rfl := Option.some.inj (hlast.symm.trans hlast')
    rw [hstage', hstage]
    exact run_settingsStage_of_sameFor hcatalog haccepted haccepted' hsame call

/-! ### A store whose client sets more than is used -/

private def scopeCatalog : Catalog :=
  ⟨[⟨"Region", .string, some "SDK::Region", true, none⟩,
    ⟨"Regional", .string, some "SDK::Region", false, none⟩, .plain "Scope" .string]⟩

private def scopeGet : Operation := ⟨"Get", none, .ofList []⟩

private def scopeStore : Service :=
  ⟨"Store", some ⟨none, scopeCatalog, .null⟩,
    some (.ofList [("Scope", ⟨.string, none⟩), ("Region", ⟨.string, none⟩)]), [scopeGet]⟩

private def usedSettings : Settings :=
  ⟨.ofList [("Scope", .string "all")], .ofList [("SDK::Region", .string "north")]⟩

private def allSettings : Settings :=
  ⟨.ofList [("Region", .string "south"), ("Scope", .string "all")],
    .ofList [("SDK::Endpoint", .bool true), ("SDK::Region", .string "north")]⟩

private def usedOptions : ClientOptions :=
  ⟨.ofList [("Scope", .string "all")], .ofList [("SDK::Region", .string "north")], none⟩

private def allOptions : ClientOptions :=
  ⟨.ofList [("Region", .string "south"), ("Scope", .string "all")],
    .ofList [("SDK::Region", .string "north")], none⟩

private def noAnswer : Resolver := ⟨fun _ _ ↦ ⟨[], .abandoned⟩⟩

private def scopeRequest : Http.Request :=
  ⟨"GET", ⟨"https", none, .segments [], none, none⟩, .empty⟩

private def scopeCall : Call := ⟨.new "Get", .http scopeRequest, .empty "GetInput"⟩

private def scopeProgram : Program := programOf scopeStore scopeCatalog scopeGet

private theorem build_scopeStore :
    ∃ r built, new scopeStore Integration.default = .ok r ∧
      r.build "Get" { allOptions with resolver := some noAnswer } = .ok (some built) ∧
      built.stage = settingsStage scopeStore scopeCatalog scopeGet
        { allOptions with resolver := some noAnswer } .empty := by
  have hcatalog : scopeStore.catalog? = some scopeCatalog := rfl
  exact exists_build hcatalog rfl rfl rfl Integration.default _

/-- The resolver is asked about a record in which both parameters of the identifier have its value,
and what is set for the built-in client parameter and the unused identifier makes no difference. -/
theorem configured_values_of_scope_store :
    ClientOptions.ofSettings scopeStore allSettings = .ok allOptions ∧
    ∃ r built record,
      new scopeStore Integration.default = .ok r ∧
      r.build "Get" { allOptions with resolver := some noAnswer } = .ok (some built) ∧
      record ∈ (built.stage.run scopeCall).log.filterMap Event.asked? ∧
      (record.get? "Region").map ParameterValue.toUntyped = some (.string "north") ∧
      (record.get? "Regional").map ParameterValue.toUntyped = some (.string "north") ∧
      (record.get? "Scope").map ParameterValue.toUntyped = some (.string "all") ∧
      ClientOptions.ofSettings scopeStore usedSettings = .ok usedOptions ∧
      allSettings.SameFor scopeCatalog usedSettings ∧
      ∃ built', r.build "Get" { usedOptions with resolver := some noAnswer } = .ok (some built') ∧
        ∀ call, built'.stage.run call = built.stage.run call := by
  obtain ⟨r, built, hnew, hbuild, hstage⟩ := build_scopeStore
  have haccepted : ClientOptions.ofSettings scopeStore allSettings = .ok allOptions := rfl
  have hused : ClientOptions.ofSettings scopeStore usedSettings = .ok usedOptions := rfl
  have hsame : allSettings.SameFor scopeCatalog usedSettings := by
    constructor
    · intro p hp identifier hidentifier
      have hregion : ∀ p ∈ scopeCatalog.builtIns, p.builtIn = some "SDK::Region" := by decide
      obtain rfl := Option.some.inj ((hregion p hp).symm.trans hidentifier)
      rfl
    · decide
  obtain ⟨catalog, o, hcatalog, hlast, -, hvalues, hothers⟩ :=
    configured_values_reach_resolver haccepted hnew hbuild
  obtain rfl := Option.some.inj hcatalog
  obtain rfl := Option.some.inj hlast
  obtain ⟨record, hrecord⟩ : ∃ record,
      record ∈ (built.stage.run scopeCall).log.filterMap Event.asked? := by
    have htakes : scopeProgram.takesBuiltIns = true := by
      rw [scopeProgram, takesBuiltIns_programOf]
      rfl
    have hsupplied : ∀ x, built.stage.supplied x
        = [⟨settingsValues scopeCatalog allOptions, false, []⟩] := by
      intro x
      rw [hstage, settingsStage, supplied_default]
      exact if_pos htakes
    have hlive : (built.stage.ready (scopeCall.exchange scopeRequest)).context.canceled
        = false := by
      rw [EndpointStage.canceled_ready, hsupplied, hstage]
      rfl
    have hprogram : built.stage.program.steps = [.builtIns, .clientContext "Scope"] := by
      rw [hstage]
      exact steps_programOf _ _ _
    obtain ⟨record, hrecord⟩ : ∃ record,
        built.stage.boundRecord (scopeCall.exchange scopeRequest) = .ok record := by
      rw [EndpointStage.boundRecord, hsupplied, Program.resolve_eq, hprogram, hstage]
      exact ⟨_, rfl⟩
    refine ⟨record, EndpointStage.mem_asked_run_iff.mpr
      ⟨scopeRequest, noAnswer, rfl, ⟨?_, ?_, ?_, hrecord⟩, hlive⟩⟩
    · rw [hstage]
      rfl
    · rw [hstage]
      rfl
    · rw [hstage]
      rfl
  obtain ⟨hbuiltIns, hclient⟩ := hvalues scopeCall record hrecord
  exact ⟨haccepted, r, built, record, hnew, hbuild, hrecord,
    hbuiltIns ⟨"Region", .string, some "SDK::Region", true, none⟩ (by decide) "SDK::Region" rfl,
    hbuiltIns ⟨"Regional", .string, some "SDK::Region", false, none⟩ (by decide) "SDK::Region" rfl,
    hclient (.plain "Scope" .string) (by decide) rfl rfl (by decide) rfl,
    hused, hsame, hothers usedSettings usedOptions hused hsame⟩

end Registrar

end Call

end CallRouting
