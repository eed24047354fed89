import CallRouting.Proofs.Binding.Acceptance
import CallRouting.Proofs.Binding.Assignments
import CallRouting.Proofs.Binding.Record

/-!
# Precedence

Where the value of a parameter comes from can be said without steps and without an order of
assignments: a built-in parameter has the last built-in value for it, and every other parameter has
the value that the operation fixes, or else that of the last member bound to it, or else what the
client is configured with. `resolve_follows_precedence` says that the record of a run is that.

The proof takes the assignments of a run source by source. The last write of the whole run is that
of the last source that writes to the parameter at all, and the checks of the compilation see to it
that built-in values and the other sources never write to the same parameter.
-/

namespace CallRouting

open Binding Call

/-- The value that a parameter has by precedence, as an untyped value; nothing if it is unset. -/
def Service.valueByPrecedence (s : Service) (o : Operation) (builtIns : BuiltInValues)
    (client : OrderedMap ParameterValue) (input : Input) (p : Parameter) : Option Json.Value :=
  if p.isBuiltIn then (builtIns.reverse.findSome? (·.get? p.name)).map ParameterValue.toUntyped
  else
    match o.staticParams.get? p.name with
    | some raw => some raw
    | none =>
      match o.bindings.reverse.find? fun b ↦ b.2 = p.name with
      -- a bound member that is absent or null leaves the parameter unset, whatever the client has
      | some b => input.given? b.1
      | none =>
        if s.isClientParameter p.name then (client.get? p.name).map ParameterValue.toUntyped
        else none

namespace Binding

/-! ## The writes of each source -/

section Writes

variable (service : Service) (catalog : Catalog) (o : Operation) (builtIns : BuiltInValues)
  (client : OrderedMap ParameterValue) (input : Input)

/-- What the program of an operation writes in some of its steps. -/
private def writesOf (steps : List Step) : List Assignment :=
  steps.flatMap ((programOf service catalog o).stepWrites builtIns client input)

private theorem writesOf_append (l l' : List Step) :
    writesOf service catalog o builtIns client input (l ++ l')
      = writesOf service catalog o builtIns client input l
        ++ writesOf service catalog o builtIns client input l' := by
  rw [writesOf, List.flatMap_append, writesOf, writesOf]

private theorem lookup_flatMap_entries (name : String) :
    (builtIns.flatMap OrderedMap.entries).reverse.lookup name
      = builtIns.reverse.findSome? (·.get? name) := by
  induction builtIns with
  | nil => rfl
  | cons m rest ih =>
    rw [List.flatMap_cons, List.reverse_append, List.lookup_append, ih, List.reverse_cons,
      List.findSome?_append, OrderedMap.lookup_reverse_entries, List.findSome?_singleton]

private theorem lastWrite_builtIns {p : Parameter} (hget : catalog.get? p.name = some p)
    (hp : p ∈ catalog.parameters) :
    lastWrite (writesOf service catalog o builtIns client input
        (if catalog.hasBuiltIns then [.builtIns] else [])) p.name
      = if p.isBuiltIn then (builtIns.reverse.findSome? (·.get? p.name)).map some else none := by
  have hbuiltIn : (programOf service catalog o).isBuiltIn p.name = p.isBuiltIn := by
    rw [Program.isBuiltIn, programOf, Program.ofSteps, hget]
  by_cases h : p.isBuiltIn = true
  · have hhas : catalog.hasBuiltIns = true := List.any_eq_true.mpr ⟨p, hp, h⟩
    rw [if_pos hhas, if_pos h, writesOf, List.flatMap_singleton, Program.stepWrites, lastWrite_map,
      ← List.filter_reverse, List.find?_filter, ← lookup_flatMap_entries, lookup_eq_find?,
      Option.map_map]
    -- a value for the parameter is one for a built-in parameter, so the filter keeps all of them
    have hkept : (fun e : String × ParameterValue ↦
        decide ((programOf service catalog o).isBuiltIn e.1 = true ∧ decide (e.1 = p.name) = true))
          = fun e ↦ decide (e.1 = p.name) := by
      funext e
      by_cases he : e.1 = p.name
      · simp [he, hbuiltIn, h]
      · simp [he]
    dsimp only
    rw [hkept]
    rfl
  · rw [if_neg h, lastWrite_eq_none_iff]
    intro a ha hname
    obtain ⟨step, hstep, hwrite⟩ := List.mem_flatMap.mp ha
    split at hstep
    · rw [List.mem_singleton.mp hstep, Program.stepWrites] at hwrite
      obtain ⟨e, he, rfl⟩ := List.mem_map.mp hwrite
      have he' := (List.mem_filter.mp he).2
      rw [show e.1 = p.name from hname, hbuiltIn] at he'
      exact h he'
    · cases hstep

private theorem lastWrite_clients (names : List String) (name : String) :
    lastWrite (writesOf service catalog o builtIns client input (names.map .clientContext)) name
      = if name ∈ names then some (client.get? name) else none := by
  have hwrites : writesOf service catalog o builtIns client input (names.map .clientContext)
      = names.map fun n ↦ ⟨n, client.get? n, .clientContext⟩ := by
    rw [writesOf, List.flatMap_map, List.map_eq_flatMap]
    rfl
  rw [hwrites]
  by_cases h : name ∈ names
  · rw [if_pos h]
    refine lastWrite_eq_some_of_forall (a := ⟨name, client.get? name, .clientContext⟩)
      (List.mem_map_of_mem h) fun b hb hname ↦ ?_
    obtain ⟨n, -, rfl⟩ := List.mem_map.mp hb
    exact congrArg client.get? hname
  · rw [if_neg h, lastWrite_eq_none_iff]
    rintro a ha rfl
    obtain ⟨n, hn, rfl⟩ := List.mem_map.mp ha
    exact h hn

private theorem lastWrite_members (name : String) :
    lastWrite (writesOf service catalog o builtIns client input
        (o.bindings.map fun b ↦ .inputContext b.1 b.2)) name
      = (o.bindings.reverse.find? fun b ↦ b.2 = name).map fun b ↦
          (programOf service catalog o).memberValue input b.1 b.2 := by
  have hwrites : writesOf service catalog o builtIns client input
        (o.bindings.map fun b ↦ .inputContext b.1 b.2)
      = o.bindings.map fun b ↦
          ⟨b.2, (programOf service catalog o).memberValue input b.1 b.2, .inputContext⟩ := by
    rw [writesOf, List.flatMap_map, List.map_eq_flatMap]
    rfl
  rw [hwrites, lastWrite_map]

private theorem lastWrite_statics {p : Parameter} (hp : p ∈ catalog.parameters) :
    lastWrite (writesOf service catalog o builtIns client input
        (catalog.parameters.filterMap (staticStep o.staticParams))) p.name
      = ((o.staticParams.get? p.name).bind ParameterValue.ofUntyped?).map some := by
  have hmem : ∀ a, a ∈ writesOf service catalog o builtIns client input
        (catalog.parameters.filterMap (staticStep o.staticParams)) ↔
      ∃ q ∈ catalog.parameters, ∃ v,
        (o.staticParams.get? q.name).bind ParameterValue.ofUntyped? = some v ∧
          a = ⟨q.name, some v, .staticContext⟩ := by
    intro a
    rw [writesOf, List.mem_flatMap]
    constructor
    · rintro ⟨step, hstep, hwrite⟩
      obtain ⟨q, hq, hqstep⟩ := List.mem_filterMap.mp hstep
      obtain ⟨v, hv, rfl⟩ := Option.map_eq_some_iff.mp hqstep
      exact ⟨q, hq, v, hv, List.mem_singleton.mp hwrite⟩
    · rintro ⟨q, hq, v, hv, rfl⟩
      exact ⟨.staticContext q.name v,
        List.mem_filterMap.mpr ⟨q, hq, Option.map_eq_some_iff.mpr ⟨v, hv, rfl⟩⟩,
        List.mem_singleton.mpr rfl⟩
  -- A name that the catalog repeats is written several times, but always with the same value.
  cases h : (o.staticParams.get? p.name).bind ParameterValue.ofUntyped? with
  | none =>
    rw [Option.map_none, lastWrite_eq_none_iff]
    intro a ha hname
    obtain ⟨q, -, v, hv, rfl⟩ := (hmem a).mp ha
    rw [show q.name = p.name from hname, h] at hv
    cases hv
  | some v =>
    refine lastWrite_eq_some_of_forall (a := ⟨p.name, some v, .staticContext⟩)
      ((hmem _).mpr ⟨p, hp, v, h, rfl⟩) fun b hb hname ↦ ?_
    obtain ⟨q, -, w, hw, rfl⟩ := (hmem b).mp hb
    rw [show q.name = p.name from hname, h] at hw
    exact hw.symm

end Writes

/-! ## The value that counts -/

section Value

variable {service : Service} {catalog : Catalog} (hsound : Sound service catalog) {o : Operation}
  (ho : o ∈ service.operations) {p : Parameter} (hp : p ∈ catalog.parameters)

include hsound hp

private theorem get?_name : catalog.get? p.name = some p :=
  (get?_eq_some_iff_of_nodup hsound.nodup).mpr ⟨hp, rfl⟩

private theorem isBuiltIn_eq_false_of_open {q : Parameter} (hq : Open catalog q)
    (hname : q.name = p.name) : p.isBuiltIn = false := by
  rw [← List.inj_on_of_nodup_map hsound.nodup hq.1 hp hname]
  exact hq.2

private theorem mem_openClientNames_iff :
    p.name ∈ openClientNames catalog service.clientParameters.entries ↔
      service.isClientParameter p.name = true ∧ p.isBuiltIn = false := by
  rw [openClientNames, List.mem_filter, Catalog.isOpen, get?_name hsound hp,
    Service.isClientParameter, OrderedMap.contains_iff, OrderedMap.keys, Bool.not_eq_true']

include ho

private theorem staticParams_get?_of_isBuiltIn (h : p.isBuiltIn = true) :
    o.staticParams.get? p.name = none := by
  rw [OrderedMap.get?_eq_none_iff]
  intro hmem
  obtain ⟨e, he, hname⟩ := List.mem_map.mp hmem
  obtain ⟨q, hq, hqname, -⟩ := (hsound.operations o ho).statics e he
  rw [isBuiltIn_eq_false_of_open hsound hp hq (hqname.trans hname)] at h
  cases h

private theorem find?_bindings_of_isBuiltIn (h : p.isBuiltIn = true) :
    (o.bindings.reverse.find? fun b ↦ b.2 = p.name) = none := by
  rw [List.find?_eq_none]
  intro b hb hname
  obtain ⟨q, hq, hqname⟩ := (hsound.operations o ho).bindings b (List.mem_reverse.mp hb)
  rw [isBuiltIn_eq_false_of_open hsound hp hq (hqname.trans (by simpa using hname))] at h
  cases h

omit hp in
private theorem map_toUntyped_static :
    ((o.staticParams.get? p.name).bind ParameterValue.ofUntyped?).map ParameterValue.toUntyped
      = o.staticParams.get? p.name := by
  cases h : o.staticParams.get? p.name with
  | none => rfl
  | some raw =>
    obtain ⟨q, v, -, -, hv⟩ :=
      (hsound.operations o ho).exists_ofJson (OrderedMap.get?_eq_some_iff.mp h)
    have hraw : raw = v.toUntyped := (ParameterValue.ofJson_eq_ok_iff.mp hv).1
    rw [hraw, Option.bind_some, ParameterValue.ofUntyped?_toUntyped, Option.map_some]

/-- The last write of a run that finds no fault is the value by precedence. -/
private theorem lastWrite_writesOf (builtIns : BuiltInValues) (client : OrderedMap ParameterValue)
    (input : Input)
    (hfault : ∀ b ∈ o.bindings,
      (programOf service catalog o).memberFault input b.1 b.2 = none) :
    (lastWrite (writesOf service catalog o builtIns client input (stepsOf service catalog o))
        p.name).join.map ParameterValue.toUntyped
      = service.valueByPrecedence o builtIns client input p := by
  rw [stepsOf, writesOf_append, writesOf_append, writesOf_append, lastWrite_append,
    lastWrite_append, lastWrite_append, lastWrite_statics _ _ _ _ _ _ hp, lastWrite_members,
    lastWrite_clients, lastWrite_builtIns _ _ _ _ _ _ (get?_name hsound hp) hp,
    Service.valueByPrecedence]
  have hclients := mem_openClientNames_iff hsound hp
  by_cases hbuiltIn : p.isBuiltIn = true
  · -- no declaration aims at a built-in parameter
    have hclient : p.name ∉ openClientNames catalog service.clientParameters.entries := by
      rw [hclients, hbuiltIn]
      simp
    rw [staticParams_get?_of_isBuiltIn hsound ho hp hbuiltIn,
      find?_bindings_of_isBuiltIn hsound ho hp hbuiltIn, if_neg hclient, if_pos hbuiltIn,
      if_pos hbuiltIn]
    cases builtIns.reverse.findSome? (·.get? p.name) <;> rfl
  · rw [if_neg hbuiltIn, if_neg hbuiltIn]
    have hstatic := map_toUntyped_static hsound ho (p := p)
    cases hraw : o.staticParams.get? p.name with
    | some raw =>
      rw [hraw] at hstatic
      obtain ⟨v, hv, rfl⟩ := Option.map_eq_some_iff.mp hstatic
      rw [hv]
      rfl
    | none =>
      cases hfind : o.bindings.reverse.find? fun b ↦ b.2 = p.name with
      | some b =>
        have hb : b ∈ o.bindings := List.mem_reverse.mp (List.mem_of_find?_eq_some hfind)
        have hname : b.2 = p.name := by simpa using List.find?_some hfind
        have hdeclared : (programOf service catalog o).catalog.contains b.2 = true := by
          rw [hname]
          exact Catalog.contains_iff.mpr (List.mem_map_of_mem hp)
        exact Program.map_toUntyped_memberValue _ _ hdeclared (hfault b hb)
      | none =>
        have hiff : p.name ∈ openClientNames catalog service.clientParameters.entries ↔
            service.isClientParameter p.name = true := by
          rw [hclients]
          exact and_iff_left (Bool.eq_false_iff.mpr hbuiltIn)
        by_cases hclient : service.isClientParameter p.name = true
        · rw [if_pos (hiff.mpr hclient), if_pos hclient]
          cases client.get? p.name <;> rfl
        · rw [if_neg (hiff.not.mpr hclient), if_neg hclient]
          rfl

omit hp in
theorem names_and_values_of_resolve {builtIns : BuiltInValues} {client : OrderedMap ParameterValue}
    {input : Input} {record : Record}
    (hresolve : (programOf service catalog o).resolve builtIns client input = .ok record) :
    record.names = catalog.names ∧
      ∀ p ∈ catalog.parameters,
        (record.get? p.name).map ParameterValue.toUntyped
          = service.valueByPrecedence o builtIns client input p := by
  rw [Program.resolve_eq, unlessFault_eq_ok_iff, List.findSome?_eq_none_iff, steps_programOf]
    at hresolve
  obtain ⟨hfault, rfl⟩ := hresolve
  refine ⟨?_, fun p hp ↦ ?_⟩
  · rw [Record.names_materialize, catalog_programOf]
    exact eraseDups_eq_self hsound.nodup
  · have hmember : ∀ b ∈ o.bindings,
        (programOf service catalog o).memberFault input b.1 b.2 = none := by
      intro b hb
      exact hfault _ (inputContext_mem_stepsOf_iff.mpr hb)
    have hname : p.name ∈ (programOf service catalog o).catalog.names := List.mem_map_of_mem hp
    rw [Record.get?_materialize hname]
    exact lastWrite_writesOf hsound ho hp builtIns client input hmember

end Value

/-- **Precedence.** A program in the table of an accepted service is that of the last operation of
its name. If it is run and finds no fault, the record has the names of the catalog in their order,
and each parameter has the value that it has by precedence. -/
theorem resolve_follows_precedence {service : Service} {integrations : List Call.Integration}
    {compiled : Compiled} {name : String} {program : Program}
    (hcompile : compile service integrations = .ok compiled)
    (hprogram : compiled.program? name = some program) :
    ∃ catalog o, service.catalog? = some catalog ∧ service.lastOperation? name = some o ∧
      ∀ (builtIns : BuiltInValues) (client : OrderedMap ParameterValue) (input : Input)
        (record : Record), program.resolve builtIns client input = .ok record →
        record.names = catalog.names ∧
        ∀ p ∈ catalog.parameters,
          (record.get? p.name).map ParameterValue.toUntyped
            = service.valueByPrecedence o builtIns client input p := by
  obtain ⟨catalog, o, hcatalog, hsound, hlast, rfl⟩ :=
    exists_operation_of_program? hcompile hprogram
  have ho : o ∈ service.operations := Service.mem_of_lastOperation? hlast
  exact ⟨catalog, o, hcatalog, hlast, fun builtIns client input record hresolve ↦
    names_and_values_of_resolve hsound ho hresolve⟩

/-! ### A store whose buckets are bound in every way -/

private def storeCatalog : Catalog :=
  ⟨[⟨"Region", .string, some "SDK::Region", true, none⟩, .plain "Bucket" .string,
    .plain "Accelerate" .boolean, .plain "Scope" .string]⟩

private def storeGet : Operation :=
  ⟨"Get", some ⟨"GetInput", [⟨"Bucket", some "Bucket"⟩, ⟨"Scope", some "Scope"⟩]⟩,
    .ofList [("Accelerate", .bool true)]⟩

private def store : Service :=
  ⟨"Store", some ⟨none, storeCatalog, .null⟩,
    some (.ofList [("Scope", ⟨.string, none⟩), ("Accelerate", ⟨.boolean, none⟩)]), [storeGet]⟩

private def storeBuiltIns : BuiltInValues :=
  [.ofList [("Region", .string "north")], .ofList [("Region", .string "south")]]

private def storeClient : OrderedMap ParameterValue :=
  .ofList [("Scope", .string "all"), ("Accelerate", .boolean false)]

private def storeInput : Input := ⟨"GetInput", [("Bucket", .string "photos"), ("Scope", .null)]⟩

/-- The second built-in value, the fixed value and the null member count. -/
theorem resolve_store_get :
    compile store [] = .ok (compiledOf store storeCatalog []) ∧
    (compiledOf store storeCatalog []).program? "Get"
      = some (programOf store storeCatalog storeGet) ∧
    ∃ record,
      (programOf store storeCatalog storeGet).resolve storeBuiltIns storeClient storeInput
        = .ok record ∧
      record.names = ["Region", "Bucket", "Accelerate", "Scope"] ∧
      storeCatalog.parameters.map (fun p ↦ (record.get? p.name).map ParameterValue.toUntyped)
        = [some (.string "south"), some (.string "photos"), some (.bool true), none] := by
  have hcompile : compile store [] = .ok (compiledOf store storeCatalog []) :=
    compile_of_serviceFault_eq_none rfl rfl []
  have hprogram : (compiledOf store storeCatalog []).program? "Get"
      = some (programOf store storeCatalog storeGet) :=
    program?_compiledOf_of_last rfl
  obtain ⟨record, hrecord⟩ : ∃ record,
      (programOf store storeCatalog storeGet).resolve storeBuiltIns storeClient storeInput
        = .ok record := by
    rw [Program.resolve_eq, steps_programOf]
    exact ⟨_, rfl⟩
  obtain ⟨catalog, o, hcatalog, ho, hvalues⟩ := resolve_follows_precedence hcompile hprogram
  obtain rfl := Option.some.inj hcatalog
  obtain rfl := Option.some.inj ho
  obtain ⟨hnames, hget⟩ := hvalues _ _ _ _ hrecord
  refine ⟨hcompile, hprogram, record, hrecord, hnames, ?_⟩
  rw [List.map_congr_left hget]
  rfl

end Binding

end CallRouting
