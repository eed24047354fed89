import CallRouting.Proofs.Binding.Draft
import CallRouting.Proofs.FirstFault

/-!
# Compilation as first fault and answer

Each loop of the compilation is described by what is wrong with one declaration, and by the answer
that the loop gives if nothing is wrong with any. Together they make `compile_eq`: the compilation
of a service ends with the first fault of its declarations, or else with programs that are written
down in closed form.
-/

namespace CallRouting

/-- Whether a name is that of a parameter that a declaration may aim at: it is declared, and not
built-in. -/
def Catalog.isOpen (c : Catalog) (name : String) : Bool :=
  match c.get? name with
  | none => false
  | some declared => !declared.isBuiltIn

theorem Catalog.exists_of_isOpen {c : Catalog} {name : String} (h : c.isOpen name = true) :
    ∃ p, c.get? name = some p ∧ p.isBuiltIn = false := by
  rw [isOpen] at h
  cases hget : c.get? name with
  | none =>
    rw [hget] at h
    cases h
  | some p =>
    rw [hget] at h
    exact ⟨p, rfl, by simpa using h⟩

theorem Service.catalog?_of_rules {s : Service} {rules : EndpointRules}
    (h : s.endpointRules = some rules) : s.catalog? = some rules.parameters := by
  rw [catalog?, h, Option.map_some]

theorem Service.catalog?_of_no_rules {s : Service} (h : s.endpointRules = none) :
    s.catalog? = none := by
  rw [catalog?, h, Option.map_none]

/-- The last operation with a name: the one whose program the table of programs has. -/
def Service.lastOperation? (s : Service) (name : String) : Option Operation :=
  s.operations.reverse.find? fun o ↦ o.name = name

theorem Service.mem_of_lastOperation? {s : Service} {name : String} {o : Operation}
    (h : s.lastOperation? name = some o) : o ∈ s.operations :=
  List.mem_reverse.mp (List.mem_of_find?_eq_some h)

namespace Binding

/-! ## What is wrong with one declaration -/

/-- What is wrong with a parameter at its place of a catalog, if anything is. -/
def parameterFault (service : String) (catalog : Catalog) (place : Nat) (p : Parameter) :
    Option CompileError :=
  if !isParameterName p.name then some (.invalidParameterName service p.name)
  else if p.name ∈ (catalog.parameters.take place).map Parameter.name then
    some (.duplicateParameter service p.name)
  else none

/-- What is wrong with a client parameter, if anything is. -/
def clientFault (service : String) (catalog : Catalog) (e : String × ClientParameter) :
    Option CompileError :=
  match catalog.get? e.1 with
  | none => some (.unknownParameter service e.1 .clientContext)
  | some declared =>
    if declared.isBuiltIn ∨ e.2.type = declared.type then none
    else some (.clientContextType service e.1 e.2.type declared.type)

/-- What is wrong with aiming at a parameter, if anything is. -/
def targetFault (scope : String) (catalog : Catalog) (source : Source) (parameter : String) :
    Option CompileError :=
  match catalog.get? parameter with
  | none => some (.unknownParameter scope parameter source)
  | some declared =>
    if declared.isBuiltIn then some (.builtInTarget scope parameter source) else none

/-- What is wrong with the value that an operation fixes for a parameter, if anything is. -/
def staticFault (operation : String) (values : OrderedMap Json.Value) (p : Parameter) :
    Option CompileError :=
  match values.get? p.name with
  | none => none
  | some raw =>
    match ParameterValue.ofJson p.type raw with
    | .error cause => some (.staticType operation p.name cause)
    | .ok _ => none

/-! ## What is wrong first -/

/-- The first thing that is wrong with a catalog, if anything is. -/
def catalogFault (service : String) (catalog : Catalog) : Option CompileError :=
  catalog.parameters.zipIdx.findSome? fun e ↦ parameterFault service catalog e.2 e.1

/-- The first thing that is wrong with an operation, if anything is. -/
def operationFault (service : String) (catalog : Catalog) (o : Operation) : Option CompileError :=
  let scope := service ++ "." ++ o.name
  ((o.bindings.map Prod.snd).findSome? (targetFault scope catalog .inputContext)).or <|
    (o.staticParams.keys.findSome? (targetFault scope catalog .staticContext)).or <|
      catalog.parameters.findSome? (staticFault o.name o.staticParams)

/-- The first thing that is wrong with a service, if anything is: the catalog is checked first, then
the client parameters, then the operations one after the other. -/
def serviceFault (service : Service) (catalog : Catalog) : Option CompileError :=
  (catalogFault service.name catalog).or <|
    (service.clientParameters.entries.findSome? (clientFault service.name catalog)).or <|
      service.operations.findSome? (operationFault service.name catalog)

/-! ## What is compiled if nothing is wrong -/

/-- The names of the client parameters that steps are made for, in the order of declaration. -/
def openClientNames (catalog : Catalog) (l : List (String × ClientParameter)) : List String :=
  (l.map Prod.fst).filter catalog.isOpen

/-- The step of the value that an operation fixes for a parameter, if it fixes one. -/
def staticStep (values : OrderedMap Json.Value) (p : Parameter) : Option Step :=
  ((values.get? p.name).bind ParameterValue.ofUntyped?).map (.staticContext p.name)

/-- The steps of an operation, in the order in which its declarations are gone through. -/
def stepsOf (service : Service) (catalog : Catalog) (o : Operation) : List Step :=
  (if catalog.hasBuiltIns then [.builtIns] else [])
    ++ (openClientNames catalog service.clientParameters.entries).map .clientContext
    ++ o.bindings.map (fun b ↦ .inputContext b.1 b.2)
    ++ catalog.parameters.filterMap (staticStep o.staticParams)

/-- The program of an operation. -/
def programOf (service : Service) (catalog : Catalog) (o : Operation) : Program :=
  .ofSteps o.name catalog (inputShapeOf o) (stepsOf service catalog o)

/-- What a service is compiled to. -/
def compiledOf (service : Service) (catalog : Catalog) (integrations : List Call.Integration) :
    Compiled where
  service := service.name
  programs := OrderedMap.ofList <|
    service.operations.map fun o ↦ (o.name, programOf service catalog o)
  overlaps := service.operations.flatMap fun o ↦ overlapsOf o.name (stepsOf service catalog o)
  warnings := compileWarnings catalog (Call.Integration.handlers integrations)
    (service.operations.flatMap fun o ↦ overlapsOf o.name (stepsOf service catalog o))

/-! ## Steps in closed form are in order -/

/-- Steps in the order of precedence, with no source after that of rank `r`. -/
private def Ordered (r : Nat) (l : List Step) : Prop :=
  l.Pairwise (fun a b ↦ a.source.rank ≤ b.source.rank) ∧ ∀ s ∈ l, s.source.rank ≤ r

private theorem ordered_append {r : Nat} (r' : Nat) {l l' : List Step} (h : Ordered r l)
    (hr : r ≤ r') (h' : ∀ s ∈ l', s.source.rank = r') : Ordered r' (l ++ l') := by
  refine ⟨List.pairwise_append.mpr ⟨h.1, ?_, ?_⟩, fun s hs ↦ ?_⟩
  · refine List.pairwise_of_forall_mem_list fun a ha b hb ↦ ?_
    exact Nat.le_of_eq ((h' a ha).trans (h' b hb).symm)
  · intro a ha b hb
    rw [h' b hb]
    exact Nat.le_trans (h.2 a ha) hr
  · rcases List.mem_append.mp hs with hs | hs
    · exact Nat.le_trans (h.2 s hs) hr
    · exact Nat.le_of_eq (h' s hs)

theorem source_of_staticStep {values : OrderedMap Json.Value} {p : Parameter} {s : Step}
    (h : staticStep values p = some s) : s.source = .staticContext := by
  obtain ⟨v, -, rfl⟩ := Option.map_eq_some_iff.mp h
  rfl

theorem pairwise_rank_stepsOf (service : Service) (catalog : Catalog) (o : Operation) :
    (stepsOf service catalog o).Pairwise fun a b ↦ a.source.rank ≤ b.source.rank := by
  have hbuiltIns : Ordered 0 (if catalog.hasBuiltIns then [Step.builtIns] else []) := by
    cases catalog.hasBuiltIns <;> simp [Ordered, Step.source, Source.rank]
  refine (ordered_append 3 (ordered_append 2 (ordered_append 1 hbuiltIns (by decide) ?_)
    (by decide) ?_) (by decide) ?_).1
  · intro s hs
    obtain ⟨name, -, rfl⟩ := List.mem_map.mp hs
    rfl
  · intro s hs
    obtain ⟨b, -, rfl⟩ := List.mem_map.mp hs
    rfl
  · intro s hs
    obtain ⟨p, -, hp⟩ := List.mem_filterMap.mp hs
    rw [source_of_staticStep hp, Source.rank]

/-- Bringing the steps into the order of precedence changes nothing. -/
theorem steps_programOf (service : Service) (catalog : Catalog) (o : Operation) :
    (programOf service catalog o).steps = stepsOf service catalog o := by
  rw [programOf, Program.ofSteps]
  refine List.mergeSort_of_pairwise ((pairwise_rank_stepsOf service catalog o).imp ?_)
  intro a b hab
  exact decide_eq_true hab

theorem catalog_programOf (service : Service) (catalog : Catalog) (o : Operation) :
    (programOf service catalog o).catalog = catalog := rfl

theorem takesBuiltIns_programOf (service : Service) (catalog : Catalog) (o : Operation) :
    (programOf service catalog o).takesBuiltIns = catalog.hasBuiltIns := by
  rw [Program.takesBuiltIns, steps_programOf, stepsOf]
  cases hhas : catalog.hasBuiltIns with
  | true => rfl
  | false =>
    rw [List.contains_eq_mem, decide_eq_false_iff_not]
    intro hmem
    simp only [Bool.false_eq_true, if_false, List.nil_append, List.mem_append, List.mem_map,
      List.mem_filterMap, reduceCtorEq, and_false, exists_false, false_or] at hmem
    obtain ⟨p, -, hp⟩ := hmem
    cases source_of_staticStep hp

theorem mem_openClientNames_of_mem_stepsOf {service : Service} {catalog : Catalog} {o : Operation}
    {name : String} (h : .clientContext name ∈ stepsOf service catalog o) :
    name ∈ openClientNames catalog service.clientParameters.entries := by
  simp only [stepsOf, List.mem_append, List.mem_map, List.mem_filterMap, reduceCtorEq, and_false,
    exists_false, or_false, Step.clientContext.injEq] at h
  obtain (h | ⟨other, hother, rfl⟩) | ⟨p, -, hp⟩ := h
  · cases catalog.hasBuiltIns <;> simp at h
  · exact hother
  · cases source_of_staticStep hp

theorem clientContext_mem_stepsOf {service : Service} {catalog : Catalog} {o : Operation}
    {name : String} (h : .clientContext name ∈ stepsOf service catalog o) :
    catalog.isOpen name = true :=
  (List.mem_filter.mp (mem_openClientNames_of_mem_stepsOf h)).2

theorem inputContext_mem_stepsOf_iff {service : Service} {catalog : Catalog} {o : Operation}
    {member name : String} :
    .inputContext member name ∈ stepsOf service catalog o ↔ (member, name) ∈ o.bindings := by
  simp only [stepsOf, List.mem_append, List.mem_map, List.mem_filterMap, reduceCtorEq, and_false,
    exists_false, or_false, Step.inputContext.injEq]
  constructor
  · rintro ((h | ⟨b, hb, rfl, rfl⟩) | ⟨p, -, hp⟩)
    · cases catalog.hasBuiltIns <;> simp at h
    · exact hb
    · cases source_of_staticStep hp
  · intro hb
    exact Or.inl (Or.inr ⟨_, hb, rfl, rfl⟩)

/-! ## The table of programs -/

/-- Of several operations with one name, the last has its program in the table. -/
theorem program?_compiledOf (service : Service) (catalog : Catalog)
    (integrations : List Call.Integration) (name : String) :
    (compiledOf service catalog integrations).program? name
      = (service.lastOperation? name).map (programOf service catalog) := by
  rw [Compiled.program?, compiledOf, OrderedMap.get?_ofList, ← List.map_reverse,
    lookup_map_pair, Service.lastOperation?]

theorem program?_compiledOf_of_last {service : Service} {catalog : Catalog}
    {integrations : List Call.Integration} {name : String} {o : Operation}
    (h : service.lastOperation? name = some o) :
    (compiledOf service catalog integrations).program? name
      = some (programOf service catalog o) := by
  rw [program?_compiledOf, h, Option.map_some]

theorem keys_compiledOf (service : Service) (catalog : Catalog)
    (integrations : List Call.Integration) :
    (compiledOf service catalog integrations).programs.keys
      = (service.operations.map Operation.name).eraseDups := by
  rw [compiledOf, OrderedMap.keys_ofList, List.map_map]
  rfl

/-! ## The loops -/

/-- The names that the loop over the catalog has seen are those of the parameters before. -/
private theorem checkParameters_append (service : String) (before l : List Parameter) :
    checkParameters service (before.map Parameter.name).reverse l
      = unlessFault
          ((l.zipIdx before.length).findSome? fun e ↦
            parameterFault service ⟨before ++ l⟩ e.2 e.1) () := by
  induction l generalizing before with
  | nil => rfl
  | cons p rest ih =>
    -- The loop keeps the names that it has seen last first, so the declaration that it moves past
    -- goes to the end of those before and to the front of the names.
    have hnext := ih (before ++ [p])
    rw [List.map_append, List.map_singleton, List.reverse_concat, List.length_append,
      List.length_singleton, List.append_assoc, List.singleton_append] at hnext
    rw [checkParameters, List.zipIdx_cons, List.findSome?_cons, hnext, parameterFault,
      List.take_left]
    by_cases hname : isParameterName p.name = true
    · by_cases hseen : p.name ∈ before.map Parameter.name
      · simp [hname, hseen]
      · simp [hname, hseen]
    · simp [hname]

theorem checkParameters_eq (service : String) (catalog : Catalog) :
    checkParameters service [] catalog.parameters
      = unlessFault (catalogFault service catalog) () :=
  checkParameters_append service [] catalog.parameters

theorem checkClientParameters_eq (service : String) (catalog : Catalog)
    (l : List (String × ClientParameter)) :
    checkClientParameters service catalog l
      = unlessFault (l.findSome? (clientFault service catalog)) (openClientNames catalog l) := by
  induction l with
  | nil => rfl
  | cons e rest ih =>
    obtain ⟨name, client⟩ := e
    rw [checkClientParameters, List.findSome?_cons, clientFault, openClientNames, List.map_cons,
      List.filter_cons, Catalog.isOpen]
    cases hget : catalog.get? name with
    | none => rfl
    | some declared =>
      by_cases hb : declared.isBuiltIn = true
      · simp [hb, ih, openClientNames]
      · by_cases ht : client.type = declared.type
        · simp [hb, ht, ih, openClientNames]
        · simp [hb, ht]

theorem checkTarget_eq (scope : String) (catalog : Catalog) (parameter : String) (source : Source) :
    checkTarget scope catalog parameter source
      = unlessFault (targetFault scope catalog source parameter) () := by
  rw [checkTarget, targetFault]
  cases catalog.get? parameter with
  | none => rfl
  | some declared => cases h : declared.isBuiltIn <;> simp [h]

theorem checkTargets_eq (scope : String) (catalog : Catalog) (source : Source) (l : List String) :
    checkTargets scope catalog source l
      = unlessFault (l.findSome? (targetFault scope catalog source)) () := by
  induction l with
  | nil => rfl
  | cons p rest ih =>
    rw [checkTargets, checkTarget_eq, ih, List.findSome?_cons]
    cases targetFault scope catalog source p <;> rfl

theorem Draft.pushMembers_eq (scope : String) (catalog : Catalog) (l : List (String × String))
    (d : Draft) :
    d.pushMembers scope catalog l
      = unlessFault ((l.map Prod.snd).findSome? (targetFault scope catalog .inputContext))
          (d.pushAll (l.map fun b ↦ .inputContext b.1 b.2)) := by
  induction l generalizing d with
  | nil => rfl
  | cons b rest ih =>
    rw [pushMembers, checkTarget_eq, ih, List.map_cons, List.map_cons, List.findSome?_cons,
      pushAll_cons]
    cases targetFault scope catalog .inputContext b.2 <;> rfl

theorem Draft.pushStatics_eq (operation : String) (values : OrderedMap Json.Value)
    (l : List Parameter) (d : Draft) :
    d.pushStatics operation values l
      = unlessFault (l.findSome? (staticFault operation values))
          (d.pushAll (l.filterMap (staticStep values))) := by
  induction l generalizing d with
  | nil => rfl
  | cons p rest ih =>
    rw [pushStatics, List.findSome?_cons, List.filterMap_cons, staticFault, staticStep]
    cases hget : values.get? p.name with
    | none => simpa using ih d
    | some raw =>
      cases hv : ParameterValue.ofJson p.type raw with
      | error cause => simp [hv]
      | ok v => simp [hv, ParameterValue.ofUntyped?_of_ofJson hv, ih, pushAll_cons]

/-! ## Operations and services -/

/-- The steps are pushed section by section, so that together they are pushed one after the
other. -/
theorem draftOperation_eq (service : Service) (catalog : Catalog) (o : Operation) :
    draftOperation service.name catalog
        (openClientNames catalog service.clientParameters.entries) o
      = unlessFault (operationFault service.name catalog o)
          (Draft.empty.pushAll (stepsOf service catalog o)) := by
  -- The first two sections cannot fail, so they are brought to the form of the other two.
  have hopening : (if catalog.hasBuiltIns then Draft.empty.push .builtIns else .empty)
      = Draft.empty.pushAll (if catalog.hasBuiltIns then [.builtIns] else []) := by
    cases catalog.hasBuiltIns <;> rfl
  have hconfigured : ∀ (d : Draft) (names : List String),
      names.foldl (fun d p ↦ d.push (.clientContext p)) d
        = d.pushAll (names.map .clientContext) := by
    intro d names
    rw [Draft.pushAll, List.foldl_map]
  rw [draftOperation, operationFault, stepsOf, hopening, hconfigured, Draft.pushMembers_eq,
    checkTargets_eq, unlessFault_or, unlessFault_or, Draft.pushAll_append, Draft.pushAll_append,
    Draft.pushAll_append]
  cases (o.bindings.map Prod.snd).findSome?
      (targetFault (service.name ++ "." ++ o.name) catalog .inputContext) with
  | some e => rfl
  | none =>
    cases o.staticParams.keys.findSome?
        (targetFault (service.name ++ "." ++ o.name) catalog .staticContext) with
    | some e => rfl
    | none => exact Draft.pushStatics_eq _ _ _ _

theorem compileOperation_eq (service : Service) (catalog : Catalog) (o : Operation) :
    compileOperation service.name catalog
        (openClientNames catalog service.clientParameters.entries) o
      = unlessFault (operationFault service.name catalog o)
          (programOf service catalog o, overlapsOf o.name (stepsOf service catalog o)) := by
  rw [compileOperation, draftOperation_eq, map_unlessFault, Draft.steps_pushAll,
    Draft.overlaps_pushAll, programOf]
  rfl

theorem compileOperations_eq (service : Service) (catalog : Catalog) (l : List Operation) :
    compileOperations service.name catalog
        (openClientNames catalog service.clientParameters.entries) l
      = unlessFault (l.findSome? (operationFault service.name catalog))
          (l.map fun o ↦
            (programOf service catalog o, overlapsOf o.name (stepsOf service catalog o))) := by
  induction l with
  | nil => rfl
  | cons o rest ih =>
    rw [compileOperations, compileOperation_eq, ih, List.findSome?_cons]
    cases operationFault service.name catalog o with
    | some e => rfl
    | none => exact map_unlessFault _ _ _

/-- **Compilation as first fault and answer.** -/
theorem compile_eq {service : Service} {catalog : Catalog} (h : service.catalog? = some catalog)
    (integrations : List Call.Integration) :
    compile service integrations
      = unlessFault (serviceFault service catalog) (compiledOf service catalog integrations) := by
  rw [compile, h]
  dsimp only
  rw [checkParameters_eq, checkClientParameters_eq, serviceFault, unlessFault_or, unlessFault_or]
  cases catalogFault service.name catalog with
  | some e => rfl
  | none =>
    cases service.clientParameters.entries.findSome? (clientFault service.name catalog) with
    | some e => rfl
    | none =>
      dsimp only [unlessFault_none]
      rw [compileOperations_eq]
      cases service.operations.findSome? (operationFault service.name catalog) with
      | some e => rfl
      | none =>
        simp only [unlessFault_none, compiledOf, List.map_map, List.flatMap_map]
        rfl

theorem compile_of_serviceFault_eq_none {service : Service} {catalog : Catalog}
    (h : service.catalog? = some catalog) (hfault : serviceFault service catalog = none)
    (integrations : List Call.Integration) :
    compile service integrations = .ok (compiledOf service catalog integrations) := by
  rw [compile_eq h, hfault, unlessFault_none]

end Binding

end CallRouting
