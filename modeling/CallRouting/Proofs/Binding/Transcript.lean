import CallRouting.Proofs.Binding.Acceptance
import CallRouting.Proofs.Binding.Assignments
import Mathlib.Data.List.Forall2

/-!
# Programs transcribe declarations

The program of an operation has a step for each declaration that there is for the operation, and no
other step. `Transcribes` says which lists of steps do that: it goes through the declarations and
never through a check or a loop of the compilation.

Most declarations are gone through in their own order, so their steps are read off one by one. The
values that an operation fixes are not: the compilation walks through the catalog and looks each
name up. No value is lost on that walk, since the names that values are fixed for are those of
parameters, and none is taken twice, since the names of the catalog are distinct. Both come from
checks that are made elsewhere, and together they leave one list of steps that can be right.
-/

namespace CallRouting

open Binding

open Call (Input)

/-- The members of an operation's input that are bound to a parameter, in their order. -/
def Operation.boundMembers (o : Operation) : List InputMember :=
  match o.input with
  | none => []
  | some shape => shape.members.filter fun m ↦ m.contextParam.isSome

namespace Binding

/-- A step that takes a member of the input for the parameter that it is bound to. -/
def Step.Takes (m : InputMember) (s : Step) : Prop :=
  ∃ name, m.contextParam = some name ∧ s = .inputContext m.name name

/-- A step that fixes a declared value for a parameter, encoded as a value of its type. -/
def Step.Fixes (catalog : Catalog) (e : String × Json.Value) (s : Step) : Prop :=
  ∃ p ∈ catalog.parameters, p.name = e.1 ∧
    ∃ v, ParameterValue.ofJson p.type e.2 = .ok v ∧ s = .staticContext e.1 v

/-- Steps that transcribe what is declared for an operation: one for all built-in parameters, if
there are any, then one for each client parameter that is not built-in, each bound member and each
fixed value. -/
inductive Transcribes (service : Service) (catalog : Catalog) (o : Operation) : List Step → Prop
  /-- The fixed values are those of the operation, brought into the order of the catalog. -/
  | sections {fixed : List (String × Json.Value)} {members statics : List Step}
      (hmembers : List.Forall₂ Step.Takes o.boundMembers members)
      (hfixed : fixed.Perm o.staticParams.entries)
      (horder : (fixed.map Prod.fst).Sublist catalog.names)
      (hstatics : List.Forall₂ (Step.Fixes catalog) fixed statics) :
      Transcribes service catalog o
        ((if catalog.builtIns = [] then [] else [.builtIns])
          ++ (service.clientParameters.keys.filter
              (· ∉ catalog.builtIns.map Parameter.name)).map .clientContext
          ++ members ++ statics)

/-- A program that transcribes what is declared for an operation. -/
structure Program.IsTranscript (p : Program) (service : Service) (catalog : Catalog)
    (o : Operation) : Prop where
  /-- Its steps transcribe the declarations, and no other steps do. -/
  steps : ∀ steps, Transcribes service catalog o steps ↔ steps = p.steps
  /-- It has an input shape exactly if a step takes a member of the input. -/
  shape_iff : p.inputShape.isSome = true ↔ ∃ member name, .inputContext member name ∈ p.steps
  /-- The shape is that of the operation's input. -/
  shape : ∀ name, p.inputShape = some name → ∃ input, o.input = some input ∧ input.name = name
  /-- Without one, the input of a call does not matter. -/
  shapeless : p.inputShape = none →
    ∀ (builtIns : BuiltInValues) (client : OrderedMap ParameterValue) (input other : Input),
      p.resolve builtIns client other = p.resolve builtIns client input

/-! ## One step for a declaration -/

theorem Step.takes_unique : Relator.RightUnique Step.Takes := by
  rintro m s s' ⟨name, hname, rfl⟩ ⟨name', hname', rfl⟩
  rw [Option.some.inj (hname.symm.trans hname')]

theorem Step.fixes_unique (catalog : Catalog) : Relator.RightUnique (Step.Fixes catalog) := by
  rintro e s s' ⟨p, -, -, v, hv, rfl⟩ ⟨p', -, -, v', hv', rfl⟩
  have hsame : some v = some v' :=
    (ParameterValue.ofUntyped?_of_ofJson hv).symm.trans (ParameterValue.ofUntyped?_of_ofJson hv')
  rw [Option.some.inj hsame]

/-- **One transcript.** With distinct names in the catalog no two lists of steps transcribe the same
declarations. -/
theorem Transcribes.unique {service : Service} {catalog : Catalog} {o : Operation}
    {steps steps' : List Step} (hnodup : catalog.names.Nodup)
    (h : Transcribes service catalog o steps) (h' : Transcribes service catalog o steps') :
    steps = steps' := by
  obtain ⟨hmembers, hfixed, horder, hstatics⟩ := h
  obtain ⟨hmembers', hfixed', horder', hstatics'⟩ := h'
  -- the declared values can be brought into the order of the catalog in one way only
  rw [OrderedMap.eq_along_of_perm hnodup hfixed horder] at hstatics
  rw [OrderedMap.eq_along_of_perm hnodup hfixed' horder'] at hstatics'
  rw [Step.takes_unique.forall₂ hmembers hmembers',
    (Step.fixes_unique catalog).forall₂ hstatics hstatics']

/-! ## The sections of the compiled steps -/

section Sound

variable {service : Service} {catalog : Catalog} {o : Operation}

theorem builtIns_section :
    (if catalog.hasBuiltIns then [Step.builtIns] else [])
      = if catalog.builtIns = [] then [] else [.builtIns] := by
  have hiff : catalog.hasBuiltIns = true ↔ catalog.builtIns ≠ [] := by
    simp [Catalog.hasBuiltIns, Catalog.builtIns]
  by_cases h : catalog.builtIns = []
  · rw [if_pos h, if_neg (by simp [hiff, h])]
  · rw [if_neg h, if_pos (hiff.mpr h)]

theorem openClientNames_of_sound (hsound : Sound service catalog) :
    openClientNames catalog service.clientParameters.entries
      = service.clientParameters.keys.filter (· ∉ catalog.builtIns.map Parameter.name) := by
  rw [openClientNames]
  refine List.filter_congr fun name hname ↦ ?_
  obtain ⟨e, he, rfl⟩ := List.mem_map.mp hname
  obtain ⟨p, hp, hpname, -⟩ := hsound.clients e he
  have hget : catalog.get? e.1 = some p :=
    (get?_eq_some_iff_of_nodup hsound.nodup).mpr ⟨hp, hpname⟩
  have hbuiltIn : e.1 ∈ catalog.builtIns.map Parameter.name ↔ p.isBuiltIn = true := by
    rw [List.mem_map]
    constructor
    · rintro ⟨q, hq, hqname⟩
      obtain ⟨hqmem, hqbuiltIn⟩ := List.mem_filter.mp hq
      rwa [List.inj_on_of_nodup_map hsound.nodup hp hqmem (hpname.trans hqname.symm)]
    · intro h
      exact ⟨p, List.mem_filter.mpr ⟨hp, h⟩, hpname⟩
  rw [Catalog.isOpen, hget, Bool.eq_iff_iff, Bool.not_eq_true', decide_eq_true_eq, hbuiltIn,
    Bool.not_eq_true]

theorem forall₂_takes_bindings (o : Operation) :
    List.Forall₂ Step.Takes o.boundMembers (o.bindings.map fun b ↦ .inputContext b.1 b.2) := by
  rw [Operation.boundMembers, Operation.bindings]
  cases o.input with
  | none => exact .nil
  | some shape =>
    dsimp only
    rw [InputShape.bindings]
    induction shape.members with
    | nil => exact .nil
    | cons m rest ih =>
      cases hparam : m.contextParam with
      | none =>
        rw [List.filter_cons_of_neg (by simp [hparam]),
          List.filterMap_cons_none (by rw [hparam, Option.map_none])]
        exact ih
      | some name =>
        rw [List.filter_cons_of_pos (by simp [hparam]),
          List.filterMap_cons_some (by rw [hparam, Option.map_some]), List.map_cons]
        exact .cons ⟨name, hparam, rfl⟩ ih

/-- On the walk through the catalog each fixed value is found under the name of its parameter. -/
theorem forall₂_fixes_staticStep (hsound : SoundOperation catalog o) :
    List.Forall₂ (Step.Fixes catalog) (o.staticParams.along catalog.names)
      (catalog.parameters.filterMap (staticStep o.staticParams)) := by
  have hwalk : List.Forall₂ Eq catalog.parameters catalog.parameters := List.forall₂_refl _
  rw [OrderedMap.along, Catalog.names, List.filterMap_map]
  refine List.rel_filterMap ?_ hwalk
  rintro p _ rfl
  rw [Function.comp_apply, staticStep]
  cases hget : o.staticParams.get? p.name with
  | none => exact .none
  | some raw =>
    -- the check of the name has found a parameter that the value is for
    obtain ⟨q, v, hopen, hname, hv⟩ :=
      hsound.exists_ofJson (OrderedMap.get?_eq_some_iff.mp hget)
    rw [Option.bind_some, ParameterValue.ofUntyped?_of_ofJson hv]
    exact .some ⟨q, hopen.1, hname, v, hv, rfl⟩

theorem keys_staticParams_subset (hsound : SoundOperation catalog o) :
    o.staticParams.keys ⊆ catalog.names := by
  intro name hname
  obtain ⟨e, he, rfl⟩ := List.mem_map.mp hname
  obtain ⟨p, hopen, hpname, -⟩ := hsound.statics e he
  exact List.mem_map.mpr ⟨p, hopen.1, hpname⟩

theorem transcribes_stepsOf (hsound : Sound service catalog) (ho : o ∈ service.operations) :
    Transcribes service catalog o (stepsOf service catalog o) := by
  have hoperation := hsound.operations o ho
  rw [stepsOf, builtIns_section, openClientNames_of_sound hsound]
  refine .sections (forall₂_takes_bindings o) ?_ ?_ (forall₂_fixes_staticStep hoperation)
  · exact OrderedMap.along_perm hsound.nodup (keys_staticParams_subset hoperation)
  · rw [OrderedMap.map_fst_along]
    exact List.filter_sublist

/-! ## Input shapes -/

theorem inputShapeOf_eq_some_iff {name : String} :
    inputShapeOf o = some name ↔
      o.bindings ≠ [] ∧ ∃ input, o.input = some input ∧ input.name = name := by
  rw [inputShapeOf, Operation.hasBindings]
  by_cases h : o.bindings = []
  · simp [h]
  · simp [h, Option.map_eq_some_iff]

/-- An operation with bound members has an input, so the shape is not missing for want of one. -/
theorem isSome_inputShapeOf_iff : (inputShapeOf o).isSome = true ↔ o.bindings ≠ [] := by
  rw [Option.isSome_iff_exists]
  constructor
  · rintro ⟨name, hname⟩
    exact (inputShapeOf_eq_some_iff.mp hname).1
  · intro h
    rcases hinput : o.input with _ | input
    · exact absurd (by rw [Operation.bindings, hinput]) h
    · exact ⟨input.name, inputShapeOf_eq_some_iff.mpr ⟨h, input, hinput, rfl⟩⟩

theorem isSome_inputShape_programOf_iff :
    (programOf service catalog o).inputShape.isSome = true ↔
      ∃ member name, .inputContext member name ∈ (programOf service catalog o).steps := by
  have hshape : (programOf service catalog o).inputShape = inputShapeOf o := rfl
  rw [hshape, isSome_inputShapeOf_iff, steps_programOf]
  simp only [inputContext_mem_stepsOf_iff]
  constructor
  · intro h
    obtain ⟨b, hb⟩ := List.exists_mem_of_ne_nil _ h
    exact ⟨b.1, b.2, hb⟩
  · rintro ⟨member, name, hb⟩
    exact List.ne_nil_of_mem hb

theorem isTranscript_programOf (hsound : Sound service catalog) (ho : o ∈ service.operations) :
    (programOf service catalog o).IsTranscript service catalog o where
  steps := by
    intro steps
    rw [steps_programOf]
    constructor
    · intro h
      exact h.unique hsound.nodup (transcribes_stepsOf hsound ho)
    · rintro rfl
      exact transcribes_stepsOf hsound ho
  shape_iff := isSome_inputShape_programOf_iff
  shape := fun name hname ↦ (inputShapeOf_eq_some_iff.mp hname).2
  shapeless := by
    intro hnone builtIns client input other
    refine Program.resolve_congr (Program.assignments_congr_input builtIns client ?_)
    intro member name hstep
    have hsome := isSome_inputShape_programOf_iff.mpr ⟨member, name, hstep⟩
    rw [hnone] at hsome
    cases hsome

end Sound

/-- **Compilation loses and duplicates no declaration.** In an accepted service each operation is
compiled to a program that transcribes what is declared for it. The steps are gathered in the order
of precedence, so that bringing them into that order changes nothing. The program in the table is
that of the last operation of its name.

A service without endpoint rules has no programs. -/
theorem compilation_transcribes_declarations {service : Service}
    {integrations : List Call.Integration} {compiled : Compiled}
    (hcompile : compile service integrations = .ok compiled) :
    (service.endpointRules = none → ∀ name, compiled.program? name = none) ∧
    ∀ rules, service.endpointRules = some rules →
      ∃ names, checkClientParameters service.name rules.parameters
          service.clientParameters.entries = .ok names ∧
        ∃ program : Operation → Program,
          (∀ name o, service.lastOperation? name = some o →
            compiled.program? name = some (program o)) ∧
          ∀ o ∈ service.operations,
            (∃ draft overlaps,
              draftOperation service.name rules.parameters names o = .ok draft ∧
              compileOperation service.name rules.parameters names o = .ok (program o, overlaps) ∧
              program o = .ofSteps o.name rules.parameters (program o).inputShape draft.steps ∧
              (program o).steps = draft.steps) ∧
            (program o).IsTranscript service rules.parameters o := by
  cases hrules : service.endpointRules with
  | none =>
    rw [compile_of_catalog?_eq_none (Service.catalog?_of_no_rules hrules)] at hcompile
    obtain rfl := Except.ok.inj hcompile
    exact ⟨fun _ _ ↦ rfl, fun _ ↦ (nomatch ·)⟩
  | some rules =>
    obtain ⟨hsound, rfl⟩ := (compile_eq_ok_iff (Service.catalog?_of_rules hrules)).mp hcompile
    refine ⟨(nomatch ·), fun rules' h ↦ ?_⟩
    obtain rfl := Option.some.inj h
    refine ⟨_, checkClientParameters_of_sound hsound, programOf service rules.parameters, ?_, ?_⟩
    · intro name o ho
      exact program?_compiledOf_of_last ho
    · intro o ho
      have hgathered : (Draft.empty.pushAll (stepsOf service rules.parameters o)).steps
          = stepsOf service rules.parameters o := Draft.steps_pushAll _ _
      refine ⟨⟨_, _, draftOperation_of_sound hsound ho, compileOperation_of_sound hsound ho, ?_,
        ?_⟩, isTranscript_programOf hsound ho⟩
      · rw [hgathered]
        rfl
      · rw [hgathered, steps_programOf]

/-! ### An orchard with values fixed out of order -/

private def orchardCatalog : Catalog :=
  ⟨[⟨"Region", .string, some "SDK::Region", true, none⟩, .plain "Grove" .string,
    .plain "Ripe" .boolean, .plain "Tree" .string]⟩

private def orchardPick : Operation :=
  ⟨"Pick", some ⟨"PickInput", [⟨"Row", some "Tree"⟩, ⟨"Note", none⟩, ⟨"Trunk", some "Tree"⟩]⟩,
    .ofList [("Ripe", .bool true), ("Grove", .string "north")]⟩

private def orchardCount : Operation :=
  ⟨"Count", some ⟨"CountInput", [⟨"Row", none⟩]⟩, .ofList []⟩

private def orchard : Service :=
  ⟨"Orchard", some ⟨none, orchardCatalog, .null⟩,
    some (.ofList [("Tree", ⟨.string, none⟩), ("Region", ⟨.boolean, none⟩),
      ("Grove", ⟨.string, none⟩)]), [orchardPick, orchardCount]⟩

/-- Picking has two steps for one parameter, and its fixed values in the order of the catalog.
Counting has an input with a member, but none that is bound. -/
theorem orchard_programs_transcribe :
    compile orchard [] = .ok (compiledOf orchard orchardCatalog []) ∧
    (∃ program, (compiledOf orchard orchardCatalog []).program? "Pick" = some program ∧
      program.steps
        = [.builtIns, .clientContext "Tree", .clientContext "Grove", .inputContext "Row" "Tree",
            .inputContext "Trunk" "Tree", .staticContext "Grove" (.string "north"),
            .staticContext "Ripe" (.boolean true)] ∧
      program.inputShape.isSome = true) ∧
    ∃ program, (compiledOf orchard orchardCatalog []).program? "Count" = some program ∧
      program.inputShape = none ∧
      ∀ builtIns client input, program.resolve builtIns client input
        = program.resolve builtIns client ⟨"CountInput", [("Row", .bool true)]⟩ := by
  have hcompile : compile orchard [] = .ok (compiledOf orchard orchardCatalog []) :=
    compile_of_serviceFault_eq_none rfl rfl []
  obtain ⟨-, hrules⟩ := compilation_transcribes_declarations hcompile
  obtain ⟨names, -, program, htable, hoperations⟩ := hrules _ rfl
  obtain ⟨-, hpick⟩ := hoperations orchardPick List.mem_cons_self
  obtain ⟨-, hcount⟩ :=
    hoperations orchardCount (List.mem_cons_of_mem _ (List.mem_singleton_self _))
  have hmembers : List.Forall₂ Step.Takes orchardPick.boundMembers
      [.inputContext "Row" "Tree", .inputContext "Trunk" "Tree"] :=
    .cons ⟨_, rfl, rfl⟩ (.cons ⟨_, rfl, rfl⟩ .nil)
  have hfixed : List.Perm [("Grove", .string "north"), ("Ripe", .bool true)]
      orchardPick.staticParams.entries := .swap _ _ _
  have hstatics : List.Forall₂ (Step.Fixes orchardCatalog)
      [("Grove", .string "north"), ("Ripe", .bool true)]
      [.staticContext "Grove" (.string "north"), .staticContext "Ripe" (.boolean true)] :=
    .cons ⟨.plain "Grove" .string, by simp [orchardCatalog], rfl, _, rfl, rfl⟩
      (.cons ⟨.plain "Ripe" .boolean, by simp [orchardCatalog], rfl, _, rfl, rfl⟩ .nil)
  have hsteps := (hpick.steps _).mp (.sections hmembers hfixed (by decide) hstatics)
  have hmember : ∃ member name, .inputContext member name ∈ (program orchardPick).steps := by
    rw [← hsteps]
    exact ⟨"Row", "Tree", by decide⟩
  have hunread : (program orchardCount).inputShape = none := by
    have hprogram := htable "Count" orchardCount rfl
    rw [program?_compiledOf] at hprogram
    rw [← show programOf orchard orchardCatalog orchardCount = program orchardCount from
      Option.some.inj hprogram]
    rfl
  exact ⟨hcompile,
    ⟨_, htable "Pick" orchardPick rfl, hsteps.symm, hpick.shape_iff.mpr hmember⟩,
    _, htable "Count" orchardCount rfl, hunread,
    fun builtIns client input ↦ hcount.shapeless hunread builtIns client _ input⟩

end Binding

end CallRouting
