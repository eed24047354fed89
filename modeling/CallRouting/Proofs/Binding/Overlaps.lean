import CallRouting.Proofs.Binding.TypedAssignments

/-!
# What overlaps say

An overlap names a parameter that several steps of an operation aim at. Nothing is rejected for it,
so its worth lies in telling the truth about the runs: `ReportsOverlaps` says which overlaps there
are, in which order and with which sources, and `value_of_last_step` says what they mean, namely
that the last of the steps for a parameter decides its value and the steps before it do not
count.

The overlaps are read off the table that a draft keeps beside its steps, which is why they can be
told from the steps of the program, and have to come in the order in which its names were entered.
-/

namespace CallRouting.Binding

open Call (Input)

/-- The place of the first step that aims at a parameter. -/
def firstFor (steps : List Step) (parameter : String) : Nat :=
  steps.findIdx fun s ↦ s.target? = some parameter

/-- What a step has for its parameter in a call, as an untyped value; nothing if it leaves the
parameter unset. -/
def Step.given? (client : OrderedMap ParameterValue) (input : Input) : Step → Option Json.Value
  | .builtIns => none
  | .clientContext p => (client.get? p).map ParameterValue.toUntyped
  | .inputContext member _ => input.given? member
  | .staticContext _ value => some value.toUntyped

/-- What overlaps say of the steps of an operation. -/
structure ReportsOverlaps (operation : String) (steps : List Step) (l : List Overlap) : Prop where
  /-- They are overlaps of the operation. -/
  operation_eq : ∀ o ∈ l, o.operation = operation
  /-- There is at most one for a parameter. -/
  nodup : (l.map Overlap.parameter).Nodup
  /-- There is one for a parameter exactly if two steps or more aim at it. -/
  mem_iff : ∀ p, p ∈ l.map Overlap.parameter ↔ 2 ≤ (stepsFor steps p).length
  /-- The sources are those of the steps for the parameter, step by step. -/
  sources : ∀ o ∈ l, o.sources = (stepsFor steps o.parameter).map Step.source
  /-- They are in the order of precedence. -/
  precedence : ∀ o ∈ l, o.sources.Pairwise fun a b ↦ a.rank ≤ b.rank
  /-- Overlaps come in the order of the first steps for their parameters. -/
  order : l.Pairwise fun a b ↦ firstFor steps a.parameter < firstFor steps b.parameter
  /-- They are the entries with several sources in the table that the steps make. -/
  table : l = ((sourceTable steps).entries.filter fun e ↦ 1 < e.2.length).map
    fun e ↦ ⟨operation, e.1, e.2⟩

/-! ## The report -/

theorem pairwise_targets (steps : List Step) :
    (targets steps).Pairwise fun a b ↦ firstFor steps a < firstFor steps b := by
  induction steps using List.reverseRecOn with
  | nil => exact List.Pairwise.nil
  | append_singleton steps s ih =>
    -- a further step does not change where the first step for an old target is
    have hold : ∀ p ∈ targets steps,
        firstFor steps p < steps.length ∧ firstFor (steps ++ [s]) p = firstFor steps p := by
      intro p hp
      obtain ⟨s', hs', htarget⟩ := mem_targets_iff.mp hp
      have hlt : firstFor steps p < steps.length :=
        List.findIdx_lt_length.mpr ⟨s', hs', by simpa using htarget⟩
      refine ⟨hlt, ?_⟩
      rw [firstFor, List.findIdx_append]
      exact if_pos hlt
    have hkept : (targets steps).Pairwise
        fun a b ↦ firstFor (steps ++ [s]) a < firstFor (steps ++ [s]) b := by
      refine ih.imp_of_mem fun {a b} ha hb hab ↦ ?_
      rwa [(hold a ha).2, (hold b hb).2]
    rw [targets_concat]
    cases htarget : s.target? with
    | none => exact hkept
    | some p =>
      dsimp only
      split_ifs with hp
      · exact hkept
      · refine List.pairwise_append.mpr ⟨hkept, List.pairwise_singleton _ p, fun a ha b hb ↦ ?_⟩
        obtain rfl := List.mem_singleton.mp hb
        have hnew : firstFor (steps ++ [s]) b = steps.length := by
          have hnone : steps.findIdx (fun s ↦ s.target? = some b) = steps.length := by
            refine List.findIdx_eq_length.mpr fun s' hs' ↦ ?_
            rw [decide_eq_false_iff_not]
            exact fun htarget' ↦ hp (mem_targets_iff.mpr ⟨s', hs', htarget'⟩)
          rw [firstFor, List.findIdx_append, hnone, if_neg (Nat.lt_irrefl _)]
          simp [List.findIdx_cons, htarget]
        rw [hnew, (hold a ha).2]
        exact (hold a ha).1

theorem map_parameter_overlapsOf (operation : String) (steps : List Step) :
    (overlapsOf operation steps).map Overlap.parameter
      = (targets steps).filter fun p ↦ 1 < (sourcesOf steps p).length := by
  rw [overlapsOf, List.filter_map, List.map_map]
  exact List.map_id _

/-- **What the overlaps of steps say**, if the steps are in the order of precedence. -/
theorem reportsOverlaps_overlapsOf (operation : String) {steps : List Step}
    (hsteps : steps.Pairwise fun a b ↦ a.source.rank ≤ b.source.rank) :
    ReportsOverlaps operation steps (overlapsOf operation steps) where
  operation_eq := by
    intro o ho
    rw [eq_of_mem_overlapsOf ho]
  nodup := by
    rw [map_parameter_overlapsOf]
    exact ((pairwise_targets steps).imp fun hlt heq ↦ by simp [heq] at hlt).filter _
  mem_iff := by
    intro p
    rw [map_parameter_overlapsOf, List.mem_filter, decide_eq_true_eq, sourcesOf, List.length_map]
    refine and_iff_right_of_imp fun hlength ↦ ?_
    obtain ⟨s, hs⟩ := List.exists_mem_of_length_pos (Nat.lt_of_lt_of_le Nat.zero_lt_two hlength)
    obtain ⟨hmem, htarget⟩ := List.mem_filter.mp hs
    exact mem_targets_iff.mpr ⟨s, hmem, by simpa using htarget⟩
  sources := by
    intro o ho
    rw [eq_of_mem_overlapsOf ho]
    rfl
  precedence := by
    intro o ho
    rw [eq_of_mem_overlapsOf ho]
    exact List.pairwise_map.mpr (hsteps.filter _)
  order := by
    rw [overlapsOf, List.filter_map]
    exact List.pairwise_map.mpr ((pairwise_targets steps).filter _)
  table := overlapsOf_eq_map_entries operation steps

/-! ## The value that counts -/

theorem Step.Fits.contains {catalog : Catalog} {step : Step} {name : String}
    (hfits : step.Fits catalog) (htarget : step.target? = some name) :
    catalog.contains name = true := by
  cases hfits with
  | builtIns => cases htarget
  | clientContext hget | inputContext hget | staticContext hget =>
    obtain rfl := Option.some.inj htarget
    exact Option.isSome_of_eq_some hget

namespace Program

variable {p : Program} {builtIns : BuiltInValues} {client : OrderedMap ParameterValue}
  {input : Input}

theorem exists_stepWrites_of_target {step : Step} {name : String}
    (htarget : step.target? = some name) : ∃ value source,
      p.stepWrites builtIns client input step = [⟨name, value, source⟩] := by
  cases step with
  | builtIns => cases htarget
  | clientContext q | inputContext m q | staticContext q v =>
    obtain rfl := Option.some.inj htarget
    exact ⟨_, _, rfl⟩

/-- What a step without fault writes is what it has for its parameter. -/
theorem map_toUntyped_of_mem_stepWrites {step : Step} {name : String}
    (hfits : step.Fits p.catalog) (htarget : step.target? = some name)
    (hfault : p.stepFault builtIns client input step = none) {a : Assignment}
    (ha : a ∈ p.stepWrites builtIns client input step) :
    a.value.map ParameterValue.toUntyped = step.given? client input := by
  have hcontains := hfits.contains htarget
  cases step with
  | builtIns => cases htarget
  | clientContext q | staticContext q v =>
    rw [List.mem_singleton.mp ha]
    rfl
  | inputContext m q =>
    obtain rfl := Option.some.inj htarget
    rw [List.mem_singleton.mp ha]
    exact p.map_toUntyped_memberValue input hcontains hfault

theorem lastWrite_flatMap_eq_none {steps : List Step} {name : String}
    (hsteps : ∀ s ∈ steps, s ≠ .builtIns ∧ s.target? ≠ some name) :
    lastWrite (steps.flatMap (p.stepWrites builtIns client input)) name = none := by
  rw [lastWrite_eq_none_iff]
  intro a ha
  obtain ⟨s, hs, ha⟩ := List.mem_flatMap.mp ha
  obtain ⟨hbuiltIns, htarget⟩ := hsteps s hs
  cases s with
  | builtIns => exact absurd rfl hbuiltIns
  | clientContext q | inputContext m q | staticContext q v =>
    rw [List.mem_singleton.mp ha]
    exact fun heq ↦ htarget (congrArg some heq)

/-- **The last step decides.** In a run of a well-formed program that finds no fault, a parameter
that steps aim at has what the last of them has for it. -/
theorem WellFormed.value_of_last_step (hp : p.WellFormed) {record : Record}
    (hrecord : p.resolve builtIns client input = .ok record) {name : String} {step : Step}
    (hlast : (stepsFor p.steps name).getLast? = some step) :
    (record.get? name).map ParameterValue.toUntyped = step.given? client input := by
  rw [stepsFor, List.getLast?_filter, List.find?_eq_some_iff_append] at hlast
  obtain ⟨htarget, later, earlier, hreverse, hlater⟩ := hlast
  have htarget : step.target? = some name := by simpa using htarget
  have hsplit : p.steps = earlier.reverse ++ step :: later.reverse := by
    rw [← List.reverse_reverse p.steps, hreverse, List.reverse_append, List.reverse_cons,
      List.append_assoc, List.singleton_append]
  have hstep : step ∈ p.steps := by
    rw [hsplit]
    exact List.mem_append_right _ List.mem_cons_self
  rw [resolve_eq, unlessFault_eq_ok_iff, List.findSome?_eq_none_iff] at hrecord
  obtain ⟨hfault, rfl⟩ := hrecord
  have hname : name ∈ p.catalog.names :=
    Catalog.contains_iff.mp ((hp.steps step hstep).contains htarget)
  have hone : ∃ value source, p.stepWrites builtIns client input step = [⟨name, value, source⟩] :=
    exists_stepWrites_of_target htarget
  obtain ⟨value, source, hwrites⟩ := hone
  have hnone : lastWrite (later.reverse.flatMap (p.stepWrites builtIns client input)) name
      = none := by
    refine lastWrite_flatMap_eq_none fun s hs ↦ ⟨?_, ?_⟩
    · -- built-in values are taken before anything that aims at a parameter
      rintro rfl
      have horder := hp.order
      rw [hsplit, List.pairwise_append, List.pairwise_cons] at horder
      have hrank := horder.2.1.1 _ hs
      cases step with
      | builtIns => cases htarget
      | clientContext | inputContext | staticContext =>
        exact Nat.not_succ_le_zero _ hrank
    · have hother := hlater s (List.mem_reverse.mp hs)
      simpa using hother
  rw [Record.get?_materialize hname, hsplit, List.flatMap_append, List.flatMap_cons,
    lastWrite_append, lastWrite_append, hnone, Option.none_or, hwrites, lastWrite_singleton,
    if_pos rfl, Option.some_or, Option.join_some]
  refine map_toUntyped_of_mem_stepWrites (hp.steps step hstep) htarget (hfault step hstep)
    (a := ⟨name, value, source⟩) ?_
  rw [hwrites]
  exact List.mem_singleton.mpr rfl

end Program

/-! ## Services -/

theorem filter_compileWarnings (catalog : Catalog) (handlers : List Call.BuiltInHandler)
    (l : List Overlap) :
    (compileWarnings catalog handlers l).filter (· ≠ .builtInsUnsupplied)
      = l.map fun o ↦ .overlap o.parameter := by
  have hoverlaps : (l.map fun o ↦ Warning.overlap o.parameter).filter (· ≠ .builtInsUnsupplied)
      = l.map fun o ↦ .overlap o.parameter := by
    refine List.filter_eq_self.mpr fun w hw ↦ ?_
    obtain ⟨o, -, rfl⟩ := List.mem_map.mp hw
    rfl
  rw [compileWarnings, List.filter_append, hoverlaps]
  cases catalog.hasBuiltIns && handlers.isEmpty <;> rfl

/-- **Overlaps tell the truth about shadowing.** The overlaps of an accepted service are those of
its operations, one operation after the other, and there is a warning for each. An operation is
compiled to a program and its overlaps; the program is that of the table for the last operation of
its name. The overlaps report which steps of the program aim at one parameter.

In a run that finds no fault, a parameter with an overlap has what the last step for it has, and a
parameter with one step, which is one without an overlap, has what that step has.

A service without endpoint rules has no overlaps and nothing to warn of. -/
theorem overlaps_tell_shadowing {service : Service} {integrations : List Call.Integration}
    {compiled : Compiled} (hcompile : compile service integrations = .ok compiled) :
    (service.endpointRules = none → compiled.overlaps = []) ∧
    compiled.warnings.filter (· ≠ .builtInsUnsupplied)
      = compiled.overlaps.map (fun o ↦ .overlap o.parameter) ∧
    ∀ rules, service.endpointRules = some rules →
      ∃ names, checkClientParameters service.name rules.parameters
          service.clientParameters.entries = .ok names ∧
        ∃ result : Operation → Program × List Overlap,
          compiled.overlaps = service.operations.flatMap (fun o ↦ (result o).2) ∧
          (∀ name o, service.lastOperation? name = some o →
            compiled.program? name = some (result o).1) ∧
          ∀ o ∈ service.operations,
            compileOperation service.name rules.parameters names o = .ok (result o) ∧
            ReportsOverlaps o.name (result o).1.steps (result o).2 ∧
            ∀ (builtIns : BuiltInValues) (client : OrderedMap ParameterValue) (input : Input)
              (record : Record), (result o).1.resolve builtIns client input = .ok record →
              (∀ overlap ∈ (result o).2, ∃ step,
                (stepsFor (result o).1.steps overlap.parameter).getLast? = some step ∧
                (record.get? overlap.parameter).map ParameterValue.toUntyped
                  = step.given? client input) ∧
              ∀ name step, stepsFor (result o).1.steps name = [step] →
                name ∉ (result o).2.map Overlap.parameter ∧
                (record.get? name).map ParameterValue.toUntyped = step.given? client input := by
  cases hrules : service.endpointRules with
  | none =>
    rw [compile_of_catalog?_eq_none (Service.catalog?_of_no_rules hrules)] at hcompile
    obtain rfl := Except.ok.inj hcompile
    exact ⟨fun _ ↦ rfl, rfl, fun _ ↦ (nomatch ·)⟩
  | some rules =>
    obtain ⟨hsound, rfl⟩ := (compile_eq_ok_iff (Service.catalog?_of_rules hrules)).mp hcompile
    refine ⟨(nomatch ·), filter_compileWarnings _ _ _, fun rules' h ↦ ?_⟩
    obtain rfl := Option.some.inj h
    refine ⟨_, checkClientParameters_of_sound hsound,
      fun o ↦ (programOf service rules.parameters o,
        overlapsOf o.name (stepsOf service rules.parameters o)), rfl, ?_, ?_⟩
    · intro name o ho
      exact program?_compiledOf_of_last ho
    · intro o ho
      have hreport : ReportsOverlaps o.name (programOf service rules.parameters o).steps
          (overlapsOf o.name (stepsOf service rules.parameters o)) := by
        rw [steps_programOf]
        exact reportsOverlaps_overlapsOf o.name (pairwise_rank_stepsOf _ _ _)
      refine ⟨compileOperation_of_sound hsound ho, hreport, ?_⟩
      intro builtIns client input record hrecord
      have hwell := wellFormed_programOf hsound ho
      refine ⟨fun overlap hoverlap ↦ ?_, fun name step hone ↦ ⟨fun hmem ↦ ?_, ?_⟩⟩
      · have hlength := (hreport.mem_iff overlap.parameter).mp (List.mem_map_of_mem hoverlap)
        have hsteps : stepsFor (programOf service rules.parameters o).steps overlap.parameter
            ≠ [] := List.ne_nil_of_length_pos (Nat.lt_of_lt_of_le Nat.zero_lt_two hlength)
        have hlast := List.getLast?_eq_getLast_of_ne_nil hsteps
        exact ⟨_, hlast, hwell.value_of_last_step hrecord hlast⟩
      · have hlength := (hreport.mem_iff name).mp hmem
        rw [hone] at hlength
        exact absurd hlength (by simp)
      · refine hwell.value_of_last_step hrecord ?_
        rw [hone, List.getLast?_singleton]

/-! ### A gallery with two members for one parameter -/

private def galleryCatalog : Catalog :=
  ⟨[⟨"Region", .string, some "SDK::Region", true, none⟩, .plain "Room" .string,
    .plain "Lit" .boolean, .plain "Wing" .string]⟩

private def galleryShow : Operation :=
  ⟨"Show", some ⟨"ShowInput",
    [⟨"Hall", some "Room"⟩, ⟨"Lamp", some "Lit"⟩, ⟨"Door", some "Room"⟩]⟩,
    .ofList [("Lit", .bool true)]⟩

private def gallery : Service :=
  ⟨"Gallery", some ⟨none, galleryCatalog, .null⟩,
    some (.ofList [("Lit", ⟨.boolean, none⟩), ("Wing", ⟨.string, none⟩)]), [galleryShow]⟩

private def galleryClient : OrderedMap ParameterValue :=
  .ofList [("Lit", .boolean false), ("Wing", .string "east")]

private def galleryInput : Input := ⟨"ShowInput", [("Hall", .string "first")]⟩

/-- The light is what the operation fixes, after two other steps for it. There are two steps for the
room: the door is the last, and it is not given. Only the client has something for the wing. -/
theorem overlaps_of_gallery :
    compile gallery [] = .ok (compiledOf gallery galleryCatalog []) ∧
    (compiledOf gallery galleryCatalog []).overlaps
      = [⟨"Show", "Lit", [.clientContext, .inputContext, .staticContext]⟩,
          ⟨"Show", "Room", [.inputContext, .inputContext]⟩] ∧
    ∃ record,
      (programOf gallery galleryCatalog galleryShow).resolve [] galleryClient galleryInput
        = .ok record ∧
      (record.get? "Lit").map ParameterValue.toUntyped = some (.bool true) ∧
      (record.get? "Room").map ParameterValue.toUntyped = none ∧
      (record.get? "Wing").map ParameterValue.toUntyped = some (.string "east") := by
  have hcompile : compile gallery [] = .ok (compiledOf gallery galleryCatalog []) :=
    compile_of_serviceFault_eq_none rfl rfl []
  obtain ⟨record, hrecord⟩ : ∃ record,
      (programOf gallery galleryCatalog galleryShow).resolve [] galleryClient galleryInput
        = .ok record := by
    rw [Program.resolve_eq, steps_programOf]
    exact ⟨_, rfl⟩
  obtain ⟨-, -, hrules⟩ := overlaps_tell_shadowing hcompile
  obtain ⟨names, hnames, result, -, -, hresult⟩ := hrules _ rfl
  obtain ⟨hcompiled, -, hruns⟩ := hresult galleryShow (List.mem_singleton.mpr rfl)
  obtain rfl : openClientNames galleryCatalog gallery.clientParameters.entries = names :=
    Except.ok.inj hnames
  rw [compileOperation_eq] at hcompiled
  rw [← Except.ok.inj hcompiled] at hruns
  obtain ⟨hoverlap, hone⟩ := hruns [] galleryClient galleryInput record hrecord
  obtain ⟨light, hlight, hlit⟩ := hoverlap _ List.mem_cons_self
  obtain ⟨door, hdoor, hroom⟩ := hoverlap _ (List.mem_cons_of_mem _ List.mem_cons_self)
  rw [steps_programOf] at hlight hdoor hone
  obtain rfl := Option.some.inj hlight
  obtain rfl := Option.some.inj hdoor
  exact ⟨hcompile, rfl, record, hrecord, hlit, hroom, (hone "Wing" _ rfl).2⟩

end CallRouting.Binding
